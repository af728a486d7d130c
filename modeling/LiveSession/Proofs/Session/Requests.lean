import LiveSession.Proofs.Session.Seen

/-!
# Requests to a session

A session is started, executes submissions, completes texts and is closed, in
any order and any number of times; what one request raises does not keep the
next from being made. What every operation keeps is kept by all requests, and
every submission, those of the startup statements included, finds it.
-/

namespace LiveSession

variable {σ τ : Type}

/-- A request to a session. -/
inductive Request where
  | start (bindings : List (String × Host))
  | execute (code : String)
  | complete (code : String) (cursor : Int)
  | close

namespace Session

/-- The session after a request, whether it gave a result or raised. -/
def handle (e : Engine σ) (settings : Settings) : Request → Session σ → Session σ
  | .start bindings, s => (start e settings bindings s).2
  | .execute code, s => (execute e settings.sampleLimit code s).2
  | .complete code cursor, s => (complete e code cursor s).2
  | .close, s => (close e s).2

/-- The session after requests that are made one after the other. -/
def handleAll (e : Engine σ) (settings : Settings) : List Request → Session σ → Session σ
  | [], s => s
  | request :: rest, s => handleAll e settings rest (handle e settings request s)

/-- The submissions of startup statements, each with the session that it is
executed in. -/
def startupSubmissions (e : Engine σ) (limit : Int) :
    List String → Session σ → List (String × Session σ)
  | [], _ => []
  | statement :: rest, s =>
    (statement, s) ::
      match execute e limit statement s with
      | (.error _, _) => []
      | (.ok response, s) =>
        startupSubmissions e limit rest
          (s.report .info .pipeline
            ("startup statement " ++ Text.quote statement ++ " finished with status " ++
              response.status))

/-- The submissions that a request comes with, each with the session that it is
executed in. -/
def submissions (e : Engine σ) (settings : Settings) :
    Request → Session σ → List (String × Session σ)
  | .start bindings, s =>
    match call e.start s with
    | (.error _, _) => []
    | (.ok (), s) =>
      match bindAll e (Assoc.ofList (· == ·) bindings) s with
      | (.error _, _) => []
      | (.ok (), s) => startupSubmissions e settings.sampleLimit settings.startupStatements s
  | .execute code, s => [(code, s)]
  | .complete _ _, _ => []
  | .close, _ => []

/-- The submissions of requests that are made one after the other. -/
def submissionsAll (e : Engine σ) (settings : Settings) :
    List Request → Session σ → List (String × Session σ)
  | [], _ => []
  | request :: rest, s =>
    submissions e settings request s ++
      submissionsAll e settings rest (handle e settings request s)

/-- A predicate on sessions that every operation keeps. -/
structure Kept (e : Engine σ) (limit : Int) (P : Session σ → Prop) : Prop where
  start : ∀ s, P s → P { s with engine := (e.start s.engine).2 }
  bind : ∀ name value s, P s → P { s with engine := (e.bind name value s.engine).2 }
  complete : ∀ code cursor s, P s → P { s with engine := (e.complete code cursor s.engine).2 }
  close : ∀ s, P s → P { s with engine := (e.close s.engine).2 }
  execute : ∀ code s, P s → P (execute e limit code s).2
  drain : ∀ s, P s → P s.drain.2
  report : ∀ level reporter message s, P s → P (s.report level reporter message)

section Kept

variable {e : Engine σ} {settings : Settings} {P : Session σ → Prop}

/-- Binding names keeps what binding one keeps. -/
theorem bindAll_kept {limit : Int} (hk : Kept e limit P) (bindings : List (String × Host))
    {s : Session σ} (hs : P s) : P (bindAll e bindings s).2 := by
  induction bindings generalizing s with
  | nil => exact hs
  | cons binding rest ih =>
    have hbind := hk.bind binding.1 binding.2 s hs
    unfold bindAll
    rw [call_eq]
    cases (e.bind binding.1 binding.2 s.engine).1 with
    | error f => exact hbind
    | ok u => exact ih hbind

/-- Startup statements keep what submissions keep, and each finds it. -/
theorem runStartup_kept {limit : Int} (hk : Kept e limit P) (statements : List String)
    {s : Session σ} (hs : P s) :
    P (runStartup e limit statements s).2 ∧
      ∀ x ∈ startupSubmissions e limit statements s, P x.2 := by
  induction statements generalizing s with
  | nil => exact ⟨hs, fun x hx => nomatch hx⟩
  | cons statement rest ih =>
    have hexecute := hk.execute statement s hs
    unfold runStartup startupSubmissions
    rcases hrun : execute e limit statement s with ⟨outcome, s'⟩
    rw [hrun] at hexecute
    cases outcome with
    | error escape =>
      refine ⟨hexecute, fun x hx => ?_⟩
      cases List.mem_singleton.mp hx
      exact hs
    | ok response =>
      obtain ⟨hafter, hsubmissions⟩ := ih (hk.report .info .pipeline
        ("startup statement " ++ Text.quote statement ++ " finished with status " ++
          response.status) s' hexecute)
      refine ⟨hafter, fun x hx => ?_⟩
      rcases List.mem_cons.mp hx with rfl | hmem
      · exact hs
      · exact hsubmissions x hmem

/-- Starting keeps what every operation keeps, and the startup statements find
it. -/
theorem start_kept (hk : Kept e settings.sampleLimit P) (bindings : List (String × Host))
    {s : Session σ} (hs : P s) :
    P (start e settings bindings s).2 ∧
      ∀ x ∈ submissions e settings (.start bindings) s, P x.2 := by
  have hstart := hk.start s hs
  unfold submissions start
  dsimp only
  rw [call_eq]
  cases (e.start s.engine).1 with
  | error f => exact ⟨hstart, fun x hx => nomatch hx⟩
  | ok u =>
    dsimp only [Except.mapError]
    have hbind := bindAll_kept hk (Assoc.ofList (· == ·) bindings) hstart
    rcases hbound : bindAll e (Assoc.ofList (· == ·) bindings)
      { s with engine := (e.start s.engine).2 } with ⟨bound, s'⟩
    rw [hbound] at hbind
    cases bound with
    | error escape => exact ⟨hbind, fun x hx => nomatch hx⟩
    | ok u =>
      obtain ⟨hafter, hsubmissions⟩ := runStartup_kept hk settings.startupStatements hbind
      dsimp only
      rcases hrun : runStartup e settings.sampleLimit settings.startupStatements s' with ⟨ran, s''⟩
      rw [hrun] at hafter
      refine ⟨?_, hsubmissions⟩
      cases ran with
      | error escape => exact hafter
      | ok u => exact hk.report _ _ _ _ hafter

/-- Closing keeps what every operation keeps. -/
theorem close_kept {limit : Int} (hk : Kept e limit P) {s : Session σ} (hs : P s) :
    P (close e s).2 := by
  have hclose := hk.close s hs
  unfold close
  rw [call_eq]
  cases (e.close s.engine).1 with
  | error f => exact hclose
  | ok u => exact hk.report _ _ _ _ (hk.drain _ hclose)

/-- A request keeps what every operation keeps, and its submissions find it. -/
theorem handle_kept (hk : Kept e settings.sampleLimit P) (request : Request) {s : Session σ}
    (hs : P s) :
    P (handle e settings request s) ∧ ∀ x ∈ submissions e settings request s, P x.2 := by
  cases request with
  | start bindings => exact start_kept hk bindings hs
  | execute code =>
    refine ⟨hk.execute code s hs, fun x hx => ?_⟩
    cases List.mem_singleton.mp hx
    exact hs
  | complete code cursor =>
    refine ⟨?_, fun x hx => nomatch hx⟩
    have hcomplete : handle e settings (.complete code cursor) s =
        (call (e.complete code cursor) s).2 := rfl
    rw [hcomplete, call_eq]
    exact hk.complete code cursor s hs
  | close => exact ⟨close_kept hk hs, fun x hx => nomatch hx⟩

/-- Requests keep what every operation keeps, and all submissions find it. -/
theorem handleAll_kept (hk : Kept e settings.sampleLimit P) (requests : List Request)
    {s : Session σ} (hs : P s) :
    P (handleAll e settings requests s) ∧
      ∀ x ∈ submissionsAll e settings requests s, P x.2 := by
  induction requests generalizing s with
  | nil => exact ⟨hs, fun x hx => nomatch hx⟩
  | cons request rest ih =>
    obtain ⟨hhandle, hsubmissions⟩ := handle_kept hk request hs
    obtain ⟨hafter, hlater⟩ := ih hhandle
    refine ⟨hafter, fun x hx => ?_⟩
    rcases List.mem_append.mp hx with hnow | hthen
    · exact hsubmissions x hnow
    · exact hlater x hthen

end Kept

section Seen

variable {view : τ → σ} {withheld : τ → String} {e : Engine τ} {image : Engine σ}

/-- Binding names is seen as binding them with the other engine. -/
theorem bindAll_seenWith (hv : e.Withholds view withheld image)
    (bindings : List (String × Host)) (more : Nat) (s : Session τ) :
    bindAll image bindings (s.seenWith view withheld more) =
      ((bindAll e bindings s).1, (bindAll e bindings s).2.seenWith view withheld more) := by
  induction bindings generalizing s with
  | nil => rfl
  | cons binding rest ih =>
    unfold bindAll
    rw [call_seenWith (hv.bind binding.1 binding.2)]
    rcases call (e.bind binding.1 binding.2) s with ⟨outcome, s'⟩
    cases outcome with
    | error escape => rfl
    | ok u => exact ih s'

/-- Running startup statements is seen as running them with the other engine. -/
theorem runStartup_seenWith (hv : e.Withholds view withheld image) (limit : Int)
    (statements : List String) (more : Nat) (s : Session τ) :
    runStartup image limit statements (s.seenWith view withheld more) =
      ((runStartup e limit statements s).1,
        (runStartup e limit statements s).2.seenWith view withheld more) := by
  induction statements generalizing s with
  | nil => rfl
  | cons statement rest ih =>
    unfold runStartup
    rw [execute_seenWith hv]
    rcases execute e limit statement s with ⟨outcome, s'⟩
    cases outcome with
    | error escape => rfl
    | ok response =>
      exact ih (s'.report .info .pipeline
        ("startup statement " ++ Text.quote statement ++ " finished with status " ++
          response.status))

/-- Starting is seen as starting with the other engine. -/
theorem start_seenWith (hv : e.Withholds view withheld image) (settings : Settings)
    (bindings : List (String × Host)) (more : Nat) (s : Session τ) :
    start image settings bindings (s.seenWith view withheld more) =
      ((start e settings bindings s).1,
        (start e settings bindings s).2.seenWith view withheld more) := by
  unfold start
  rw [call_seenWith hv.start, hv.kind]
  rcases call e.start s with ⟨started, s'⟩
  cases started with
  | error escape => rfl
  | ok u =>
    dsimp only
    rw [bindAll_seenWith hv]
    rcases bindAll e (Assoc.ofList (· == ·) bindings) s' with ⟨bound, s''⟩
    cases bound with
    | error escape => rfl
    | ok u =>
      dsimp only
      rw [runStartup_seenWith hv]
      rcases runStartup e settings.sampleLimit settings.startupStatements s'' with ⟨ran, s'''⟩
      cases ran with
      | error escape => rfl
      | ok u => rfl

/-- Closing is seen as closing with the other engine, which drops what is
withheld with what is captured. -/
theorem close_seenWith (hv : e.Withholds view withheld image) (more : Nat) (s : Session τ) :
    close image (s.seenWith view withheld more) =
      ((close e s).1, (close e s).2.seenWith view withheld more) := by
  have hclose : image.close (s.seenWith view withheld more).engine =
      ((e.close s.engine).1, view (e.close s.engine).2) := hv.close s.engine
  have hdropped := hv.dropped s.engine
  unfold close
  rw [call_eq, call_eq, hclose, hv.kind]
  dsimp only
  rcases hx : e.close s.engine with ⟨closed, state⟩
  rw [hx] at hdropped
  cases closed with
  | error f =>
    have hstate := seenWith_engine view (s := s) hdropped more
    dsimp only [Except.mapError]
    rw [hstate]
  | ok u =>
    dsimp only [Except.mapError, seenWith, drain, report]
    rw [hdropped, String.append_empty]
    rfl

/-- A request is seen as a request with the other engine. -/
theorem handle_seenWith (hv : e.Withholds view withheld image) (settings : Settings)
    (request : Request) (more : Nat) (s : Session τ) :
    handle image settings request (s.seenWith view withheld more) =
      (handle e settings request s).seenWith view withheld more := by
  cases request with
  | start bindings => exact congrArg Prod.snd (start_seenWith hv settings bindings more s)
  | execute code => exact congrArg Prod.snd (execute_seenWith hv settings.sampleLimit code more s)
  | complete code cursor => exact congrArg Prod.snd (call_seenWith (hv.complete code cursor) more s)
  | close => exact congrArg Prod.snd (close_seenWith hv more s)

/-- Requests are seen as requests with the other engine. -/
theorem handleAll_seenWith (hv : e.Withholds view withheld image) (settings : Settings)
    (requests : List Request) (more : Nat) (s : Session τ) :
    handleAll image settings requests (s.seenWith view withheld more) =
      (handleAll e settings requests s).seenWith view withheld more := by
  induction requests generalizing s with
  | nil => rfl
  | cons request rest ih =>
    unfold handleAll
    rw [handle_seenWith hv, ih]

/-- Requests with an engine that withholds nothing. -/
theorem handleAll_seen (hv : e.Views view image) (settings : Settings) (requests : List Request)
    (more : Nat) (s : Session τ) :
    handleAll image settings requests (s.seen view more) =
      (handleAll e settings requests s).seen view more := by
  rw [← seenWith_nothing]
  exact handleAll_seenWith hv.withholds settings requests more s

end Seen

end Session

end LiveSession
