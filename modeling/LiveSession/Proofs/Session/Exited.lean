import LiveSession.Proofs.Script.Bound
import LiveSession.Proofs.Session.Calls
import LiveSession.Proofs.Session.Requests
import LiveSession.Proofs.Submission.Halted

/-!
# Sessions that have exited

The engine of scripts has a namespace from its start until it is closed or a script
exits, which happens in the middle of a submission: at a line, at joined lines or at
the retry of a block. The submission asks nothing more of the engine then and comes
to the abort. Until the next start every submission is refused, and that start makes
a new namespace: nothing that was bound before makes a difference to what follows.
-/

namespace LiveSession.Session

open Submission

/-- The engine has a namespace, and the values of expression statements are
echoed. -/
structure Running (s : Session Script.State) : Prop where
  named : s.engine.names.isSome = true
  echoing : s.engine.echoes = true

/-- The names that a start binds: those of every namespace and the given ones. -/
def Given (bindings : List (String × Host)) (name : String) : Prop :=
  name ∈ Assoc.keys Script.freshNames ∨ name = Script.Builtin.selfName ∨
    name ∈ Assoc.keys bindings

/-- What is asked for in an admitted submission. -/
def asked (e : Engine Script.State) (limit : Int) (x : String × Session Script.State) :
    List (Event (Session Script.State) Escape) :=
  (runLinesNoted e limit x.1 (x.2.admitted e)).2.2

/-- The text of an attempt is interpreted, and exits with a status. -/
def Exits (around : Script.Surroundings) (a : Attempt (Session Script.State) Escape)
    (status : Option String) : Prop :=
  Magic.ofLine? a.text = none ∧ Script.exitStatus? around a.text a.before.engine = some status

/-- The abort that a submission comes to which exits with a status: it names the status, or
says why the status cannot be written. -/
def exitMessage : Option String → String
  | some status => "session exited with status " ++ status
  | none => "ValueError: " ++ Text.beyondDigitLimit ""

/-- What makes a submission safe around exits. Without a namespace it is refused, which
changes nothing. With one it is admitted, and whatever it asks for finds the
namespace; where a text exits nothing else is asked for after it, the submission comes
to the abort with the status, and the namespace is gone. -/
structure ExitSafe (e : Engine Script.State) (around : Script.Surroundings) (limit : Int)
    (x : String × Session Script.State) : Prop where
  refused : x.2.engine.names = none → execute e limit x.1 x.2 = (.error .notStarted, x.2)
  admits : x.2.engine.names.isSome = true → Admits e x.2
  running : x.2.engine.names.isSome = true → ∀ event ∈ asked e limit x, Running event.before
  ends : x.2.engine.names.isSome = true → ∀ a status, .attempted a ∈ asked e limit x →
    Exits around a status →
      (∃ earlier, asked e limit x = earlier ++ [.attempted a] ∧
        ∀ b, .attempted b ∈ earlier → halts b.outcome = false) ∧
      (execute e limit x.1 x.2).1 = .ok (.aborted (exitMessage status)) ∧
      (execute e limit x.1 x.2).2.engine.names = none

/-- A submission runs a text that can bind a name. -/
def BoundBy (e : Engine Script.State) (around : Script.Surroundings) (limit : Int)
    (x : String × Session Script.State) (name : String) : Prop :=
  Admits e x.2 ∧ ∃ a, .attempted a ∈ asked e limit x ∧ Magic.ofLine? a.text = none ∧
    Script.Binds around a.text a.before.engine name

/-- Every submission finds no more names than some and those that the submissions
before it can bind, and there are no more after all of them. -/
def Covers (e : Engine Script.State) (around : Script.Surroundings) (limit : Int) :
    List (String × Session Script.State) → (String → Prop) → Script.State → Prop
  | [], A, state => Script.BoundIn A state
  | x :: rest, A, state =>
    Script.BoundIn A x.2.engine ∧
      Covers e around limit rest (fun name => A name ∨ BoundBy e around limit x name) state

section Attempt

variable (source : String) (around : Script.Surroundings) (limit : Int) {code : String}
  {s : Session Script.State} {A : String → Prop}

/-- A magic leaves the engine as it is. -/
theorem dispatch_engine (m : Magic) (s : Session Script.State) :
    (Magic.dispatch (Script.engine source around) limit m s).2.engine = s.engine := by
  refine (Magic.dispatch_apart (P := (· = s.engine)) (fun name state h => ?_)
    (fun value state h => ?_) limit m rfl).1
  · rw [← h]
    change (Script.lookup name state).2 = state
    unfold Script.lookup
    split
    · rfl
    · split <;> rfl
  · rw [← h]
    unfold Script.engine
    dsimp only
    split <;> rfl

/-- An attempt at a text that exits comes to the abort and leaves no names. -/
theorem attempt_of_exits (hm : Magic.ofLine? code = none) {status : Option String}
    (h : Script.exitStatus? around code s.engine = some status) :
    (attempt (Script.engine source around) limit code s).1 =
        .ok (.aborted (exitMessage status)) ∧
      (attempt (Script.engine source around) limit code s).2.engine.names = none := by
  obtain ⟨hverdict, hstate⟩ := Script.interpret_of_exits source h
  obtain ⟨hengine, -, hresponse⟩ := interpret_spec (Script.engine source around) code s
  have hverdict : ((Script.engine source around).interpret s.captured code s.engine).verdict =
      .error (Script.exitFault status) := hverdict
  have hstate : ((Script.engine source around).interpret s.captured code s.engine).state =
      { s.engine with names := none } := hstate
  have hfault : ∀ f, ((Script.engine source around).interpret s.captured code s.engine).verdict =
      .error f → f.interrupts = false := by
    intro f hf
    cases hverdict.symm.trans hf
    cases status <;> rfl
  unfold attempt
  rw [hm]
  dsimp only
  rw [hengine, hstate, (hresponse hfault).2, hverdict]
  cases status <;> exact ⟨rfl, rfl⟩

/-- An attempt that does not halt finds the engine running and leaves it so. -/
theorem attempt_running (hs : Running s)
    (hh : halts (attempt (Script.engine source around) limit code s).1 = false) :
    Running (attempt (Script.engine source around) limit code s).2 := by
  cases hm : Magic.ofLine? code with
  | some m =>
    have hengine := dispatch_engine source around limit m s
    unfold attempt
    rw [hm]
    exact ⟨by rw [hengine]; exact hs.named, by rw [hengine]; exact hs.echoing⟩
  | none =>
    cases hexit : Script.exitStatus? around code s.engine with
    | some status =>
      rw [(attempt_of_exits source around limit hm hexit).1] at hh
      cases hh
    | none =>
      have hengine := (interpret_spec (Script.engine source around) code s).1
      obtain ⟨hnames, hechoes⟩ := Script.interpret_of_not_exits source hexit
      unfold attempt
      rw [hm]
      exact ⟨by rw [hengine]; exact hnames.trans hs.named,
        by rw [hengine]; exact hechoes.trans hs.echoing⟩

/-- An attempt binds no more than its text can bind, and the name of the built-in
functions. -/
theorem attempt_boundIn (hself : A Script.Builtin.selfName)
    (hcode : Magic.ofLine? code = none → ∀ name, Script.Binds around code s.engine name → A name)
    (h : Script.BoundIn A s.engine) :
    Script.BoundIn A (attempt (Script.engine source around) limit code s).2.engine := by
  unfold attempt
  split
  · rw [dispatch_engine]
    exact h
  · next hm =>
    rw [(interpret_spec (Script.engine source around) code s).1]
    exact h.interpret source hself (hcode hm)

end Attempt

section Execute

variable (source : String) (around : Script.Surroundings) (limit : Int) {s : Session Script.State}

/-- Without names a submission is refused, and nothing is changed. -/
theorem execute_of_unnamed (h : s.engine.names = none) (code : String) :
    execute (Script.engine source around) limit code s = (.error .notStarted, s) := by
  have hstarted : (Script.engine source around).isStarted s.engine = (.ok false, s.engine) := by
    change (Except.ok s.engine.names.isSome, s.engine) = _
    rw [h]
    rfl
  unfold execute
  rw [call_eq, hstarted]
  rfl

/-- With names a submission is admitted. -/
theorem admits_of_named (h : s.engine.names.isSome = true) :
    Admits (Script.engine source around) s where
  started := congrArg Except.ok h
  granted := rfl

/-- An admitted submission leaves the names that its lines leave. -/
theorem execute_names (h : s.engine.names.isSome = true) {code : String} :
    (execute (Script.engine source around) limit code s).2.engine.names =
      (runLines (Script.engine source around) limit code
        (s.admitted (Script.engine source around))).2.engine.names := by
  rw [execute_of_admits (admits_of_named source around h)]
  rfl

/-- What is asked for in an admitted submission finds the engine running. -/
theorem running_before (h : s.engine.names.isSome = true) {code : String}
    {event : Event (Session Script.State) Escape}
    (hmem : event ∈ asked (Script.engine source around) limit (code, s)) :
    Running event.before := by
  have hs : Running (s.admitted (Script.engine source around)) := ⟨h, rfl⟩
  exact runNoted_before (fun _ _ hs hh => attempt_running source around limit hs hh)
    (attempt_endsLines (Script.engine source around) limit) (fun _ _ hs => hs) (lines code) hs
    event hmem

/-- A submission in which a text exits ends with it, comes to the abort and leaves
no names. -/
theorem execute_of_exits (h : s.engine.names.isSome = true) {code : String}
    {status : Option String} {a : Attempt (Session Script.State) Escape}
    (hmem : .attempted a ∈ asked (Script.engine source around) limit (code, s))
    (hexit : Exits around a status) :
    (∃ earlier, asked (Script.engine source around) limit (code, s) = earlier ++ [.attempted a] ∧
        ∀ b, .attempted b ∈ earlier → halts b.outcome = false) ∧
      (execute (Script.engine source around) limit code s).1 =
          .ok (.aborted (exitMessage status)) ∧
      (execute (Script.engine source around) limit code s).2.engine.names = none := by
  obtain ⟨hresponse, hnames⟩ := attempt_of_exits source around limit hexit.1 hexit.2
  have houtcome := (runLinesNoted_outcome hmem).trans hresponse
  have hends := attempt_endsLines (Script.engine source around) limit
  have hearlier : ∀ b,
      .attempted b ∈ (asked (Script.engine source around) limit (code, s)).dropLast →
        halts b.outcome = false :=
    fun b hb => runNoted_dropLast hends (lines code) _ hb
  -- An abort halts, so it is the last thing that is asked for.
  obtain ⟨event, hlast⟩ := Option.isSome_iff_exists.mp
    (List.getLast?_isSome.mpr (List.ne_nil_of_mem hmem))
  have hsplit := List.dropLast_append_getLast? event hlast
  have hevent : event = .attempted a := by
    rw [← hsplit] at hmem
    rcases List.mem_append.mp hmem with hbefore | hhere
    · have hh := hearlier a hbefore
      rw [houtcome] at hh
      cases hh
    · exact (List.mem_singleton.mp hhere).symm
  subst hevent
  have hadmits := admits_of_named source around h
  have hstate : (runLinesNoted (Script.engine source around) limit code
      (s.admitted (Script.engine source around))).2.1 =
        (attempt (Script.engine source around) limit a.text a.before).2 :=
    (runNoted_last (lines code) _ hlast).2
  refine ⟨⟨_, hsplit.symm, hearlier⟩, ?_, ?_⟩
  · rw [execute_eq_runLines hadmits rfl]
    exact run_of_aborted hends (lines code) _ hlast houtcome
  · rw [execute_names source around limit h, runLines_of_noted, hstate]
    exact hnames

/-- Every submission is safe around exits. -/
theorem exitSafe (x : String × Session Script.State) :
    ExitSafe (Script.engine source around) around limit x where
  refused h := execute_of_unnamed source around limit h x.1
  admits h := admits_of_named source around h
  running h _ hmem := running_before source around limit h hmem
  ends h _ _ hmem hexit := execute_of_exits source around limit h hmem hexit

/-- A submission whose texts can bind no more than some names binds no more. -/
theorem execute_boundIn_of {A : String → Prop} (hself : A Script.Builtin.selfName)
    {code : String} (h : Script.BoundIn A s.engine) (hn : s.engine.names.isSome = true)
    (ha : ∀ a, .attempted a ∈ asked (Script.engine source around) limit (code, s) →
      Magic.ofLine? a.text = none →
        ∀ name, Script.Binds around a.text a.before.engine name → A name) :
    Script.BoundIn A (execute (Script.engine source around) limit code s).2.engine := by
  have hrun : Script.BoundIn A (runLinesNoted (Script.engine source around) limit code
      (s.admitted (Script.engine source around))).2.1.engine :=
    runNoted_kept (P := fun s => Script.BoundIn A s.engine)
      (R := fun a : Attempt (Session Script.State) Escape => Magic.ofLine? a.text = none →
        ∀ name, Script.Binds around a.text a.before.engine name → A name)
      (fun _ _ hs ha => attempt_boundIn source around limit hself ha hs) (fun _ _ hs => hs)
      (lines code) h ha
  intro names hnames
  rw [execute_names source around limit hn, runLines_of_noted] at hnames
  exact hrun names hnames

/-- A submission binds no more than the texts that it runs can bind. -/
theorem execute_boundIn {A : String → Prop} (hself : A Script.Builtin.selfName) (code : String)
    (h : Script.BoundIn A s.engine) :
    Script.BoundIn
      (fun name => A name ∨ BoundBy (Script.engine source around) around limit (code, s) name)
      (execute (Script.engine source around) limit code s).2.engine := by
  have hmono : Script.BoundIn
      (fun name => A name ∨ BoundBy (Script.engine source around) around limit (code, s) name)
      s.engine :=
    fun names hnames name hn => .inl (h names hnames name hn)
  by_cases hnamed : s.engine.names.isSome = true
  · exact execute_boundIn_of source around limit (.inl hself) hmono hnamed
      fun a hmem hm name hbinds => .inr ⟨admits_of_named source around hnamed, a, hmem, hm, hbinds⟩
  · rw [execute_of_unnamed source around limit (Option.not_isSome_iff_eq_none.mp hnamed)]
    exact hmono

end Execute

section Requests

variable (source : String) (around : Script.Surroundings) (settings : Settings)
  {s : Session Script.State}

/-- Completing a text binds the name of the built-in functions, at most. -/
theorem suggest_state (code : String) (cursor : Int) (state : Script.State) :
    (Script.suggest code cursor state).2 = state ∨
      (Script.suggest code cursor state).2 = state.keep (Script.withBuiltins state.visible) := by
  unfold Script.suggest
  dsimp only
  split
  · exact .inl rfl
  · split
    · split
      · exact .inl rfl
      · exact .inr rfl
    · exact .inl rfl

/-- Without names a request that does not start the session finds it so and leaves
it so. -/
theorem handle_unnamed (h : s.engine.names = none) {request : Request}
    (hr : ∀ bindings, request ≠ .start bindings) :
    (handle (Script.engine source around) settings request s).engine.names = none ∧
      ∀ x ∈ submissions (Script.engine source around) settings request s,
        x.2.engine.names = none := by
  cases request with
  | start bindings => exact absurd rfl (hr bindings)
  | execute code =>
    refine ⟨?_, fun x hx => ?_⟩
    · rw [handle, execute_of_unnamed source around _ h]
      exact h
    · cases List.mem_singleton.mp hx
      exact h
  | complete code cursor =>
    refine ⟨?_, fun x hx => nomatch hx⟩
    rw [handle, complete, call_eq]
    change (Script.suggest code cursor s.engine).2.names = none
    rcases suggest_state code cursor s.engine with hs | hs
    · rw [hs]
      exact h
    · rw [hs, Script.State.keep, h]
      rfl
  | close =>
    refine ⟨?_, fun x hx => nomatch hx⟩
    rw [handle, close, call_eq]
    rfl

/-- Without names requests that do not start the session find it so and leave it
so. -/
theorem handleAll_unnamed (h : s.engine.names = none) {requests : List Request}
    (hr : ∀ bindings, Request.start bindings ∉ requests) :
    (handleAll (Script.engine source around) settings requests s).engine.names = none ∧
      ∀ x ∈ submissionsAll (Script.engine source around) settings requests s,
        x.2.engine.names = none := by
  induction requests generalizing s with
  | nil => exact ⟨h, fun x hx => nomatch hx⟩
  | cons request rest ih =>
    obtain ⟨hhere, hnow⟩ := handle_unnamed source around settings h
      fun bindings heq => hr bindings (heq ▸ List.mem_cons_self)
    obtain ⟨hafter, hlater⟩ := ih hhere fun bindings hmem =>
      hr bindings (List.mem_cons_of_mem request hmem)
    refine ⟨hafter, fun x hx => ?_⟩
    rcases List.mem_append.mp hx with hx | hx
    · exact hnow x hx
    · exact hlater x hx

/-- A start makes a new namespace, so the names before it make no difference. -/
theorem start_renamed (names : Option Script.Names) (bindings : List (String × Host)) :
    start (Script.engine source around) settings bindings
        { s with engine := { s.engine with names := names } } =
      start (Script.engine source around) settings bindings s := by
  unfold start
  rw [call_eq, call_eq]
  rfl

/-- The submissions that come with a start do not depend on the names before it. -/
theorem submissions_renamed (names : Option Script.Names) (bindings : List (String × Host)) :
    submissions (Script.engine source around) settings (.start bindings)
        { s with engine := { s.engine with names := names } } =
      submissions (Script.engine source around) settings (.start bindings) s := by
  unfold submissions
  dsimp only
  rw [call_eq, call_eq]
  rfl

section Covers

variable {A : String → Prop}

/-- What covers some submissions, and any more than it the submissions after them,
covers all of them. -/
theorem Covers.append {e : Engine Script.State} {around : Script.Surroundings} {limit : Int}
    {xs ys : List (String × Session Script.State)} {state state' : Script.State}
    (h : Covers e around limit xs A state)
    (hys : ∀ A' : String → Prop, (∀ name, A name → A' name) → Script.BoundIn A' state →
      Covers e around limit ys A' state') : Covers e around limit (xs ++ ys) A state' := by
  induction xs generalizing A with
  | nil => exact hys A (fun _ h => h) h
  | cons x rest ih =>
    exact ⟨h.1, ih h.2 fun A' hsub hbound => hys A' (fun name hn => hsub name (.inl hn)) hbound⟩

/-- Binding names binds these names. -/
theorem bindAll_boundIn {bindings : List (String × Host)}
    (hb : ∀ name ∈ Assoc.keys bindings, A name) (h : Script.BoundIn A s.engine) :
    Script.BoundIn A (bindAll (Script.engine source around) bindings s).2.engine := by
  induction bindings generalizing s with
  | nil => exact h
  | cons binding rest ih =>
    have hbind : Script.BoundIn A
        ((Script.engine source around).bind binding.1 binding.2 s.engine).2 := by
      change Script.BoundIn A (Script.bind binding.1 binding.2 s.engine).2
      unfold Script.bind
      split
      · exact h
      · next names hnames =>
        intro names' hnames' name hn
        cases hnames'
        rcases Assoc.mem_keys_put hn with rfl | hold
        · exact hb _ List.mem_cons_self
        · exact h names hnames name hold
    unfold bindAll
    rw [call_eq]
    cases ((Script.engine source around).bind binding.1 binding.2 s.engine).1 with
    | error f => exact hbind
    | ok u => exact ih (fun name hn => hb name (List.mem_cons_of_mem _ hn)) hbind

/-- Startup statements bind no more than the texts that they run can bind. -/
theorem runStartup_covers (limit : Int) (hself : A Script.Builtin.selfName)
    (statements : List String) (h : Script.BoundIn A s.engine) :
    Covers (Script.engine source around) around limit
      (startupSubmissions (Script.engine source around) limit statements s) A
      (runStartup (Script.engine source around) limit statements s).2.engine := by
  induction statements generalizing s A with
  | nil => exact h
  | cons statement rest ih =>
    have hexecute := execute_boundIn source around limit hself statement h
    unfold startupSubmissions runStartup
    rcases hrun : execute (Script.engine source around) limit statement s with ⟨outcome, s'⟩
    rw [hrun] at hexecute
    refine ⟨h, ?_⟩
    cases outcome with
    | error escape => exact hexecute
    | ok response => exact ih (.inl hself) hexecute

/-- A start binds its names, and its startup statements what their texts can. -/
theorem start_covers (bindings : List (String × Host)) (s : Session Script.State) :
    Covers (Script.engine source around) around settings.sampleLimit
      (submissions (Script.engine source around) settings (.start bindings) s) (Given bindings)
      (start (Script.engine source around) settings bindings s).2.engine := by
  obtain ⟨fresh, hcall, hfresh⟩ : ∃ fresh,
      call (Script.engine source around).start s = (.ok (), fresh) ∧
        Script.BoundIn (Given bindings) fresh.engine := by
    refine ⟨{ s with engine := { s.engine with names := some Script.freshNames } }, rfl, ?_⟩
    intro names hnames name hn
    cases hnames
    exact .inl hn
  have hbound : Script.BoundIn (Given bindings)
      (bindAll (Script.engine source around) (Assoc.ofList (· == ·) bindings) fresh).2.engine :=
    bindAll_boundIn source around (fun name hn => .inr (.inr (Assoc.mem_keys_ofList hn))) hfresh
  unfold submissions start
  dsimp only
  rw [hcall]
  dsimp only
  rcases hbind : bindAll (Script.engine source around) (Assoc.ofList (· == ·) bindings) fresh with
    ⟨bound, s'⟩
  rw [hbind] at hbound
  cases bound with
  | error escape => exact hbound
  | ok u =>
    have hcovers := runStartup_covers source around settings.sampleLimit (.inr (.inl rfl))
      settings.startupStatements hbound
    dsimp only at hcovers ⊢
    rcases hrun : runStartup (Script.engine source around) settings.sampleLimit
      settings.startupStatements s' with ⟨ran, s''⟩
    rw [hrun] at hcovers
    cases ran with
    | error escape => exact hcovers
    | ok u => exact hcovers

/-- Requests that do not start the session bind no more than the texts that their
submissions run can bind. -/
theorem handleAll_covers (hself : A Script.Builtin.selfName) {requests : List Request}
    (hr : ∀ bindings, Request.start bindings ∉ requests) (h : Script.BoundIn A s.engine) :
    Covers (Script.engine source around) around settings.sampleLimit
      (submissionsAll (Script.engine source around) settings requests s) A
      (handleAll (Script.engine source around) settings requests s).engine := by
  induction requests generalizing s A with
  | nil => exact h
  | cons request rest ih =>
    have hlater : ∀ bindings, Request.start bindings ∉ rest := fun bindings hmem =>
      hr bindings (List.mem_cons_of_mem request hmem)
    have hhere : Covers (Script.engine source around) around settings.sampleLimit
        (submissions (Script.engine source around) settings request s) A
        (handle (Script.engine source around) settings request s).engine := by
      cases request with
      | start bindings => exact absurd List.mem_cons_self (hr bindings)
      | execute code => exact ⟨h, execute_boundIn source around _ hself code h⟩
      | complete code cursor =>
        change Script.BoundIn A _
        rw [handle, complete, call_eq]
        change Script.BoundIn A (Script.suggest code cursor s.engine).2
        rcases suggest_state code cursor s.engine with hs | hs
        · rw [hs]
          exact h
        · rw [hs]
          exact .keep (h.visible.withBuiltins hself)
      | close =>
        change Script.BoundIn A _
        rw [handle, close, call_eq]
        exact fun names hnames => nomatch hnames
    exact hhere.append fun A' hsub hbound => ih (hsub _ hself) hlater hbound

end Covers

end Requests

/-- A session that has exited is not touched again, whatever the calls of its scripts do.
Every submission of every request is safe around exits, and within a script nothing is
run or evaluated after one. Closing drops the namespace too, and until a start all
submissions are refused and change nothing. A start makes a new namespace: what follows
does not depend on the names before it, and finds no names but those of every
namespace, those given and those bound since. -/
theorem exited_untouched (source : String) (around : Script.Surroundings) (settings : Settings)
    (requests : List Request) (s : Session Script.State) :
    let e := Script.engine source around
    let limit : Int := settings.sampleLimit
    (∀ x ∈ submissionsAll e settings requests s, ExitSafe e around limit x) ∧
    (∀ echoes names before after status,
      (Script.runBody around echoes names before).result = .error (.exited status) →
        Script.runBody around echoes names (before ++ after) =
          Script.runBody around echoes names before) ∧
    (∀ names before after status,
      (Script.evaluateAll around names before).result = .error (.exited status) →
        Script.evaluateAll around names (before ++ after) =
          Script.evaluateAll around names before) ∧
    (handle e settings .close s).engine.names = none ∧
    (s.engine.names = none → (∀ bindings, Request.start bindings ∉ requests) →
      (handleAll e settings requests s).engine.names = none ∧
      ∀ x ∈ submissionsAll e settings requests s,
        execute e limit x.1 x.2 = (.error .notStarted, x.2)) ∧
    (∀ bindings,
      (∀ names,
        handleAll e settings (.start bindings :: requests)
            { s with engine := { s.engine with names := names } } =
          handleAll e settings (.start bindings :: requests) s ∧
        submissionsAll e settings (.start bindings :: requests)
            { s with engine := { s.engine with names := names } } =
          submissionsAll e settings (.start bindings :: requests) s) ∧
      ((∀ bindings, Request.start bindings ∉ requests) →
        Covers e around limit (submissionsAll e settings (.start bindings :: requests) s)
          (Given bindings) (handleAll e settings (.start bindings :: requests) s).engine)) := by
  intro e limit
  refine ⟨fun x _ => exitSafe source around limit x, ?_, ?_, ?_, ?_,
    fun bindings => ⟨fun names => ?_, ?_⟩⟩
  · exact fun echoes names before after status hexit =>
      Script.runBody_append_of_stopped hexit after
  · exact fun names before after status hexit => Script.evaluateAll_append_of_stopped hexit after
  · rw [handle, close, call_eq]
    rfl
  · intro h hr
    obtain ⟨hafter, hfound⟩ := handleAll_unnamed source around settings h hr
    exact ⟨hafter, fun x hx => execute_of_unnamed source around limit (hfound x hx) x.1⟩
  · have hhandle : handle e settings (.start bindings)
        { s with engine := { s.engine with names := names } } =
        handle e settings (.start bindings) s :=
      congrArg Prod.snd (start_renamed source around settings names bindings)
    unfold handleAll submissionsAll
    rw [hhandle, submissions_renamed]
    exact ⟨rfl, rfl⟩
  · intro hr
    exact (start_covers source around settings bindings s).append fun A' hsub hbound =>
      handleAll_covers source around settings (hsub _ (.inr (.inl rfl))) hr hbound

/-- A session whose engine has just been started. -/
def justStarted : Session Script.State :=
  { engine := { names := some Script.freshNames } }

/-- Surroundings in which a text is run that is given to `exec`. -/
def executing : Script.Surroundings where
  call _ callee arguments names :=
    match Script.isEntity (Script.Builtin.routine "exec") callee, arguments with
    | true, [.string code] =>
      match Script.Reading.ofText code.toList with
      | .script body =>
        let r := Script.runBody .silent false names body
        ⟨r.result.map fun _ => .null, r.names, r.emissions⟩
      | _ => ⟨.ok .null, names, []⟩
    | _, _ => ⟨.ok .null, names, []⟩
  echoPlace := ""

/-- A submission in which a call exits comes to the abort with the status, and the next
one is refused. -/
theorem exited_untouched_exec :
    (execute (Script.engine "<console>" executing) ({} : Settings).sampleLimit
        "exec('raise SystemExit(3)')" justStarted).1 =
        .ok (.aborted "session exited with status 3") ∧
      ∀ code, execute (Script.engine "<console>" executing) ({} : Settings).sampleLimit code
          (execute (Script.engine "<console>" executing) ({} : Settings).sampleLimit
            "exec('raise SystemExit(3)')" justStarted).2 =
        (.error .notStarted,
          (execute (Script.engine "<console>" executing) ({} : Settings).sampleLimit
            "exec('raise SystemExit(3)')" justStarted).2) := by
  have hlines : lines "exec('raise SystemExit(3)')" = ["exec('raise SystemExit(3)')"] := by decide
  have hmagic : Magic.ofLine? "exec('raise SystemExit(3)')" = none := by decide
  have hexit : Script.exitStatus? executing "exec('raise SystemExit(3)')"
      (admitted (Script.engine "<console>" executing) justStarted).engine = some (some "3") := by
    decide +kernel
  have hnamed : justStarted.engine.names.isSome = true := rfl
  have hmem : .attempted ⟨admitted (Script.engine "<console>" executing) justStarted,
      "exec('raise SystemExit(3)')",
      (attempt (Script.engine "<console>" executing) ({} : Settings).sampleLimit
        "exec('raise SystemExit(3)')"
        (admitted (Script.engine "<console>" executing) justStarted)).1⟩ ∈
        asked (Script.engine "<console>" executing) ({} : Settings).sampleLimit
          ("exec('raise SystemExit(3)')", justStarted) := by
    unfold asked runLinesNoted
    rw [hlines, runNoted_cons (attempt_endsLines _ _)]
    exact List.mem_append_left _ List.mem_cons_self
  have hfirst : ∀ code (s : Session Script.State),
      (code, s) ∈ submissionsAll (Script.engine "<console>" executing) {} [.execute code] s :=
    fun code s => List.mem_append_left _ (List.mem_singleton.mpr rfl)
  -- From here on nothing is to be evaluated, so the session is any session.
  generalize justStarted = s at *
  generalize executing = around at *
  obtain ⟨hruns, -⟩ :=
    exited_untouched "<console>" around {} [.execute "exec('raise SystemExit(3)')"] s
  obtain ⟨-, hresponse, hnames⟩ :=
    (hruns _ (hfirst _ s)).ends hnamed _ (some "3") hmem ⟨hmagic, hexit⟩
  refine ⟨hresponse, fun code => ?_⟩
  have hnext : ∀ bindings, Request.start bindings ∉ [Request.execute code] := fun bindings h =>
    nomatch List.mem_singleton.mp h
  obtain ⟨-, -, -, -, hrefused, -⟩ := exited_untouched "<console>" around {} [.execute code]
    (execute (Script.engine "<console>" around) ({} : Settings).sampleLimit
      "exec('raise SystemExit(3)')" s).2
  exact (hrefused hnames hnext).2 _ (hfirst code _)

/-- Leaving the environment exits as well. -/
example : Script.exitStatus? .silent "exit(3)" justStarted.engine = some (some "3") := by
  decide +kernel

end LiveSession.Session
