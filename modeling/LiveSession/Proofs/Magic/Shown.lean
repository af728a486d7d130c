import LiveSession.Magic.Dispatch
import LiveSession.Proofs.Engine.Recorded

/-!
# What a magic asks for

A magic that shows a value looks a name up once. If the name is bound to a
handle, one sample of it is asked for; what came of that, or else the value
itself, is decomposed, once. A magic of another name asks for nothing. A
recorded engine shows these calls, and the list of samples shows the sampling.
-/

namespace LiveSession

variable {σ : Type}

/-- Whether a value is a handle. -/
def Host.isHandle : Host → Bool
  | .handle _ _ => true
  | _ => false

namespace Magic

/-- Whether a magic is one of the two that show a value. -/
def shows (m : Magic) : Bool :=
  m.name == "json" || m.name == "table"

/-- How a magic that shows a value renders it. -/
def render (m : Magic) : Entry → Except Escape Response :=
  if m.name = "json" then fun entry => .ok (asStructured entry) else asTable

/-- What is decomposed in the place of a value: a list of the sampled elements for
a handle, and any other value itself. -/
def sampled (limit : Int) : Host → Except Fault Host
  | .handle take _ =>
    match take limit with
    | .error f => .error f
    | .ok taken =>
      match taken.elements? with
      | some elements => .ok (.list elements)
      | none => .error (notIterable taken)
  | h => .ok h

/-- The structured form of a value where nothing interrupts: there is none if
sampling or decomposing fails. -/
def formOf (e : Engine σ) (limit : Int) (h : Host) (state : σ) : Option Entry :=
  match sampled limit h with
  | .error _ => none
  | .ok value =>
    match (e.decompose value state).1 with
    | .error _ => none
    | .ok entry => entry

/-- The samples that are asked for in order to show a value. -/
def samplesOf (limit : Int) (h : Host) : List Int :=
  if h.isHandle then [limit] else []

/-- The calls of the engine that a magic comes with in a state. -/
def engineCalls (e : Engine σ) (limit : Int) (m : Magic) (state : σ) : List EngineCall :=
  if m.shows then
    .lookup m.argument ::
      match (e.lookup m.argument state).1 with
      | .error _ => []
      | .ok h =>
        match sampled limit h with
        | .error _ => []
        | .ok value => [.decompose value]
  else []

/-- The samples that a magic asks for in a state. -/
def samplesAsked (e : Engine σ) (limit : Int) (m : Magic) (state : σ) : List Int :=
  if m.shows then
    match (e.lookup m.argument state).1 with
    | .error _ => []
    | .ok h => samplesOf limit h
  else []

/-- The answer of a magic to the structured form of a value. -/
def answer (render : Entry → Except Escape Response) :
    Except Escape (Option Entry) → Except Escape Response
  | .error escape => .error escape
  | .ok none => .ok conversionError
  | .ok (some entry) => render entry

/-- Sampling asks a handle for a sample once and leaves any other value alone. -/
theorem sample_eq (limit : Int) (h : Host) (s : Session σ) :
    sample limit h s = (sampled limit h, { s with samples := s.samples ++ samplesOf limit h }) := by
  cases h with
  | handle take attributes =>
    unfold sample sampled
    dsimp only
    cases take limit with
    | error f => rfl
    | ok taken =>
      dsimp only
      cases taken.elements? with
      | none => rfl
      | some elements => rfl
  | _ =>
    change _ = (_, { s with samples := s.samples ++ [] })
    rw [List.append_nil]
    rfl

/-- A handle is sampled by listing the elements of what it gives. -/
theorem sampled_handle {limit : Int} {take : Int → Except Fault Host}
    {attributes : List (String × Host)} {value : Host}
    (h : sampled limit (.handle take attributes) = .ok value) :
    ∃ taken elements, take limit = .ok taken ∧ taken.elements? = some elements ∧
      value = .list elements := by
  unfold sampled at h
  dsimp only at h
  cases ht : take limit with
  | error f =>
    rw [ht] at h
    cases h
  | ok taken =>
    rw [ht] at h
    dsimp only at h
    cases hx : taken.elements? with
    | none =>
      rw [hx] at h
      cases h
    | some elements =>
      rw [hx] at h
      cases h
      exact ⟨taken, elements, rfl, hx, rfl⟩

/-- A magic that shows a value is announced in the journal and shows it. -/
theorem dispatch_of_shows {m : Magic} (hm : m.shows = true) (e : Engine σ) (limit : Int)
    (s : Session σ) :
    dispatch e limit m s =
      showValue e limit m.argument m.render
        (s.report .debug .magics ("magic %" ++ m.name ++ " " ++ m.argument)) := by
  unfold dispatch render
  dsimp only
  by_cases hj : m.name = "json"
  · rw [if_pos hj, if_pos hj]
  · have ht : m.name = "table" := by simpa [shows, hj] using hm
    rw [if_neg hj, if_pos ht, if_neg hj]

/-- A magic of another name is unknown and does nothing. -/
theorem dispatch_of_not_shows {m : Magic} (hm : m.shows = false) (e : Engine σ) (limit : Int)
    (s : Session σ) : dispatch e limit m s = (.ok (unknown m.name), s) := by
  have hnames : m.name ≠ "json" ∧ m.name ≠ "table" := by simpa [shows] using hm
  unfold dispatch
  dsimp only
  rw [if_neg hnames.1, if_neg hnames.2]

section Show

variable {e : Engine σ} {limit : Int} {name : String} {render : Entry → Except Escape Response}
  {s : Session σ}

/-- A name that is not bound is an error of the submission; any other fault of
looking it up is passed on. -/
theorem showValue_of_error {f : Fault} (hl : (e.lookup name s.engine).1 = .error f) :
    showValue e limit name render s =
      (if f.nature = .missing then .ok (unbound name) else .error (.fault f),
        { s with engine := (e.lookup name s.engine).2 }) := by
  unfold showValue
  rcases hx : e.lookup name s.engine with ⟨found, state⟩
  rw [hx] at hl
  subst hl
  dsimp only
  split <;> rfl

/-- A bound value is answered with its structured form. -/
theorem showValue_of_ok {h : Host} (hl : (e.lookup name s.engine).1 = .ok h) :
    showValue e limit name render s =
      (answer render
          (structuredForm e limit name h { s with engine := (e.lookup name s.engine).2 }).1,
        (structuredForm e limit name h { s with engine := (e.lookup name s.engine).2 }).2) := by
  unfold showValue
  rcases hx : e.lookup name s.engine with ⟨found, state⟩
  rw [hx] at hl
  subst hl
  dsimp only
  rcases structuredForm e limit name h { s with engine := state } with ⟨form, s'⟩
  cases form with
  | error escape => rfl
  | ok found =>
    cases found with
    | none => rfl
    | some entry => rfl

end Show

section Form

variable (e : Engine σ) (limit : Int) (name : String)

/-- Where neither sampling nor decomposing interrupts, the structured form of a value
is taken. -/
theorem structuredForm_eq {h : Host} {s : Session σ}
    (hs : ∀ f, sampled limit h = .error f → f.interrupts = false)
    (hd : ∀ value f, (e.decompose value s.engine).1 = .error f → f.interrupts = false) :
    (structuredForm e limit name h s).1 = .ok (formOf e limit h s.engine) := by
  unfold structuredForm formOf
  rw [sample_eq]
  cases hx : sampled limit h with
  | error f =>
    simp only [hs f hx, Bool.false_eq_true, if_false]
  | ok value =>
    dsimp only
    have hvalue := hd value
    rcases hr : e.decompose value s.engine with ⟨found, state⟩
    rw [hr] at hvalue
    cases found with
    | error f => simp only [hvalue f rfl, Bool.false_eq_true, if_false]
    | ok entry => rfl

/-- Taking the structured form of a value asks for its samples. -/
theorem structuredForm_samples (h : Host) (s : Session σ) :
    (structuredForm e limit name h s).2.samples = s.samples ++ samplesOf limit h := by
  unfold structuredForm
  rw [sample_eq]
  cases sampled limit h with
  | error f =>
    dsimp only
    split <;> rfl
  | ok value =>
    dsimp only
    rcases e.decompose value s.engine with ⟨found, state⟩
    cases found with
    | error f =>
      dsimp only
      split <;> rfl
    | ok entry => rfl

/-- Taking the structured form of a value decomposes what is sampled of it. -/
theorem structuredForm_calls (h : Host) (s : Session (Engine.Recording σ)) :
    (structuredForm e.recorded limit name h s).2.engine.2 =
      s.engine.2 ++
        match sampled limit h with
        | .error _ => []
        | .ok value => [.decompose value] := by
  unfold structuredForm
  rw [sample_eq]
  cases sampled limit h with
  | error f =>
    dsimp only
    rw [List.append_nil]
    split <;> rfl
  | ok value =>
    dsimp only [Engine.recorded, Engine.record]
    cases (e.decompose value s.engine.1).1 with
    | error f =>
      dsimp only
      split <;> rfl
    | ok entry => rfl

/-- A structured form is what the sampled value decomposes to. -/
theorem structuredForm_some {h : Host} {s : Session σ} {entry : Entry}
    (hform : (structuredForm e limit name h s).1 = .ok (some entry)) :
    ∃ value, sampled limit h = .ok value ∧ (e.decompose value s.engine).1 = .ok (some entry) := by
  unfold structuredForm at hform
  rw [sample_eq] at hform
  cases hx : sampled limit h with
  | error f =>
    rw [hx] at hform
    dsimp only at hform
    split at hform
    · cases hform
    · cases hform
  | ok value =>
    rw [hx] at hform
    dsimp only at hform
    refine ⟨value, rfl, ?_⟩
    rcases hr : e.decompose value s.engine with ⟨found, state⟩
    rw [hr] at hform
    cases found with
    | error f =>
      dsimp only at hform
      split at hform
      · cases hform
      · cases hform
    | ok found =>
      cases hform
      rfl

end Form

/-- What a magic responds with: an error, or a success without console text. -/
inductive Shown : Response → Prop
  | error (kind name : String) (traceback : List String) : Shown (.error kind name traceback)
  | entry {payload : List (String × Entry)} (h : Response.textOf payload = none) :
      Shown (.success payload)

/-- A rendered entry is an error or a success without text. -/
theorem render_shown {m : Magic} {entry : Entry} {r : Response} (h : m.render entry = .ok r) :
    Shown r := by
  unfold render at h
  split at h
  · cases h
    exact .entry rfl
  · cases entry with
    | structured v =>
      change (Response.ofTable v).mapError Escape.notStructured = .ok r at h
      unfold Response.ofTable at h
      split at h
      · cases h
        exact .entry rfl
      · cases h
        exact .error _ _ _
      · cases h
    | host value => cases h
    | table t => cases h

section Dispatch

variable (e : Engine σ) (limit : Int) (m : Magic)

/-- A session after a magic is announced in the journal and its argument looked up. -/
def lookedUp (s : Session σ) : Session σ :=
  { s.report .debug .magics ("magic %" ++ m.name ++ " " ++ m.argument) with
    engine := (e.lookup m.argument s.engine).2 }

variable {m}

/-- A magic that shows a value and does not find it answers so for a missing name,
and raises any other fault. -/
theorem dispatch_of_lost (hm : m.shows = true) {s : Session σ} {f : Fault}
    (hl : (e.lookup m.argument s.engine).1 = .error f) :
    dispatch e limit m s =
      (if f.nature = .missing then .ok (unbound m.argument) else .error (.fault f),
        lookedUp e m s) := by
  rw [dispatch_of_shows hm]
  exact showValue_of_error hl

/-- A magic that finds a value answers with what comes of taking its structured form. -/
theorem dispatch_of_found (hm : m.shows = true) {s : Session σ} {h : Host}
    (hl : (e.lookup m.argument s.engine).1 = .ok h) :
    dispatch e limit m s =
      (answer m.render (structuredForm e limit m.argument h (lookedUp e m s)).1,
        (structuredForm e limit m.argument h (lookedUp e m s)).2) := by
  rw [dispatch_of_shows hm]
  exact showValue_of_ok hl

/-- A magic that finds a value answers with its structured form, where neither
sampling it nor decomposing interrupts. -/
theorem dispatch_of_bound (hm : m.shows = true) {s : Session σ} {h : Host}
    (hl : (e.lookup m.argument s.engine).1 = .ok h)
    (hs : ∀ f, sampled limit h = .error f → f.interrupts = false)
    (hd : ∀ value state f, (e.decompose value state).1 = .error f → f.interrupts = false) :
    (dispatch e limit m s).1 =
      answer m.render (.ok (formOf e limit h (e.lookup m.argument s.engine).2)) := by
  rw [dispatch_of_found e limit hm hl,
    structuredForm_eq e limit m.argument hs fun value f => hd value _ f]
  rfl

/-- A magic succeeds only by rendering what a sampled value decomposes to. -/
theorem dispatch_success {s : Session σ} {payload : List (String × Entry)}
    (h : (dispatch e limit m s).1 = .ok (.success payload)) :
    m.shows = true ∧ ∃ found value entry, (e.lookup m.argument s.engine).1 = .ok found ∧
      sampled limit found = .ok value ∧
      (e.decompose value (e.lookup m.argument s.engine).2).1 = .ok (some entry) ∧
      m.render entry = .ok (.success payload) := by
  cases hm : m.shows with
  | false =>
    rw [dispatch_of_not_shows hm] at h
    cases h
  | true =>
    refine ⟨rfl, ?_⟩
    cases hl : (e.lookup m.argument s.engine).1 with
    | error f =>
      rw [dispatch_of_lost e limit hm hl] at h
      dsimp only at h
      split at h
      · cases h
      · cases h
    | ok found =>
      rw [dispatch_of_found e limit hm hl] at h
      dsimp only at h
      cases hform : (structuredForm e limit m.argument found (lookedUp e m s)).1 with
      | error escape =>
        rw [hform] at h
        cases h
      | ok form =>
        rw [hform] at h
        cases form with
        | none => cases h
        | some entry =>
          obtain ⟨value, hs, hd⟩ := structuredForm_some e limit m.argument hform
          exact ⟨found, value, entry, rfl, hs, hd, h⟩

/-- A magic responds with an error or a success without text. -/
theorem dispatch_shown (m : Magic) {s : Session σ} {r : Response}
    (h : (dispatch e limit m s).1 = .ok r) : Shown r := by
  cases hm : m.shows with
  | false =>
    rw [dispatch_of_not_shows hm] at h
    cases h
    exact .error _ _ _
  | true =>
    cases hl : (e.lookup m.argument s.engine).1 with
    | error f =>
      rw [dispatch_of_lost e limit hm hl] at h
      dsimp only at h
      split at h
      · cases h
        exact .error _ _ _
      · cases h
    | ok value =>
      rw [dispatch_of_found e limit hm hl] at h
      dsimp only at h
      cases hform : (structuredForm e limit m.argument value (lookedUp e m s)).1 with
      | error escape =>
        rw [hform] at h
        cases h
      | ok found =>
        rw [hform] at h
        cases found with
        | none =>
          cases h
          exact .error _ _ _
        | some entry => exact render_shown h

/-- A magic asks for the samples of what its argument is bound to. -/
theorem dispatch_samples (m : Magic) (s : Session σ) :
    (dispatch e limit m s).2.samples = s.samples ++ m.samplesAsked e limit s.engine := by
  cases hm : m.shows with
  | false =>
    rw [dispatch_of_not_shows hm, samplesAsked, hm]
    exact (List.append_nil _).symm
  | true =>
    rw [samplesAsked, if_pos hm]
    cases hl : (e.lookup m.argument s.engine).1 with
    | error f =>
      rw [dispatch_of_lost e limit hm hl]
      exact (List.append_nil _).symm
    | ok h =>
      rw [dispatch_of_found e limit hm hl]
      exact structuredForm_samples e limit m.argument h _

/-- A magic makes its calls and no others. -/
theorem dispatch_calls (m : Magic) (s : Session (Engine.Recording σ)) :
    (dispatch e.recorded limit m s).2.engine.2 =
      s.engine.2 ++ m.engineCalls e limit s.engine.1 := by
  cases hm : m.shows with
  | false =>
    rw [dispatch_of_not_shows hm, engineCalls, hm]
    exact (List.append_nil _).symm
  | true =>
    rw [engineCalls, if_pos hm]
    cases hl : (e.lookup m.argument s.engine.1).1 with
    | error f =>
      rw [dispatch_of_lost e.recorded limit hm hl]
      rfl
    | ok h =>
      rw [dispatch_of_found e.recorded limit hm hl, List.append_cons]
      exact structuredForm_calls e limit m.argument h _

end Dispatch

end Magic

end LiveSession
