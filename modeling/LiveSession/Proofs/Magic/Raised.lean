import LiveSession.Proofs.Magic.Shown
import LiveSession.Proofs.Table.Homogeneous

/-!
# What a magic raises

Faults of sampling and decomposing are answered with an error. A fault of
looking a name up is answered only if the name is missing; any other is passed
on. A table is asked of an entry as it is, so an entry that no table can be
made of is passed on as well. Nothing else is raised by a magic, unless it is
interrupted.
-/

namespace LiveSession

variable {σ : Type}

/-- An engine that does not interrupt: neither its interpretations nor its
decompositions do, and no sample of a handle that it finds under a name. -/
structure Engine.Uninterrupted (e : Engine σ) : Prop where
  interpret : ∀ captured code state f, (e.interpret captured code state).verdict = .error f →
    f.interrupts = false
  decompose : ∀ h state f, (e.decompose h state).1 = .error f → f.interrupts = false
  take : ∀ name state take attributes limit f,
    (e.lookup name state).1 = .ok (.handle take attributes) → take limit = .error f →
      f.interrupts = false

namespace Magic

/-- A magic raises, in a state of the engine. -/
inductive Escapes (e : Engine σ) (limit : Int) (m : Magic) (state : σ) : Escape → Prop
  /-- Looking the name up fails otherwise than for a missing name. -/
  | unresolved {f : Fault} (shows : m.shows = true)
      (looked : (e.lookup m.argument state).1 = .error f) (nature : f.nature ≠ .missing) :
      Escapes e limit m state (.fault f)
  /-- No table can be made of what the value was decomposed into. -/
  | untabled {h : Host} {entry : Entry} {escape : Escape} (table : m.name = "table")
      (looked : (e.lookup m.argument state).1 = .ok h)
      (form : formOf e limit h (e.lookup m.argument state).2 = some entry)
      (raised : asTable entry = .error escape) : Escapes e limit m state escape

/-- Sampling fails where a handle gives nothing, or something that cannot be gone
through; the latter interrupts nothing. -/
theorem sampled_error {limit : Int} {h : Host} {f : Fault} (hs : sampled limit h = .error f) :
    f.interrupts = false ∨
      ∃ take attributes, h = .handle take attributes ∧ take limit = .error f := by
  cases h with
  | handle take attributes =>
    unfold sampled at hs
    dsimp only at hs
    cases hx : take limit with
    | error g =>
      rw [hx] at hs
      cases hs
      exact .inr ⟨take, attributes, rfl, hx⟩
    | ok taken =>
      rw [hx] at hs
      dsimp only at hs
      split at hs
      · cases hs
      · cases hs
        exact .inl rfl
  | _ => cases hs

/-- A sample that is not interrupted fails without an interruption. -/
theorem sampled_uninterrupted {limit : Int} {h : Host} {f : Fault}
    (ht : ∀ take attributes f, h = .handle take attributes → take limit = .error f →
      f.interrupts = false)
    (hs : sampled limit h = .error f) : f.interrupts = false := by
  rcases sampled_error hs with hf | ⟨take, attributes, hh, hx⟩
  · exact hf
  · exact ht take attributes f hh hx

/-- A closed value is shown as a table, or there is an error in its place. -/
theorem asTable_closed {v : Structured} (hv : v.isClosed = true) :
    ∃ r, asTable (.structured v) = .ok r := by
  change ∃ r, (Response.ofTable v).mapError Escape.notStructured = .ok r
  unfold Response.ofTable
  cases hi : Table.infer v with
  | ok t => exact ⟨_, rfl⟩
  | error mismatch =>
    cases Table.infer_error (fun _ hx => Table.isClosed_of_mem_cellsOf hv hx) hi
    exact ⟨_, rfl⟩

/-- Where everything is decomposed into closed values structured forms are such. -/
theorem formOf_closed {e : Engine σ} {limit : Int} {h : Host} {state : σ} {entry : Entry}
    (hd : ∀ h state entry, (e.decompose h state).1 = .ok (some entry) →
      ∃ v, entry = .structured v ∧ v.isClosed = true)
    (hform : formOf e limit h state = some entry) :
    ∃ v, entry = .structured v ∧ v.isClosed = true := by
  unfold formOf at hform
  split at hform
  · cases hform
  · next value hs =>
    split at hform
    · cases hform
    · next found hx =>
      cases hform
      exact hd value state entry hx

section

variable {e : Engine σ} {limit : Int} {m : Magic} {s : Session σ}

/-- A magic that finds a value answers with its structured form, where nothing
interrupts. -/
theorem dispatch_of_uninterrupted (hu : e.Uninterrupted) (hm : m.shows = true) {h : Host}
    (hl : (e.lookup m.argument s.engine).1 = .ok h) :
    (dispatch e limit m s).1 =
      answer m.render (.ok (formOf e limit h (e.lookup m.argument s.engine).2)) :=
  dispatch_of_bound e limit hm hl
    (fun _ hf => sampled_uninterrupted
      (fun take attributes g hh hg =>
        hu.take m.argument s.engine take attributes limit g (hh ▸ hl) hg) hf) hu.decompose

/-- A magic that is not interrupted raises in the two cases and in no other. -/
theorem dispatch_eq_error_iff (hu : e.Uninterrupted) {escape : Escape} :
    (dispatch e limit m s).1 = .error escape ↔ m.Escapes e limit s.engine escape := by
  constructor
  · intro h
    cases hm : m.shows with
    | false =>
      rw [dispatch_of_not_shows hm] at h
      cases h
    | true =>
      cases hl : (e.lookup m.argument s.engine).1 with
      | error f =>
        rw [dispatch_of_lost e limit hm hl] at h
        dsimp only at h
        split at h
        · cases h
        · next hf =>
          cases h
          exact .unresolved hm hl hf
      | ok value =>
        rw [dispatch_of_uninterrupted hu hm hl] at h
        cases hform : formOf e limit value (e.lookup m.argument s.engine).2 with
        | none =>
          rw [hform] at h
          cases h
        | some entry =>
          rw [hform] at h
          change m.render entry = .error escape at h
          unfold render at h
          split at h
          · cases h
          · next hj =>
            have ht : m.name = "table" := by simpa [shows, hj] using hm
            exact .untabled ht hl hform h
  · intro h
    cases h with
    | unresolved hm hl hf => rw [dispatch_of_lost e limit hm hl, if_neg hf]
    | untabled ht hl hform hr =>
      have hm : m.shows = true := by simp [shows, ht]
      have hj : m.name ≠ "json" := by rw [ht]; decide
      rw [dispatch_of_uninterrupted hu hm hl, hform]
      change m.render _ = _
      rw [render, if_neg hj, hr]

end

end Magic

end LiveSession
