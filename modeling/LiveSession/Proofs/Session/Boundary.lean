import LiveSession.Proofs.Magic.Raised
import LiveSession.Proofs.Session.Execute
import LiveSession.Proofs.Submission.Raised
import LiveSession.Proofs.Text.Lines

/-!
# What a submission raises

An admitted submission whose engine does not interrupt, wraps blocks and lets
its context be left gives one of the four responses, unless its last attempt is
a magic that raises: the look-up of a name failed otherwise than for a missing
name, or no table can be made of what a value was decomposed into. That what
an engine raises can be reported is part of what a fault is here.
-/

namespace LiveSession.Session

open Submission

variable {σ : Type} {e : Engine σ} {limit : Int} {code : String} {s : Session σ}

/-- An attempt that is not interrupted raises if it is a magic that does. -/
theorem attempt_eq_error_iff (hu : e.Uninterrupted) {escape : Escape} :
    (attempt e limit code s).1 = .error escape ↔
      ∃ m, Magic.ofLine? code = some m ∧ m.Escapes e limit s.engine escape := by
  cases hm : Magic.ofLine? code with
  | some m =>
    have hdispatch : attempt e limit code s = Magic.dispatch e limit m s := by
      simp only [attempt, hm]
    rw [hdispatch, Magic.dispatch_eq_error_iff hu]
    constructor
    · exact fun h => ⟨m, rfl, h⟩
    · rintro ⟨m', hm', h⟩
      cases hm'
      exact h
  | none =>
    have hinterpret : (attempt e limit code s).1 =
        .ok (answer (e.interpret s.captured code s.engine).verdict
          (s.captured ++ written (e.interpret s.captured code s.engine).emissions)) := by
      simp only [attempt, hm]
      exact ((interpret_spec e code s).2.2 (hu.interpret _ _ _)).2
    rw [hinterpret]
    constructor
    · intro h
      cases h
    · rintro ⟨m, hm', -⟩
      cases hm'

/-- What comes of an admitted submission whose context can be left: its last attempt
raises, or there is a response that a line can end in. -/
theorem execute_cases (limit : Int) (code : String) (ha : Admits e s)
    (hleave : ∀ state, (e.leave state).1 = .ok ())
    (hwrap : ∀ block state, ∃ text, (e.wrapBlock block state).1 = .ok text) :
    ∃ a, (runLinesNoted e limit code (s.admitted e)).2.2.getLast? = some (.attempted a) ∧
      ((∃ escape, (attempt e limit a.text a.before).1 = .error escape ∧
          (execute e limit code s).1 = .error escape) ∨
        ∃ r response, (attempt e limit a.text a.before).1 = .ok r ∧
          (execute e limit code s).1 = .ok response ∧ response.EndsLine) := by
  have hwrap' : ∀ block (s : Session σ), ∃ text, (call (e.wrapBlock block) s).1 = .ok text := by
    intro block s
    obtain ⟨text, htext⟩ := hwrap block s.engine
    exact ⟨text, by rw [call_eq, htext]; rfl⟩
  obtain ⟨a, hlast, hcases⟩ := run_cases Escape.unmerged
    (attempt_endsLines e limit) hwrap' (lines_ne_nil code) (s.admitted e)
  have houtcome : a.outcome = (attempt e limit a.text a.before).1 :=
    runLinesNoted_outcome (List.mem_of_getLast? hlast)
  rw [houtcome] at hcases
  rw [execute_eq_runLines ha (hleave _)]
  exact ⟨a, hlast, hcases⟩

/-- An admitted submission whose engine does not interrupt raises if and only if its
last attempt is a magic that raises; otherwise it responds with a success, an
error, the news that it is incomplete, or an abort. In particular it responds
where a look-up fails for missing names only and every structured form is a
closed value. All this is said of faults, which have messages: reporting
something whose message cannot be made raises again. -/
theorem execute_raises_iff (e : Engine σ) (limit : Int) (code : String) (s : Session σ)
    (ha : Admits e s) (hleave : ∀ state, (e.leave state).1 = .ok ())
    (hwrap : ∀ block state, ∃ text, (e.wrapBlock block state).1 = .ok text)
    (hu : e.Uninterrupted) :
    (∀ escape, (execute e limit code s).1 = .error escape ↔
      ∃ a m, (runLinesNoted e limit code (s.admitted e)).2.2.getLast? = some (.attempted a) ∧
        Magic.ofLine? a.text = some m ∧ m.Escapes e limit a.before.engine escape) ∧
    (∀ response, (execute e limit code s).1 = .ok response → response.EndsLine) ∧
    ((∀ name state f, (e.lookup name state).1 = .error f → f.nature = .missing) →
      (∀ h state entry, (e.decompose h state).1 = .ok (some entry) →
        ∃ v, entry = .structured v ∧ v.isClosed = true) →
      ∃ response, (execute e limit code s).1 = .ok response) := by
  obtain ⟨a, hlast, hcases⟩ := execute_cases limit code ha hleave hwrap
  have hiff : ∀ escape, (execute e limit code s).1 = .error escape ↔
      ∃ a m, (runLinesNoted e limit code (s.admitted e)).2.2.getLast? = some (.attempted a) ∧
        Magic.ofLine? a.text = some m ∧ m.Escapes e limit a.before.engine escape := by
    intro escape
    constructor
    · intro h
      rcases hcases with ⟨escape', hattempt, hexecute⟩ | ⟨r, response, -, hexecute, -⟩
      · rw [h] at hexecute
        cases hexecute
        obtain ⟨m, hm, hescapes⟩ := (attempt_eq_error_iff hu).mp hattempt
        exact ⟨a, m, hlast, hm, hescapes⟩
      · rw [h] at hexecute
        cases hexecute
    · rintro ⟨a', m, hlast', hm, hescapes⟩
      rw [hlast] at hlast'
      cases hlast'
      have hraised := (attempt_eq_error_iff hu).mpr ⟨m, hm, hescapes⟩
      rcases hcases with ⟨escape', hattempt, hexecute⟩ | ⟨r, response, hattempt, -, -⟩
      · rw [hraised] at hattempt
        cases hattempt
        exact hexecute
      · rw [hraised] at hattempt
        cases hattempt
  refine ⟨hiff, fun response h => ?_, fun hl hd => ?_⟩
  · rcases hcases with ⟨escape, -, hexecute⟩ | ⟨r, response', -, hexecute, hends⟩
    · rw [h] at hexecute
      cases hexecute
    · rw [h] at hexecute
      cases hexecute
      exact hends
  · rcases hcases with ⟨escape, -, hexecute⟩ | ⟨r, response, -, hexecute, -⟩
    · obtain ⟨a', m, -, -, hescapes⟩ := (hiff escape).mp hexecute
      cases hescapes with
      | unresolved hm hlooked hnature => exact absurd (hl _ _ _ hlooked) hnature
      | untabled ht hlooked hform hraised =>
        obtain ⟨v, rfl, hv⟩ := Magic.formOf_closed hd hform
        obtain ⟨r, hr⟩ := Magic.asTable_closed hv
        rw [hr] at hraised
        cases hraised
    · exact ⟨response, hexecute⟩

/-- An engine whose look-up is out of order. -/
def faulty : Engine Unit :=
  { echo with lookup := fun _ s => (.error ⟨"RuntimeError", .ordinary, ["boom"]⟩, s) }

/-- An engine that is out of order does not interrupt. -/
theorem faulty_uninterrupted : faulty.Uninterrupted where
  interpret := by
    intro captured code state f h
    cases h
  decompose := by
    intro h state f hd
    unfold faulty echo at hd
    dsimp only at hd
    cases hx : h.decompose with
    | ok v =>
      rw [hx] at hd
      cases hd
    | error e =>
      rw [hx] at hd
      cases hd
      rfl
  take := by
    intro name state take attributes limit f hl
    cases hl

/-- A magic whose name cannot be looked up, after a statement: the fault is
raised. -/
theorem execute_raises_iff_faulty :
    Admits faulty { engine := () } ∧ (∀ state, (faulty.leave state).1 = .ok ()) ∧
    (∀ block state, ∃ text, (faulty.wrapBlock block state).1 = .ok text) ∧
    faulty.Uninterrupted ∧
    (execute faulty 3 "a\n%json x" { engine := () }).1 =
      .error (.fault ⟨"RuntimeError", .ordinary, ["boom"]⟩) ∧
    ∃ a m, (runLinesNoted faulty 3 "a\n%json x" (admitted faulty { engine := () })).2.2.getLast? =
        some (.attempted a) ∧
      Magic.ofLine? a.text = some m ∧
      m.Escapes faulty 3 a.before.engine (.fault ⟨"RuntimeError", .ordinary, ["boom"]⟩) := by
  have ha : Admits faulty { engine := () } := ⟨rfl, rfl⟩
  have hraised : (execute faulty 3 "a\n%json x" { engine := () }).1 =
      .error (.fault ⟨"RuntimeError", .ordinary, ["boom"]⟩) := rfl
  obtain ⟨hiff, -, -⟩ := execute_raises_iff faulty 3 "a\n%json x" { engine := () } ha
    (fun _ => rfl) (fun _ _ => ⟨_, rfl⟩) faulty_uninterrupted
  exact ⟨ha, fun _ => rfl, fun _ _ => ⟨_, rfl⟩, faulty_uninterrupted, hraised,
    (hiff _).mp hraised⟩

/-- A fault of a look-up, although it does not interrupt, goes through a
submission. -/
theorem not_execute_responds :
    ¬ ∀ (e : Engine Unit) (limit : Int) (code : String) (s : Session Unit),
      Admits e s → (∀ state, (e.leave state).1 = .ok ()) →
      (∀ block state, ∃ text, (e.wrapBlock block state).1 = .ok text) → e.Uninterrupted →
      (∀ name state f, (e.lookup name state).1 = .error f → f.interrupts = false) →
      ∃ response, (execute e limit code s).1 = .ok response := by
  intro h
  have hraised : (execute faulty 3 "%json x" { engine := () }).1 =
      .error (.fault ⟨"RuntimeError", .ordinary, ["boom"]⟩) := rfl
  have hlookup : ∀ name state f, (faulty.lookup name state).1 = .error f →
      f.interrupts = false := by
    intro name state f hf
    cases hf
    rfl
  obtain ⟨response, hresponse⟩ := h faulty 3 "%json x" { engine := () } ⟨rfl, rfl⟩
    (fun _ => rfl) (fun _ _ => ⟨_, rfl⟩) faulty_uninterrupted hlookup
  rw [hraised] at hresponse
  cases hresponse

end LiveSession.Session
