import LiveSession.Proofs.Magic.Native
import LiveSession.Proofs.Response.Plain
import LiveSession.Proofs.Session.SampleSize
import LiveSession.Proofs.Submission.Kept
import LiveSession.Proofs.Table.Plain

/-!
# What a client receives of a submission

A session whose engine decomposes by default, and whose magics find native
values only, responds with what is deliverable: every value that is shown is
closed, and so is every cell of a table. So there always is a plain value to be
sent, and the client can tell from it what the session responded.
-/

namespace LiveSession

variable {σ : Type}

namespace Magic

/-- A closed value is rendered as something deliverable. -/
theorem render_deliverable {m : Magic} {v : Structured} {r : Response} (hv : v.isClosed = true)
    (h : m.render (.structured v) = .ok r) : r.Deliverable := by
  unfold render at h
  split at h
  · cases h
    exact .success (.structured hv)
  · change (Response.ofTable v).mapError Escape.notStructured = .ok r at h
    unfold Response.ofTable at h
    cases hi : Table.infer v with
    | ok t =>
      rw [hi] at h
      cases h
      exact .success (.table (Table.isClosed_of_infer hv hi))
    | error mismatch =>
      rw [hi] at h
      cases mismatch with
      | mixed =>
        cases h
        exact .error _ _ _
      | notStructured name => cases h

/-- A magic that finds a native value, if any, responds with something deliverable. -/
theorem dispatch_deliverable {e : Engine σ} (he : e.DecomposesByDefault) {limit : Int} {m : Magic}
    {s : Session σ} (hn : ∀ h, (e.lookup m.argument s.engine).1 = .ok h → h.IsNative)
    {r : Response} (h : (dispatch e limit m s).1 = .ok r) : r.Deliverable := by
  cases dispatch_shown e limit m h with
  | error kind name traceback => exact .error kind name traceback
  | entry _ =>
    obtain ⟨-, found, value, entry, hl, hs, hd, hrender⟩ := dispatch_success e limit h
    rw [he] at hd
    cases hv : value.decompose with
    | error err =>
      rw [hv] at hd
      cases hd
    | ok v =>
      rw [hv] at hd
      cases hd
      exact render_deliverable ((sampled_native (hn found hl) hs).decompose_isClosed hv) hrender

end Magic

/-- What is deliverable stays so when it is merged and retried. -/
theorem Response.deliverable_kept : Response.Kept Response.Deliverable where
  empty := .text ""
  incomplete := .incomplete
  merge ho hn hm := ho.merge hn hm

namespace Session

open Submission

/-- The response to a verdict is deliverable. -/
theorem respond_deliverable (verdict : Verdict) (output : String) :
    (respond verdict output).Deliverable := by
  cases verdict with
  | success => exact .text output
  | incomplete => exact .incomplete
  | error => exact .error _ _ _
  | unrecognised => exact .error _ _ _

/-- An interpretation responds with something deliverable. -/
theorem interpret_deliverable {e : Engine σ} {code : String} {s : Session σ} {r : Response}
    (h : (interpret e code s).1 = .ok r) : r.Deliverable := by
  unfold interpret at h
  dsimp only at h
  split at h
  · split at h
    · cases h
    · split at h
      · cases h
        exact .aborted _
      · cases h
        exact .aborted _
  · cases h
    exact respond_deliverable _ _

/-- Whether the magics of a submission find native values, in the states in which
they look their names up. -/
def FindsNative (e : Engine σ) (limit : Int) (code : String) (s : Session σ) : Prop :=
  ∀ a, Event.attempted a ∈ (runLinesNoted e limit code (s.admitted e)).2.2 →
    ∀ m, Magic.ofLine? a.text = some m →
      ∀ h, (e.lookup m.argument a.before.engine).1 = .ok h → h.IsNative

/-- What a submission responds is deliverable. -/
theorem execute_deliverable {e : Engine σ} (he : e.DecomposesByDefault) {limit : Int}
    {code : String} {s : Session σ} (hn : FindsNative e limit code s) {r : Response}
    (hr : (execute e limit code s).1 = .ok r) : r.Deliverable := by
  refine run_kept Response.deliverable_kept (attempt_endsLines e limit) (fun a ha r hr => ?_)
    (runLines_of_execute hr)
  rw [runLinesNoted_outcome ha] at hr
  unfold attempt at hr
  cases hm : Magic.ofLine? a.text with
  | some m =>
    rw [hm] at hr
    exact Magic.dispatch_deliverable he (hn a ha m hm) hr
  | none =>
    rw [hm] at hr
    exact interpret_deliverable hr

/-- What a client receives of a submission. Where the engine decomposes by default
and the magics find native values there is a plain value of every response, and
two responses, be it of different sessions, with the same plain value are the same. -/
theorem execute_plain (e : Engine σ) (he : e.DecomposesByDefault) (limit : Int) (code : String)
    (s : Session σ) (hn : FindsNative e limit code s) (r : Response)
    (hr : (execute e limit code s).1 = .ok r) :
    (∃ w, r.plain = .ok w) ∧
    ∀ (σ' : Type) (e' : Engine σ') (limit' : Int) (code' : String) (s' : Session σ')
      (r' : Response), e'.DecomposesByDefault → FindsNative e' limit' code' s' →
        (execute e' limit' code' s').1 = .ok r' → r.plain = r'.plain → r = r' := by
  have hdeliverable := execute_deliverable he hn hr
  obtain ⟨w, hw⟩ := hdeliverable.exists_plain
  refine ⟨⟨w, hw⟩, fun σ' e' limit' code' s' r' he' hn' hr' hplain => ?_⟩
  exact hdeliverable.plain_inj (execute_deliverable he' hn' hr') hw (hplain ▸ hw)

/-- Under every name of the lavish engine a native value is found. -/
theorem findsNative_lavish (limit : Int) (code : String) (s : Session Unit) :
    FindsNative lavish limit code s := by
  intro a _ m _ h hl
  cases hl
  intro v hv
  cases hv with
  | taken given inside =>
    cases given
    refine Host.isNative_sequence.mpr (fun h hmem => ?_) v inside
    simp only [List.mem_cons, List.not_mem_nil, or_false] at hmem
    rcases hmem with rfl | rfl | rfl <;> exact Host.isNative_atom rfl
  | owned hmem _ => cases hmem

/-- The three numbers of a handle have a plain value, which is not that of the same
three numbers written out. -/
theorem execute_plain_lavish :
    lavish.DecomposesByDefault ∧ FindsNative lavish 2 "%json x" { engine := () } ∧
    (execute lavish 2 "%json x" { engine := () }).1 = .ok (.success lavishPayload) ∧
    (∃ w, (Response.success lavishPayload).plain = .ok w) ∧
    FindsNative lavish 2 "[1, 2, 3]" { engine := () } ∧
    (execute lavish 2 "[1, 2, 3]" { engine := () }).1 = .ok (.plainText "[1, 2, 3]") ∧
    (Response.success lavishPayload).plain ≠ (Response.plainText "[1, 2, 3]").plain := by
  have he : lavish.DecomposesByDefault := fun _ _ => rfl
  have hn := findsNative_lavish 2 "%json x" { engine := () }
  have hr : (execute lavish 2 "%json x" { engine := () }).1 = .ok (.success lavishPayload) := rfl
  have hn' := findsNative_lavish 2 "[1, 2, 3]" { engine := () }
  have hr' : (execute lavish 2 "[1, 2, 3]" { engine := () }).1 =
    .ok (.plainText "[1, 2, 3]") := rfl
  obtain ⟨hplain, hinj⟩ :=
    execute_plain lavish he 2 "%json x" { engine := () } hn (.success lavishPayload) hr
  refine ⟨he, hn, hr, hplain, hn', hr', fun h => ?_⟩
  have hsame := hinj Unit lavish 2 "[1, 2, 3]" { engine := () } _ he hn' hr' h
  simp [lavishPayload, Response.plainText, structuredMedia, plainTextMedia] at hsame

end Session

end LiveSession
