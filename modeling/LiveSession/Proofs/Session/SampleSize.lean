import LiveSession.Proofs.Session.Sampling
import LiveSession.Proofs.Table.Schema
import LiveSession.Proofs.Traversal

/-!
# The size of what is shown of a handle

A session asks a handle for as many elements as its limit says, and shows all
that the handle gives. A success shows exactly the elements of the sample: one
item of the array, or one row of the table, for each. So the limit is kept by
handles that give no more than they are asked for, and only by them.
-/

namespace LiveSession

variable {σ : Type}

/-- The number of items of the array, or of rows of the table, that a payload shows. -/
def Response.shownSize? : List (String × Entry) → Option Nat
  | [(_, .structured (.array vs))] => some vs.length
  | [(_, .table t)] => some t.data.length
  | _ => none

/-- A table has a row of data for each row of its value. -/
theorem Table.length_data {v : Structured} {t : Table} (h : infer v = .ok t) :
    t.data.length = v.rows.length := by
  obtain ⟨registry, -, -, hdata⟩ := infer_eq_ok h
  rw [hdata, List.length_map]

namespace Magic

variable {e : Engine σ} {m : Magic} {s : Session σ} {limit : Int}
  {take : Int → Except Fault Host} {attributes : List (String × Host)}

/-- What an array is shown as has the size of the array. -/
theorem shownSize?_of_showing {vs : List Structured} {payload : List (String × Entry)}
    (h : m.showing (.ok (.array vs)) = .ok (.success payload)) :
    Response.shownSize? payload = some vs.length := by
  unfold showing at h
  dsimp only at h
  split at h
  · cases h
    rfl
  · unfold Response.ofTable at h
    cases hi : Table.infer (.array vs) with
    | error mismatch =>
      rw [hi] at h
      cases mismatch with
      | mixed => cases h
      | notStructured name => cases h
    | ok t =>
      rw [hi] at h
      cases h
      exact congrArg some (Table.length_data hi)

/-- A success shows as much of a handle as its sample lists. -/
theorem shownSize?_of_success (he : e.DecomposesByDefault)
    (hl : (e.lookup m.argument s.engine).1 = .ok (.handle take attributes))
    {payload : List (String × Entry)} (h : (dispatch e limit m s).1 = .ok (.success payload)) :
    ∃ taken elements, take limit = .ok taken ∧ taken.elements? = some elements ∧
      Response.shownSize? payload = some elements.length := by
  obtain ⟨hm, found, value, -, hfound, hs, -, -⟩ := dispatch_success e limit h
  cases hl.symm.trans hfound
  obtain ⟨taken, elements, htake, helements, rfl⟩ := sampled_handle hs
  refine ⟨taken, elements, htake, helements, ?_⟩
  rw [dispatch_of_default he hm hl hs, Host.decompose_list_eq] at h
  cases hvs : elements.mapM Host.decompose with
  | error err =>
    rw [hvs] at h
    cases h
  | ok vs =>
    rw [hvs] at h
    rw [← length_of_mapM hvs]
    exact shownSize?_of_showing h

/-- All that a sample lists is shown where all of it decomposes, whatever the limit. -/
theorem dispatch_of_listed (he : e.DecomposesByDefault) (hm : m.name = "json")
    (hl : (e.lookup m.argument s.engine).1 = .ok (.handle take attributes)) {taken : Host}
    {elements : List Host} (htake : take limit = .ok taken)
    (helements : taken.elements? = some elements)
    (hd : ∀ x ∈ elements, ∃ v, x.decompose = .ok v) :
    ∃ vs, vs.length = elements.length ∧ (dispatch e limit m s).1 =
      .ok (.success [(structuredMedia, .structured (.array vs))]) := by
  have hshows : m.shows = true := by simp [shows, hm]
  have hs : sampled limit (.handle take attributes) = .ok (.list elements) := by
    unfold sampled
    dsimp only
    rw [htake]
    dsimp only
    rw [helements]
  obtain ⟨vs, hvs⟩ := mapM_of_forall hd
  refine ⟨vs, length_of_mapM hvs, ?_⟩
  rw [dispatch_of_default he hshows hl hs, Host.decompose_list_eq, hvs]
  exact if_pos hm

end Magic

namespace Session

/-- The size of what a submission shows of a handle. Every magic of it that succeeds
shows as many items or rows as the sample of the handle lists, be that fewer, as
many or more than the limit that the handle was asked for; and all that a sample
lists is shown where all of it decomposes. -/
theorem attempt_shows_sample (e : Engine σ) (he : e.DecomposesByDefault) (limit : Int)
    (code : String) (s : Session σ) (a : Submission.Attempt (Session σ) Escape)
    (ha : Submission.Event.attempted a ∈ (runLinesNoted e limit code s).2.2) (m : Magic)
    (hm : Magic.ofLine? a.text = some m) (take : Int → Except Fault Host)
    (attributes : List (String × Host))
    (hl : (e.lookup m.argument a.before.engine).1 = .ok (.handle take attributes)) :
    (∀ payload, a.outcome = .ok (.success payload) →
      ∃ taken elements, take limit = .ok taken ∧ taken.elements? = some elements ∧
        Response.shownSize? payload = some elements.length) ∧
    ∀ taken elements, m.name = "json" → take limit = .ok taken →
      taken.elements? = some elements → (∀ x ∈ elements, ∃ v, x.decompose = .ok v) →
        ∃ vs, vs.length = elements.length ∧
          a.outcome = .ok (.success [(structuredMedia, .structured (.array vs))]) := by
  have houtcome : a.outcome = (Magic.dispatch e limit m a.before).1 := by
    rw [runLinesNoted_outcome ha]
    unfold attempt
    rw [hm]
  rw [houtcome]
  refine ⟨fun payload h => Magic.shownSize?_of_success he hl h,
    fun taken elements hjson htake helements hd => ?_⟩
  exact Magic.dispatch_of_listed he hjson hl htake helements hd

/-- A sampling that gives three numbers, however many it is asked for. -/
def lavishTake (_ : Int) : Except Fault Host := .ok (.list [.int 1, .int 2, .int 3])

/-- An engine in which every name is bound to a handle that gives three numbers. -/
def lavish : Engine Unit :=
  { echo with lookup := fun _ s => (.ok (.handle lavishTake []), s) }

/-- The payload that shows the three numbers. -/
def lavishPayload : List (String × Entry) :=
  [(structuredMedia, .structured (.array [.int 1, .int 2, .int 3]))]

/-- With a limit of two the three numbers of the sample are shown. -/
theorem attempt_shows_sample_lavish :
    lavish.DecomposesByDefault ∧
    Submission.Event.attempted ⟨{ engine := () }, "%json x", .ok (.success lavishPayload)⟩ ∈
      (runLinesNoted lavish 2 "%json x" { engine := () }).2.2 ∧
    Magic.ofLine? "%json x" = some ⟨"json", "x"⟩ ∧
    (lavish.lookup "x" ()).1 = .ok (.handle lavishTake []) ∧
    ∃ taken elements, lavishTake 2 = .ok taken ∧ taken.elements? = some elements ∧
      Response.shownSize? lavishPayload = some elements.length := by
  have he : lavish.DecomposesByDefault := fun _ _ => rfl
  have ha : Submission.Event.attempted
      ⟨{ engine := () }, "%json x", .ok (.success lavishPayload)⟩ ∈
        (runLinesNoted lavish 2 "%json x" { engine := () }).2.2 := List.mem_cons_self
  obtain ⟨hshown, -⟩ := attempt_shows_sample lavish he 2 "%json x" { engine := () } _ ha
    ⟨"json", "x"⟩ rfl lavishTake [] rfl
  exact ⟨he, ha, rfl, rfl, hshown lavishPayload rfl⟩

/-- What is shown of a handle is not always within the limit: with a limit of two,
a handle that gives three numbers whatever it is asked for is shown with three. -/
theorem not_shown_within_limit :
    ¬ ∀ (e : Engine Unit) (settings : Settings) (name : String) (s : Session Unit)
        (take : Int → Except Fault Host) (attributes : List (String × Host))
        (payload : List (String × Entry)) (size : Nat),
      e.DecomposesByDefault → 1 ≤ settings.sampleLimit →
      (e.lookup name s.engine).1 = .ok (.handle take attributes) →
      (execute e settings.sampleLimit ("%json " ++ name) s).1 = .ok (.success payload) →
      Response.shownSize? payload = some size → size ≤ settings.sampleLimit := by
  intro h
  have hexecute : (execute lavish 2 "%json x" { engine := () }).1 =
      .ok (.success lavishPayload) := rfl
  have hle : 3 ≤ 2 := h lavish { sampleLimit := 2 } "x" { engine := () } lavishTake []
    lavishPayload 3 (fun _ _ => rfl) (by decide) rfl hexecute rfl
  omega

end Session

end LiveSession
