import LiveSession.Proofs.Decompose.Takes
import LiveSession.Proofs.Magic.Sampling
import LiveSession.Proofs.Session.Calls

/-!
# Samples of a submission

A submission asks for the samples of its magics, one for each handle that is
bound to the argument of one that shows a value, and always for as many
elements as the limit of the session says. Nothing else takes a sample:
neither statements, nor blocks, nor decomposing, however deep in a value a
handle lies.
-/

namespace LiveSession.Session

open Submission

variable {σ : Type}

/-- The samples that an event comes with. -/
def eventSamples (e : Engine σ) (limit : Int) : Event (Session σ) Escape → List Int
  | .attempted a =>
    match Magic.ofLine? a.text with
    | some m => m.samplesAsked e limit a.before.engine
    | none => []
  | .wrapped _ _ _ => []

/-- An interpretation asks for no samples. -/
theorem interpret_samples (e : Engine σ) (code : String) (s : Session σ) :
    (interpret e code s).2.samples = s.samples := by
  have hstep := interpretRedirected_eq e code
    (s.report .debug .pipeline ("interpreting " ++ Text.quote code))
  unfold interpret
  dsimp only at hstep ⊢
  rw [hstep]
  generalize (e.interpret _ code _).verdict = verdict
  cases verdict with
  | ok v => rfl
  | error f =>
    dsimp only
    split
    · rfl
    · split
      · rfl
      · rfl

/-- An attempt asks for the samples of its event. -/
theorem attempt_samples (e : Engine σ) (limit : Int) (code : String) (s : Session σ)
    (outcome : Except Escape Response) :
    (attempt e limit code s).2.samples =
      s.samples ++ eventSamples e limit (.attempted ⟨s, code, outcome⟩) := by
  unfold attempt eventSamples
  dsimp only
  cases Magic.ofLine? code with
  | some m => exact Magic.dispatch_samples e limit m s
  | none =>
    dsimp only
    rw [interpret_samples, List.append_nil]

/-- Running lines asks for the samples of the events. -/
theorem runLines_samples (e : Engine σ) (limit : Int) (code : String) (s : Session σ) :
    (runLines e limit code s).2.samples =
      s.samples ++ (runLinesNoted e limit code s).2.2.flatMap (eventSamples e limit) := by
  rw [runLines_of_noted]
  unfold runLinesNoted
  refine runNoted_log (fun s : Session σ => s.samples) _
    (fun text s => attempt_samples e limit text s _) (fun block s => ?_) (lines code) s
  rw [call_eq]
  exact (List.append_nil _).symm

/-- An admitted submission asks for the samples of the events of its lines. -/
theorem execute_samples {e : Engine σ} {s : Session σ} (ha : Admits e s) (limit : Int)
    (code : String) :
    (execute e limit code s).2.samples =
      s.samples ++
        (runLinesNoted e limit code (s.admitted e)).2.2.flatMap (eventSamples e limit) := by
  have hfinished : ∀ done : Result σ Response,
      (finished e done).2.samples = done.2.samples := fun _ => rfl
  rw [execute_of_admits ha, hfinished, runLines_samples]
  rfl

/-- A submission that is not admitted asks for no samples. -/
theorem execute_samples_of_not_admits {e : Engine σ} {s : Session σ} (ha : ¬ Admits e s)
    (limit : Int) (code : String) : (execute e limit code s).2.samples = s.samples := by
  obtain ⟨escape, ⟨hexecute, -⟩ | ⟨hexecute, -⟩⟩ := execute_of_not_admits ha limit code
  · rw [hexecute]
  · rw [hexecute]

/-- What a magic of a recorded engine calls for a bound value: its look-up and, unless
sampling fails, the decomposition of what came of that. -/
theorem dispatch_recorded_calls {e : Engine σ} {m : Magic} {s : Session σ} {h : Host}
    (hm : m.shows = true) (hl : (e.lookup m.argument s.engine).1 = .ok h) (limit : Int) :
    (Magic.dispatch e.recorded limit m s.recorded).2.engine.2 =
      .lookup m.argument ::
        match Magic.sampled limit h with
        | .error _ => []
        | .ok value => [.decompose value] := by
  have hl' : (e.lookup m.argument s.recorded.engine.1).1 = .ok h := hl
  rw [Magic.dispatch_calls, Magic.engineCalls, if_pos hm, hl']
  rfl

/-- A magic samples a bound value if it is a handle, once and with the limit. -/
theorem dispatch_samples_of_bound {e : Engine σ} {m : Magic} {s : Session σ} {h : Host}
    (hm : m.shows = true) (hl : (e.lookup m.argument s.engine).1 = .ok h) (limit : Int) :
    (Magic.dispatch e limit m s).2.samples =
      s.samples ++ if h.isHandle then [limit] else [] := by
  rw [Magic.dispatch_samples, Magic.samplesAsked, if_pos hm, hl]
  rfl

/-- The sampling of an engine that decomposes by default. A submission asks for the
samples of its magics and no others, and decomposing asks for none. A magic that
shows a bound value samples it once, with the limit and before it is decomposed,
if it is a handle, and not at all otherwise. A handle is then shown as the array
of what its first items decompose to, or as an error if one of them does not; a
smaller limit gives a prefix, and items beyond the limit do not matter. -/
theorem magics_sample_handles (e : Engine σ) (he : e.DecomposesByDefault) :
    (∀ (limit : Int) (code : String) (s : Session σ),
      (Admits e s → (execute e limit code s).2.samples =
        s.samples ++
          (runLinesNoted e limit code (s.admitted e)).2.2.flatMap (eventSamples e limit)) ∧
      (¬ Admits e s → (execute e limit code s).2.samples = s.samples)) ∧
    (∀ (take : Int → Except Fault Host) (h : Host),
      (h.withTake take).decompose = h.decompose.map (Structured.withTake take)) ∧
    ∀ (m : Magic) (s : Session σ) (h : Host), m.shows = true →
      (e.lookup m.argument s.engine).1 = .ok h →
      (∀ limit, (Magic.dispatch e limit m s).2.samples =
        s.samples ++ if h.isHandle then [limit] else []) ∧
      (∀ limit, (Magic.dispatch e.recorded limit m s.recorded).2.engine.2 =
        .lookup m.argument ::
          match Magic.sampled limit h with
          | .error _ => []
          | .ok value => [.decompose value]) ∧
      (h.isHandle = false →
        ∀ limit, (Magic.dispatch e limit m s).1 = m.showing h.decompose) ∧
      ∀ take attributes items, h = .handle take attributes → Host.Yields take items →
        (∀ n : Nat, (Magic.dispatch e n m s).1 =
          m.showing ((Host.decomposeFirst n items).map .array)) ∧
        (∀ n k : Nat, n ≤ k →
          (∀ vs ws, Host.decomposeFirst n items = .ok vs →
            Host.decomposeFirst k items = .ok ws → vs <+: ws) ∧
          ∀ payload, (Magic.dispatch e k m s).1 = .ok (.success payload) →
            ∃ vs, Host.decomposeFirst n items = .ok vs ∧
              (Magic.dispatch e n ⟨"json", m.argument⟩ s).1 =
                .ok (.success [(structuredMedia, .structured (.array vs))])) ∧
        ∀ (τ : Type) (e' : Engine τ) (s' : Session τ) take' attributes' items' (n : Nat),
          e'.DecomposesByDefault →
          (e'.lookup m.argument s'.engine).1 = .ok (.handle take' attributes') →
          Host.Yields take' items' → items'.take n = items.take n →
          (Magic.dispatch e' n m s').1 = (Magic.dispatch e n m s).1 := by
  refine ⟨fun limit code s => ⟨fun ha => execute_samples ha limit code,
    fun ha => execute_samples_of_not_admits ha limit code⟩, Host.decompose_withTake,
    fun m s h hm hl => ⟨dispatch_samples_of_bound hm hl, dispatch_recorded_calls hm hl, ?_, ?_⟩⟩
  · intro hh limit
    exact Magic.dispatch_of_default he hm hl (Magic.sampled_of_not_isHandle hh limit)
  · intro take attributes items hh hy
    subst hh
    refine ⟨Magic.dispatch_of_yields he hm hy hl, fun n k hle => ⟨?_, ?_⟩, ?_⟩
    · exact fun vs ws hn hk => Host.decomposeFirst_isPrefix hle hn hk
    · exact fun payload hp => Magic.dispatch_json_of_le he hm hy hl hle hp
    · intro τ e' s' take' attributes' items' n he' hl' hy' hsame
      exact Magic.dispatch_congr he he' hm hy hy' hl hl' hsame

/-- Two numbers, and bytes, which have no structured form. -/
def shelfItems : List Host := [.int 1, .int 2, .binary .fixed [0]]

/-- The first of the items, as a list. -/
def shelfTake (limit : Int) : Except Fault Host :=
  .ok (.list (shelfItems.take limit.toNat))

/-- An engine in which every name is bound to a handle with these items. -/
def shelf : Engine Unit :=
  { echo with lookup := fun _ s => (.ok (.handle shelfTake []), s) }

/-- With limits within the two numbers they are shown; with a greater one the bytes are
reached. One sample is asked for in either case. -/
theorem magics_sample_handles_shelf :
    shelf.DecomposesByDefault ∧ Host.Yields shelfTake shelfItems ∧
    (∀ n ≤ 2, ∃ vs, Host.decomposeFirst n shelfItems = .ok vs ∧
      (Magic.dispatch shelf n ⟨"json", "x"⟩ { engine := () }).1 =
        .ok (.success [(structuredMedia, .structured (.array vs))])) ∧
    (Magic.dispatch shelf 3 ⟨"table", "x"⟩ { engine := () }).1 = .ok Magic.conversionError ∧
    (Magic.dispatch shelf 3 ⟨"table", "x"⟩ { engine := () }).2.samples = [3] := by
  have he : shelf.DecomposesByDefault := fun _ _ => rfl
  have hy : Host.Yields shelfTake shelfItems := fun n => ⟨_, rfl, rfl⟩
  obtain ⟨-, -, hmagics⟩ := magics_sample_handles shelf he
  obtain ⟨-, -, -, hjson⟩ := hmagics ⟨"json", "x"⟩ { engine := () } _ rfl rfl
  obtain ⟨hsamples, -, -, htable⟩ := hmagics ⟨"table", "x"⟩ { engine := () } _ rfl rfl
  obtain ⟨hshown, hle, -⟩ := hjson shelfTake [] shelfItems rfl hy
  have hsuccess : (Magic.dispatch shelf (2 : Nat) ⟨"json", "x"⟩ { engine := () }).1 =
      .ok (.success [(structuredMedia, .structured (.array [.int 1, .int 2]))]) := hshown 2
  exact ⟨he, hy, fun n hn => (hle n 2 hn).2 _ hsuccess,
    (htable shelfTake [] shelfItems rfl hy).1 3, hsamples 3⟩

end LiveSession.Session
