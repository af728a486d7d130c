import LiveSession.Proofs.Magic.Agreement
import LiveSession.Proofs.Session.Sampling

/-!
# The outcome of a magic

What a magic answers is decided in order. A magic of another name is unknown, and the
engine is not asked. Otherwise the argument is looked up, once; if this fails, it is not
bound. If a handle gives no sample, or nothing that can be gone through, or the engine does
not decompose what is found, then the value cannot be converted, whatever was raised.
Otherwise the value is shown.
-/

namespace LiveSession

variable {σ : Type}

/-- An engine that finds a name or misses it, and that decomposes a value into a closed
one, never into nothing, or fails. -/
structure Engine.Conforming (e : Engine σ) : Prop extends e.Orderly where
  decomposes : ∀ value state, (e.decompose value state).1 ≠ .ok none

/-- What is decomposed is decomposed into a closed value, or the engine raises. -/
theorem Engine.Conforming.decompose_cases {e : Engine σ} (he : e.Conforming) (value : Host)
    (state : σ) :
    (∃ f, (e.decompose value state).1 = .error f) ∨
      ∃ v, v.isClosed = true ∧ (e.decompose value state).1 = .ok (some (.structured v)) := by
  cases hd : (e.decompose value state).1 with
  | error f => exact .inl ⟨f, rfl⟩
  | ok found =>
    cases found with
    | none => exact absurd hd (he.decomposes value state)
    | some entry =>
      obtain ⟨v, rfl, hv⟩ := he.closed value state entry hd
      exact .inr ⟨v, hv, rfl⟩

namespace Magic

/-- The conversion of a value fails, in a state of the engine. -/
inductive Unconverted (e : Engine σ) (limit : Int) (state : σ) : Host → Prop
  /-- A handle raises in place of giving a sample. -/
  | untaken {take : Int → Except Fault Host} {attributes : List (String × Host)} {f : Fault}
      (raised : take limit = .error f) : Unconverted e limit state (.handle take attributes)
  /-- The sample of a handle cannot be gone through. -/
  | unlisted {take : Int → Except Fault Host} {attributes : List (String × Host)} {taken : Host}
      (took : take limit = .ok taken) (unlisted : taken.elements? = none) :
      Unconverted e limit state (.handle take attributes)
  /-- The list of the sampled elements is not decomposed. -/
  | undecomposed {take : Int → Except Fault Host} {attributes : List (String × Host)}
      {taken : Host} {elements : List Host} {f : Fault} (took : take limit = .ok taken)
      (listed : taken.elements? = some elements)
      (raised : (e.decompose (.list elements) state).1 = .error f) :
      Unconverted e limit state (.handle take attributes)
  /-- A value that is no handle is not decomposed. -/
  | unsampled {h : Host} {f : Fault} (unhandled : h.isHandle = false)
      (raised : (e.decompose h state).1 = .error f) : Unconverted e limit state h

/-- A value is converted to a structured one, in a state of the engine. -/
inductive Converted (e : Engine σ) (limit : Int) (state : σ) : Host → Structured → Prop
  /-- The list of the sampled elements of a handle is decomposed. -/
  | sampled {take : Int → Except Fault Host} {attributes : List (String × Host)} {taken : Host}
      {elements : List Host} {v : Structured} (took : take limit = .ok taken)
      (listed : taken.elements? = some elements)
      (decomposed : (e.decompose (.list elements) state).1 = .ok (some (.structured v))) :
      Converted e limit state (.handle take attributes) v
  /-- A value that is no handle is decomposed as it is. -/
  | unsampled {h : Host} {v : Structured} (unhandled : h.isHandle = false)
      (decomposed : (e.decompose h state).1 = .ok (some (.structured v))) :
      Converted e limit state h v

section

variable {e : Engine σ} {limit : Int} {state : σ} {h : Host}

/-- A value whose conversion fails has no structured form. -/
theorem formOf_of_unconverted (hu : Unconverted e limit state h) :
    formOf e limit h state = none := by
  cases hu with
  | untaken raised => simp [formOf, sampled, raised]
  | unlisted took unlisted => simp [formOf, sampled, took, unlisted]
  | undecomposed took listed raised => simp [formOf, sampled, took, listed, raised]
  | unsampled unhandled raised =>
    rw [formOf, sampled_of_not_isHandle unhandled]
    simp [raised]

/-- A value that is converted has this structured form. -/
theorem formOf_of_converted {v : Structured} (hc : Converted e limit state h v) :
    formOf e limit h state = some (.structured v) := by
  cases hc with
  | sampled took listed decomposed => simp [formOf, Magic.sampled, took, listed, decomposed]
  | unsampled unhandled decomposed =>
    rw [formOf, sampled_of_not_isHandle unhandled]
    simp [decomposed]

/-- The conversion of a value fails, or it is converted to a closed value. -/
theorem unconverted_or_converted (he : e.Conforming) (limit : Int) (state : σ) (h : Host) :
    Unconverted e limit state h ∨
      ∃ v, v.isClosed = true ∧ Converted e limit state h v := by
  cases hh : h.isHandle with
  | false =>
    rcases he.decompose_cases h state with ⟨f, hf⟩ | ⟨v, hv, hd⟩
    · exact .inl (.unsampled hh hf)
    · exact .inr ⟨v, hv, .unsampled hh hd⟩
  | true =>
    obtain ⟨take, attributes, rfl⟩ : ∃ take attributes, h = .handle take attributes := by
      cases h with
      | handle take attributes => exact ⟨take, attributes, rfl⟩
      | _ => cases hh
    cases ht : take limit with
    | error f => exact .inl (.untaken ht)
    | ok taken =>
      cases hx : taken.elements? with
      | none => exact .inl (.unlisted ht hx)
      | some elements =>
        rcases he.decompose_cases (.list elements) state with ⟨f, hf⟩ | ⟨v, hv, hd⟩
        · exact .inl (.undecomposed ht hx hf)
        · exact .inr ⟨v, hv, .sampled ht hx hd⟩

/-- What a magic that shows a value makes of a structured value: a document, or a table
unless types are mixed in a column. -/
inductive Renders (m : Magic) (v : Structured) : Response → Prop
  | document (json : m.name = "json") :
      Renders m v (.success [(structuredMedia, .structured v)])
  | tabled {t : Table} (table : m.name = "table") (inferred : Table.infer v = .ok t) :
      Renders m v (.success [(tableMedia, .table t)])
  | mixed (table : m.name = "table") (mixed : Table.infer v = .error .mixed) :
      Renders m v (.error "TypeError" "table rows have different types" [])

/-- What a magic answers in a state of the engine, by what comes of looking its argument up
and of converting the value that is found. -/
inductive Answers (e : Engine σ) (limit : Int) (m : Magic) (state : σ) : Response → Prop
  | unknown (other : m.shows = false) : Answers e limit m state (unknown m.name)
  | unbound {f : Fault} (shows : m.shows = true)
      (lost : (e.lookup m.argument state).1 = .error f) :
      Answers e limit m state (unbound m.argument)
  | unconverted {h : Host} (shows : m.shows = true)
      (found : (e.lookup m.argument state).1 = .ok h)
      (failed : Unconverted e limit (e.lookup m.argument state).2 h) :
      Answers e limit m state conversionError
  | rendered {h : Host} {v : Structured} {r : Response} (shows : m.shows = true)
      (found : (e.lookup m.argument state).1 = .ok h)
      (converted : Converted e limit (e.lookup m.argument state).2 h v)
      (renders : Renders m v r) : Answers e limit m state r

/-- A closed value is rendered. -/
theorem exists_renders {m : Magic} {v : Structured} (hm : m.shows = true)
    (hv : v.isClosed = true) : ∃ r, m.render (.structured v) = .ok r ∧ Renders m v r := by
  unfold render
  by_cases hj : m.name = "json"
  · rw [if_pos hj]
    exact ⟨_, rfl, .document hj⟩
  · have ht : m.name = "table" := by simpa [shows, hj] using hm
    rw [if_neg hj]
    change ∃ r, (Response.ofTable v).mapError Escape.notStructured = .ok r ∧ _
    unfold Response.ofTable
    cases hi : Table.infer v with
    | ok t => exact ⟨_, rfl, .tabled ht hi⟩
    | error mismatch =>
      cases Table.infer_error (fun _ hx => Table.isClosed_of_mem_cellsOf hv hx) hi
      exact ⟨_, rfl, .mixed ht hi⟩

/-- A rendered value is no answer to a magic that failed. -/
theorem Renders.ne {m : Magic} {v : Structured} {r : Response} (h : Renders m v r) :
    r ≠ unknown m.name ∧ r ≠ unbound m.argument ∧ r ≠ conversionError := by
  cases h with
  | document json => exact ⟨nofun, nofun, nofun⟩
  | tabled table inferred => exact ⟨nofun, nofun, nofun⟩
  | mixed table mixed => simp [Magic.unknown, Magic.unbound, conversionError]

/-- A magic answers, where no sampling of a handle is interrupted. -/
theorem dispatch_answers (he : e.Conforming) {m : Magic} {s : Session σ}
    (ht : ∀ take attributes f,
      (e.lookup m.argument s.engine).1 = .ok (.handle take attributes) → take limit = .error f →
        f.interrupts = false) :
    ∃ r, (dispatch e limit m s).1 = .ok r ∧ Answers e limit m s.engine r := by
  cases hm : m.shows with
  | false =>
    rw [dispatch_of_not_shows hm]
    exact ⟨_, rfl, .unknown hm⟩
  | true =>
    cases hl : (e.lookup m.argument s.engine).1 with
    | error f =>
      rw [dispatch_of_lost e limit hm hl, if_pos (he.lookup m.argument s.engine f hl)]
      exact ⟨_, rfl, .unbound hm hl⟩
    | ok h =>
      have hs : ∀ f, sampled limit h = .error f → f.interrupts = false := fun f hf =>
        sampled_uninterrupted (fun take attributes g hh hg => ht take attributes g (hh ▸ hl) hg) hf
      rw [dispatch_of_bound e limit hm hl hs he.toOrderly.decompose]
      rcases unconverted_or_converted he limit (e.lookup m.argument s.engine).2 h with
        hu | ⟨v, hv, hc⟩
      · rw [formOf_of_unconverted hu]
        exact ⟨_, rfl, .unconverted hm hl hu⟩
      · obtain ⟨r, hr, hrenders⟩ := exists_renders hm hv
        rw [formOf_of_converted hc]
        exact ⟨r, hr, .rendered hm hl hc hrenders⟩

/-- A value that is converted does not fail to be. -/
theorem Converted.not_unconverted {v : Structured} (hc : Converted e limit state h v) :
    ¬ Unconverted e limit state h := by
  intro hu
  have hform := formOf_of_unconverted hu
  rw [formOf_of_converted hc] at hform
  cases hform

namespace Answers

variable {m : Magic} {r : Response}

/-- A magic is unknown if it is none of those that show a value. -/
theorem unknown_iff (ha : Answers e limit m state r) :
    r = Magic.unknown m.name ↔ m.shows = false := by
  cases ha with
  | unknown other => exact iff_of_true rfl other
  | unbound shows lost =>
    exact iff_of_false (by simp [Magic.unbound, Magic.unknown]) (by simp [shows])
  | unconverted shows found failed =>
    exact iff_of_false (by simp [conversionError, Magic.unknown]) (by simp [shows])
  | rendered shows found converted renders =>
    exact iff_of_false renders.ne.1 (by simp [shows])

/-- An argument is not bound if looking it up fails. -/
theorem unbound_iff (ha : Answers e limit m state r) (hm : m.shows = true) :
    r = Magic.unbound m.argument ↔ ∃ f, (e.lookup m.argument state).1 = .error f := by
  cases ha with
  | unknown other => simp [hm] at other
  | unbound shows lost => exact iff_of_true rfl ⟨_, lost⟩
  | unconverted shows found failed =>
    exact iff_of_false (by simp [conversionError, Magic.unbound]) (by simp [found])
  | rendered shows found converted renders =>
    exact iff_of_false renders.ne.2.1 (by simp [found])

/-- A value that is found is answered with an error of conversion if converting it fails. -/
theorem conversionError_iff (ha : Answers e limit m state r) (hm : m.shows = true)
    (hl : (e.lookup m.argument state).1 = .ok h) :
    r = conversionError ↔ Unconverted e limit (e.lookup m.argument state).2 h := by
  cases ha with
  | unknown other => simp [hm] at other
  | unbound shows lost => simp [hl] at lost
  | unconverted shows found failed =>
    rw [hl, Except.ok.injEq] at found
    subst found
    exact iff_of_true rfl failed
  | rendered shows found converted renders =>
    rw [hl, Except.ok.injEq] at found
    subst found
    exact iff_of_false renders.ne.2.2 converted.not_unconverted

/-- Otherwise the value is converted and rendered. -/
theorem exists_converted (ha : Answers e limit m state r) (hm : m.shows = true)
    (hl : (e.lookup m.argument state).1 = .ok h)
    (hu : ¬ Unconverted e limit (e.lookup m.argument state).2 h) :
    ∃ v, Converted e limit (e.lookup m.argument state).2 h v ∧ Renders m v r := by
  cases ha with
  | unknown other => simp [hm] at other
  | unbound shows lost => simp [hl] at lost
  | unconverted shows found failed =>
    rw [hl, Except.ok.injEq] at found
    subst found
    exact absurd failed hu
  | rendered shows found converted renders =>
    rw [hl, Except.ok.injEq] at found
    subst found
    exact ⟨_, converted, renders⟩

end Answers

/-- The calls of a magic that shows a value are its look-up and decompositions. -/
theorem engineCalls_of_shows {m : Magic} (hm : m.shows = true) :
    ∃ rest, m.engineCalls e limit state = .lookup m.argument :: rest ∧
      ∀ call ∈ rest, ∃ value, call = .decompose value := by
  rw [engineCalls, if_pos hm]
  refine ⟨_, rfl, fun call hcall => ?_⟩
  cases hl : (e.lookup m.argument state).1 with
  | error f => simp [hl] at hcall
  | ok h =>
    cases hs : sampled limit h with
    | error f => simp [hl, hs] at hcall
    | ok value =>
      simp only [hl, hs, List.mem_singleton] at hcall
      exact ⟨value, hcall⟩

end

/-- The outcome of a magic, of an engine that finds a name or misses it and that decomposes
a value into a closed one or fails, where no sampling of a handle is interrupted. The magic
answers and interprets nothing. It is unknown exactly if its name is neither of the two,
and then the engine is not called at all. Otherwise the argument is looked up once; it is
not bound exactly if this fails. A value that is found is not converted exactly if the
handle, the listing of its sample or the engine raises, whatever it raises; else it is shown
in the way of the magic. -/
theorem dispatch_outcome (e : Engine σ) (he : e.Conforming) (limit : Int) (m : Magic)
    (s : Session σ)
    (ht : ∀ take attributes f,
      (e.lookup m.argument s.engine).1 = .ok (.handle take attributes) → take limit = .error f →
        f.interrupts = false) :
    ∃ r, (dispatch e limit m s).1 = .ok r ∧
      (∀ call ∈ (dispatch e.recorded limit m s.recorded).2.engine.2, call.interprets = false) ∧
      (r = unknown m.name ↔ m.name ≠ "json" ∧ m.name ≠ "table") ∧
      (m.name ≠ "json" ∧ m.name ≠ "table" →
        (dispatch e.recorded limit m s.recorded).2.engine.2 = []) ∧
      (m.name = "json" ∨ m.name = "table" →
        (∃ rest, (dispatch e.recorded limit m s.recorded).2.engine.2 =
            .lookup m.argument :: rest ∧ ∀ call ∈ rest, ∃ value, call = .decompose value) ∧
        (r = unbound m.argument ↔ ∃ f, (e.lookup m.argument s.engine).1 = .error f) ∧
        ∀ h, (e.lookup m.argument s.engine).1 = .ok h →
          (r = conversionError ↔ Unconverted e limit (e.lookup m.argument s.engine).2 h) ∧
          (¬ Unconverted e limit (e.lookup m.argument s.engine).2 h →
            ∃ v, Converted e limit (e.lookup m.argument s.engine).2 h v ∧ Renders m v r)) := by
  have hother : m.name ≠ "json" ∧ m.name ≠ "table" ↔ m.shows = false := by simp [shows]
  have hcalls : (dispatch e.recorded limit m s.recorded).2.engine.2 =
      m.engineCalls e limit s.engine := dispatch_calls e limit m s.recorded
  obtain ⟨r, hr, ha⟩ := dispatch_answers he ht
  rw [hcalls, hother]
  refine ⟨r, hr, ?_, ha.unknown_iff, ?_, ?_⟩
  · intro call hcall
    cases hm : m.shows with
    | false => simp [engineCalls, hm] at hcall
    | true =>
      obtain ⟨rest, hrest, hdecompose⟩ : ∃ rest, m.engineCalls e limit s.engine =
          .lookup m.argument :: rest ∧ ∀ call ∈ rest, ∃ value, call = .decompose value :=
        engineCalls_of_shows hm
      rw [hrest] at hcall
      rcases List.mem_cons.mp hcall with rfl | hmem
      · rfl
      · obtain ⟨value, rfl⟩ := hdecompose call hmem
        rfl
  · intro hm
    simp [engineCalls, hm]
  · intro hname
    have hm : m.shows = true := by simpa [shows] using hname
    refine ⟨engineCalls_of_shows hm, ha.unbound_iff hm, fun h hl => ⟨?_, ?_⟩⟩
    · exact ha.conversionError_iff hm hl
    · exact ha.exists_converted hm hl

/-- A handle that gives no sample: a name is missing in it. -/
def lostTake (_limit : Int) : Except Fault Host :=
  .error (.unbound "row")

/-- An engine in which one name is bound to this handle and one to ragged rows. -/
def stall : Engine Unit :=
  { ragged with
    lookup := fun name s =>
      if name = "lost" then (.ok (.handle lostTake []), s)
      else if name = "rows" then (.ok raggedHost, s)
      else (.error (.unbound name), s) }

/-- The engine finds a name or misses it, and decomposes into closed values or fails. -/
theorem stall_conforming : stall.Conforming where
  lookup name state f h := by
    unfold stall at h
    dsimp only at h
    split at h
    · cases h
    · split at h
      · cases h
      · cases h
        rfl
  decompose := ragged_orderly.decompose
  closed := ragged_orderly.closed
  decomposes value state h := by
    change (ragged.decompose value state).1 = _ at h
    unfold ragged at h
    dsimp only at h
    split at h
    · split at h <;> cases h
    · cases h

/-- No sampling of a handle that the engine finds is interrupted. -/
theorem stall_uninterrupted {name : String} {state : Unit} {limit : Int}
    {take : Int → Except Fault Host} {attributes : List (String × Host)} {f : Fault}
    (hl : (stall.lookup name state).1 = .ok (.handle take attributes))
    (ht : take limit = .error f) :
    f.interrupts = false := by
  unfold stall at hl
  dsimp only at hl
  split at hl
  · cases hl
    cases ht
    rfl
  · split at hl <;> cases hl

/-- A missing name that a handle raises is an error of conversion, one that the engine
raises is not; the rows are converted and shown. -/
theorem dispatch_outcome_stall :
    stall.Conforming ∧
    (dispatch stall 3 ⟨"json", "lost"⟩ { engine := () }).1 = .ok conversionError ∧
    (dispatch stall 3 ⟨"json", "row"⟩ { engine := () }).1 = .ok (unbound "row") ∧
    (dispatch stall 3 ⟨"plot", "row"⟩ { engine := () }).1 = .ok (unknown "plot") ∧
    ∃ v r, Converted stall 3 () raggedHost v ∧ Renders ⟨"table", "rows"⟩ v r ∧
      (dispatch stall 3 ⟨"table", "rows"⟩ { engine := () }).1 = .ok r := by
  have houtcome (m : Magic) := dispatch_outcome stall stall_conforming 3 m { engine := () }
    fun _ _ _ hl ht => stall_uninterrupted hl ht
  obtain ⟨lost, hlost, -, -, -, hfound⟩ := houtcome ⟨"json", "lost"⟩
  obtain ⟨row, hrow, -, -, -, hmissed⟩ := houtcome ⟨"json", "row"⟩
  obtain ⟨plot, hplot, -, hunknown, -⟩ := houtcome ⟨"plot", "row"⟩
  obtain ⟨rows, hrows, -, -, -, hshown⟩ := houtcome ⟨"table", "rows"⟩
  have hlooked : (stall.lookup "rows" ()).1 = .ok raggedHost := rfl
  have hconverted : Converted stall 3 () raggedHost raggedValue := .unsampled rfl rfl
  have hconversion : lost = conversionError :=
    ((hfound (.inl rfl)).2.2 (.handle lostTake []) rfl).1.mpr (.untaken rfl)
  have hunbound : row = unbound "row" := (hmissed (.inl rfl)).2.1.mpr ⟨_, rfl⟩
  have hplain : plot = unknown "plot" := hunknown.mpr (by decide)
  obtain ⟨v, hv, hrenders⟩ :=
    ((hshown (.inr rfl)).2.2 raggedHost hlooked).2 hconverted.not_unconverted
  rw [hlost, hconversion, hrow, hunbound, hplot, hplain]
  exact ⟨stall_conforming, rfl, rfl, rfl, v, rows, hv, hrenders, hrows⟩

end Magic

end LiveSession
