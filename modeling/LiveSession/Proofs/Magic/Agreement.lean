import LiveSession.Proofs.Magic.Raised
import LiveSession.Proofs.Response.Plain
import LiveSession.Proofs.Session.Execute
import LiveSession.Proofs.Table.Plain

/-!
# The two magics agree

The two magics that show a value look it up, sample it and decompose it in the
same way, so they fail alike. What one shows as a document the other shows as
the table of that document, unless cells of one column have different types.
-/

namespace LiveSession

variable {σ : Type}

/-- An engine that finds a name or misses it, and that decomposes a value into a
closed one or fails. -/
structure Engine.Orderly (e : Engine σ) : Prop where
  lookup : ∀ name state f, (e.lookup name state).1 = .error f → f.nature = .missing
  decompose : ∀ value state f, (e.decompose value state).1 = .error f → f.interrupts = false
  closed : ∀ value state entry, (e.decompose value state).1 = .ok (some entry) →
    ∃ v, entry = .structured v ∧ v.isClosed = true

namespace Magic

/-- What the two magics answer of one name, side by side: both do not find it, both
cannot convert its value, both are interrupted by the sampling of it; or one
answers with a document, and the other with an error for mixed types or with a
table that shows the document. -/
inductive Agree (e : Engine σ) (limit : Int) (name : String) (state : σ) :
    Except Escape Response → Except Escape Response → Prop
  | missed {f : Fault} (lost : (e.lookup name state).1 = .error f) :
      Agree e limit name state (.ok (unbound name)) (.ok (unbound name))
  | interrupted {take : Int → Except Fault Host} {attributes : List (String × Host)} {f : Fault}
      (found : (e.lookup name state).1 = .ok (.handle take attributes))
      (raised : take limit = .error f) (interrupts : f.interrupts = true) :
      Agree e limit name state (.error (.fault f)) (.error (.fault f))
  | unconverted : Agree e limit name state (.ok conversionError) (.ok conversionError)
  | mixed {v : Structured} {w : Host}
      (document : (asStructured (.structured v)).plain = .ok (Response.document structuredMedia w))
      (mixed : Table.infer v = .error .mixed) :
      Agree e limit name state (.ok (asStructured (.structured v)))
        (.ok (.error "TypeError" "table rows have different types" []))
  | shown {v : Structured} {t : Table} {w : Host} {headers rows : List Host}
      (document : (asStructured (.structured v)).plain = .ok (Response.document structuredMedia w))
      (table : (Response.success [(tableMedia, .table t)]).plain =
        .ok (Response.document tableMedia
          (.object [("headers", .list headers), ("data", .list rows)])))
      (shown : w.Shown headers rows) :
      Agree e limit name state (.ok (asStructured (.structured v)))
        (.ok (.success [(tableMedia, .table t)]))

section

variable {e : Engine σ} {limit : Int}

/-- Answers that agree miss a name, or fail to convert its value, together. -/
theorem Agree.error_iff {name : String} {state : σ} {j t : Except Escape Response}
    (h : Agree e limit name state j t) {r : Response}
    (hr : r = unbound name ∨ r = conversionError) : j = .ok r ↔ t = .ok r := by
  cases h with
  | missed lost => exact Iff.rfl
  | interrupted found raised interrupts => exact Iff.rfl
  | unconverted => exact Iff.rfl
  | mixed document mixed =>
    rcases hr with rfl | rfl
    · simp [asStructured, unbound]
    · simp [asStructured, conversionError]
  | shown document table shown =>
    rcases hr with rfl | rfl
    · simp [asStructured, unbound]
    · simp [asStructured, conversionError]

/-- A magic passes on what interrupts a sampling. -/
theorem dispatch_of_interrupted {m : Magic} {s : Session σ} {take : Int → Except Fault Host}
    {attributes : List (String × Host)} {f : Fault} (hm : m.shows = true)
    (hl : (e.lookup m.argument s.engine).1 = .ok (.handle take attributes))
    (ht : take limit = .error f) (hf : f.interrupts = true) :
    (dispatch e limit m s).1 = .error (.fault f) := by
  have hs : sampled limit (.handle take attributes) = .error f := by
    unfold sampled
    dsimp only
    rw [ht]
  rw [dispatch_of_found e limit hm hl]
  unfold structuredForm
  rw [sample_eq, hs]
  dsimp only
  rw [if_pos hf]
  rfl

/-- A closed value shown in the two ways. -/
theorem agree_of_closed {name : String} {state : σ} {v : Structured} (hv : v.isClosed = true) :
    Agree e limit name state (.ok (asStructured (.structured v))) (asTable (.structured v)) := by
  obtain ⟨w, hw⟩ := Structured.exists_plain hv
  have hdocument : (asStructured (.structured v)).plain =
      .ok (Response.document structuredMedia w) := Response.plain_success.mpr ⟨w, hw, rfl⟩
  change Agree e limit name state _ ((Response.ofTable v).mapError Escape.notStructured)
  unfold Response.ofTable
  cases hi : Table.infer v with
  | ok t =>
    obtain ⟨headers, rows, htable, hshown⟩ := Table.shown_of_infer hv hi hw
    exact .shown hdocument (Response.plain_success.mpr ⟨_, htable, rfl⟩) hshown
  | error mismatch =>
    cases Table.infer_error (fun _ hx => Table.isClosed_of_mem_cellsOf hv hx) hi
    exact .mixed hdocument hi

/-- The two magics answer alike. -/
theorem dispatch_agree (he : e.Orderly) (name : String) (s : Session σ) :
    Agree e limit name s.engine (dispatch e limit ⟨"json", name⟩ s).1
      (dispatch e limit ⟨"table", name⟩ s).1 := by
  have hjson : (⟨"json", name⟩ : Magic).shows = true := rfl
  have htable : (⟨"table", name⟩ : Magic).shows = true := rfl
  cases hl : (e.lookup name s.engine).1 with
  | error f =>
    have hmissing := he.lookup name s.engine f hl
    rw [dispatch_of_lost e limit hjson hl, dispatch_of_lost e limit htable hl, if_pos hmissing]
    exact .missed hl
  | ok h =>
    by_cases ht : ∃ take attributes f, h = .handle take attributes ∧ take limit = .error f ∧
        f.interrupts = true
    · obtain ⟨take, attributes, f, rfl, hraised, hf⟩ := ht
      rw [dispatch_of_interrupted hjson hl hraised hf, dispatch_of_interrupted htable hl hraised hf]
      exact .interrupted hl hraised hf
    · -- What fails here without interrupting is a conversion error of both.
      have hs : ∀ f, sampled limit h = .error f → f.interrupts = false := by
        refine fun f hf => sampled_uninterrupted (fun take attributes g hh hg => ?_) hf
        exact Bool.eq_false_iff.mpr fun hi => ht ⟨take, attributes, g, hh, hg, hi⟩
      rw [dispatch_of_bound e limit hjson hl hs he.decompose,
        dispatch_of_bound e limit htable hl hs he.decompose]
      cases hform : formOf e limit h (e.lookup name s.engine).2 with
      | none => exact .unconverted
      | some entry =>
        obtain ⟨v, rfl, hv⟩ := formOf_closed (he.closed) hform
        exact agree_of_closed hv

/-- What the two magics show of one name, in one state of a session whose engine
decomposes into closed values. Neither misses the name or fails to convert its
value unless the other does; where a value is shown, one answers with its
document, and the other with an error for mixed types or with the table that
shows this very document. -/
theorem json_table_agree (e : Engine σ) (he : e.Orderly) (limit : Int) (name : String)
    (s : Session σ) :
    ((dispatch e limit ⟨"json", name⟩ s).1 = .ok (unbound name) ↔
      (dispatch e limit ⟨"table", name⟩ s).1 = .ok (unbound name)) ∧
    ((dispatch e limit ⟨"json", name⟩ s).1 = .ok conversionError ↔
      (dispatch e limit ⟨"table", name⟩ s).1 = .ok conversionError) ∧
    Agree e limit name s.engine (dispatch e limit ⟨"json", name⟩ s).1
      (dispatch e limit ⟨"table", name⟩ s).1 := by
  have hagree : Agree e limit name s.engine (dispatch e limit ⟨"json", name⟩ s).1
      (dispatch e limit ⟨"table", name⟩ s).1 := dispatch_agree he name s
  exact ⟨hagree.error_iff (.inl rfl), hagree.error_iff (.inr rfl), hagree⟩

/-- A list and two mappings as rows, with columns that not every row has. -/
def raggedHost : Host :=
  .list [.list [.int 1, .string "x"], .object [("1", .string "y")],
    .object [("2", .list [.int 2, .int 3]), ("0", .int 4)]]

/-- What they decompose to. -/
def raggedValue : Structured :=
  .array [.array [.int 1, .string "x"], .object [("1", .string "y")],
    .object [("2", .array [.int 2, .int 3]), ("0", .int 4)]]

/-- The table of them. -/
def raggedTable : Table :=
  ⟨[⟨"0", .bigint⟩, ⟨"1", .string⟩, ⟨"2", .array⟩],
    [[.int 1, .string "x", .null], [.null, .string "y", .null],
      [.int 4, .null, .array [.int 2, .int 3]]]⟩

/-- An engine in which every name is bound to these rows. What it decomposes is
closed: it refuses a value that was built by hand and is not. -/
def ragged : Engine Unit :=
  { echo with
    lookup := fun _ s => (.ok raggedHost, s)
    decompose := fun h s =>
      match h.decompose with
      | .ok v =>
        if v.isClosed then (.ok (some (.structured v)), s)
        else (.error (DecomposeError.unsupported v.typeName).fault, s)
      | .error e => (.error e.fault, s) }

/-- The engine decomposes into closed values or fails. -/
theorem ragged_orderly : ragged.Orderly := by
  refine ⟨fun name state f h => ?_, fun value state f h => ?_, fun value state entry h => ?_⟩
  · cases h
  · unfold ragged at h
    dsimp only at h
    cases hd : value.decompose with
    | error err =>
      rw [hd] at h
      cases h
      rfl
    | ok v =>
      rw [hd] at h
      dsimp only at h
      split at h
      · cases h
      · cases h
        rfl
  · unfold ragged at h
    dsimp only at h
    cases hd : value.decompose with
    | error err =>
      rw [hd] at h
      cases h
    | ok v =>
      rw [hd] at h
      dsimp only at h
      split at h
      · next hv =>
        cases h
        exact ⟨v, rfl, hv⟩
      · cases h

/-- The rows are shown as they are, and as their table. -/
theorem json_table_agree_ragged :
    ragged.Orderly ∧
    (dispatch ragged 3 ⟨"json", "x"⟩ { engine := () }).1 =
      .ok (.success [(structuredMedia, .structured raggedValue)]) ∧
    (dispatch ragged 3 ⟨"table", "x"⟩ { engine := () }).1 =
      .ok (.success [(tableMedia, .table raggedTable)]) ∧
    Agree ragged 3 "x" () (dispatch ragged 3 ⟨"json", "x"⟩ { engine := () }).1
      (dispatch ragged 3 ⟨"table", "x"⟩ { engine := () }).1 := by
  obtain ⟨-, -, hagree⟩ := json_table_agree ragged ragged_orderly 3 "x" { engine := () }
  exact ⟨ragged_orderly, rfl, by cbv, hagree⟩

end

end Magic

end LiveSession
