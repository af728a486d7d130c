import LiveSession.Host.Text
import LiveSession.Proofs.Host.Rewriting

/-!
# Handles inside a value

A handle keeps the means of sampling it. How a value is written, and which
values it is equal to, does not depend on the samplings of the handles in it,
at any depth: every sampling in it can be put in the place of another.
-/

namespace LiveSession

mutual

/-- A structured value with the given sampling in the place of every sampling in
it. -/
def Structured.withTake (take : Int → Except Fault Host) : Structured → Structured
  | .array items => .array (items.map fun v => v.withTake take)
  | .object fields => .object (fields.map fun f => (f.1, f.2.withTake take))
  | .foreign h => .foreign (h.withTake take)
  | v => v
termination_by v => sizeOf v
decreasing_by
  · have hlt := List.sizeOf_lt_of_mem ‹v ∈ items›
    rw [Structured.array.sizeOf_spec]
    omega
  · have hlt := sizeOf_snd_lt_of_mem ‹f ∈ fields›
    rw [Structured.object.sizeOf_spec]
    omega
  · rw [Structured.foreign.sizeOf_spec]
    omega

/-- A value with the given sampling in the place of every sampling in it. -/
def Host.withTake (take : Int → Except Fault Host) : Host → Host
  | .sequence kind items => .sequence kind (items.map fun h => h.withTake take)
  | .mapping kind entries =>
    .mapping kind (entries.map fun e => (e.1.withTake take, e.2.withTake take))
  | .record kind fields => .record kind (fields.map fun f => (f.1, f.2.withTake take))
  | .envelope root => .envelope (root.withTake take)
  | .handle _ attributes => .handle take (attributes.map fun f => (f.1, f.2.withTake take))
  | .structured v => .structured (v.withTake take)
  | h => h
termination_by h => sizeOf h
decreasing_by
  · have hlt := List.sizeOf_lt_of_mem ‹h ∈ items›
    rw [Host.sequence.sizeOf_spec]
    omega
  · have hlt := sizeOf_fst_lt_of_mem ‹e ∈ entries›
    rw [Host.mapping.sizeOf_spec]
    omega
  · have hlt := sizeOf_snd_lt_of_mem ‹e ∈ entries›
    rw [Host.mapping.sizeOf_spec]
    omega
  · have hlt := sizeOf_snd_lt_of_mem ‹f ∈ fields›
    rw [Host.record.sizeOf_spec]
    omega
  · rw [Host.envelope.sizeOf_spec]
    omega
  · have hlt := sizeOf_snd_lt_of_mem ‹f ∈ attributes›
    rw [Host.handle.sizeOf_spec]
    omega
  · rw [Host.structured.sizeOf_spec]
    omega

end

variable (take : Int → Except Fault Host)

/-- A value without parts has no sampling. -/
theorem Host.withTake_atom {h : Host} (ha : h.layout = .atom) : h.withTake take = h := by
  cases h with
  | sequence kind items => cases ha
  | mapping kind entries => cases ha
  | record kind fields => cases ha
  | envelope root => cases ha
  | handle t attributes => cases ha
  | structured v => cases ha
  | _ => simp only [withTake]

/-- A structured value without parts has no sampling. -/
theorem Structured.withTake_leaf {v : Structured} (hv : v.layout = .atom) :
    v.withTake take = v := by
  cases v with
  | array items => cases hv
  | object fields => cases hv
  | foreign h => cases hv
  | _ => simp only [withTake]

namespace Host

section Quoted

/-- The quoted forms of a run are those of its members. -/
theorem quotedItems_eq (items : List Host) : quotedItems items = items.map quoted := by
  induction items with
  | nil => rfl
  | cons h rest ih => exact congrArg (quoted h :: ·) ih

/-- The quoted entries of a mapping are those of its keys and values. -/
theorem quotedEntries_eq (entries : List (Host × Host)) :
    quotedEntries entries = entries.map fun e => quoted e.1 ++ ": " ++ quoted e.2 := by
  induction entries with
  | nil => rfl
  | cons e rest ih => exact congrArg ((quoted e.1 ++ ": " ++ quoted e.2) :: ·) ih

/-- The quoted pairs of a mapping are those of its keys and values. -/
theorem quotedPairs_eq (entries : List (Host × Host)) :
    quotedPairs entries = entries.map fun e => tupled [quoted e.1, quoted e.2] := by
  induction entries with
  | nil => rfl
  | cons e rest ih => exact congrArg (tupled [quoted e.1, quoted e.2] :: ·) ih

/-- The quoted fields of a record are those of its values. -/
theorem quotedFields_eq (fields : List (String × Host)) :
    quotedFields fields = fields.map fun f => f.1 ++ "=" ++ quoted f.2 := by
  induction fields with
  | nil => rfl
  | cons f rest ih => exact congrArg ((f.1 ++ "=" ++ quoted f.2) :: ·) ih

/-- The quoted items of an array are those of its members. -/
theorem quotedStructuredItems_eq (items : List Structured) :
    quotedStructuredItems items = items.map quotedStructured := by
  induction items with
  | nil => rfl
  | cons v rest ih => exact congrArg (quotedStructured v :: ·) ih

/-- The quoted fields of an object are those of its values. -/
theorem quotedStructuredFields_eq (fields : List (String × Structured)) :
    quotedStructuredFields fields =
      fields.map fun f => tupled [Text.quote f.1, quotedStructured f.2] := by
  induction fields with
  | nil => rfl
  | cons f rest ih => exact congrArg (tupled [Text.quote f.1, quotedStructured f.2] :: ·) ih

section Alike

variable {g : Host → Host} {entries : List (Host × Host)} {fields : List (String × Host)}

/-- Entries are written as others whose keys and values are written as theirs. -/
theorem quotedEntries_map
    (h : ∀ e ∈ entries, (g e.1).quoted = e.1.quoted ∧ (g e.2).quoted = e.2.quoted) :
    quotedEntries (entries.map fun e => (g e.1, g e.2)) = quotedEntries entries := by
  rw [quotedEntries_eq, quotedEntries_eq, List.map_map]
  refine List.map_congr_left fun e he => ?_
  dsimp only [Function.comp]
  rw [(h e he).1, (h e he).2]

/-- Pairs are written as others whose keys and values are written as theirs. -/
theorem quotedPairs_map
    (h : ∀ e ∈ entries, (g e.1).quoted = e.1.quoted ∧ (g e.2).quoted = e.2.quoted) :
    quotedPairs (entries.map fun e => (g e.1, g e.2)) = quotedPairs entries := by
  rw [quotedPairs_eq, quotedPairs_eq, List.map_map]
  refine List.map_congr_left fun e he => ?_
  dsimp only [Function.comp]
  rw [(h e he).1, (h e he).2]

/-- Fields are written as others of the same names whose values are written as theirs. -/
theorem quotedFields_map (h : ∀ f ∈ fields, (g f.2).quoted = f.2.quoted) :
    quotedFields (fields.map fun f => (f.1, g f.2)) = quotedFields fields := by
  rw [quotedFields_eq, quotedFields_eq, List.map_map]
  refine List.map_congr_left fun f hf => ?_
  dsimp only [Function.comp]
  rw [h f hf]

end Alike

/-- A value is written in the same way whatever the samplings in it. -/
theorem quoted_steps : Steps (fun h => (h.withTake take).quoted = h.quoted)
    (fun v => quotedStructured (v.withTake take) = quotedStructured v) where
  atom h ha := by rw [withTake_atom take ha]
  sequence kind items ih := by
    have hitems : quotedItems (items.map fun h => h.withTake take) = quotedItems items := by
      rw [quotedItems_eq, quotedItems_eq, List.map_map]
      exact List.map_congr_left ih
    rw [withTake]
    cases kind with
    | list => exact congrArg (bracketed "[" "]") hitems
    | tuple => exact congrArg tupled hitems
    | set =>
      cases items with
      | nil => rfl
      | cons h rest => exact congrArg (bracketed "\x7b" "\x7d") hitems
    | frozenSet =>
      cases items with
      | nil => rfl
      | cons h rest => exact congrArg (bracketed "frozenset(\x7b" "\x7d)") hitems
    | wrapped => exact congrArg (bracketed "[" "]") hitems
    | deque => exact congrArg (bracketed "deque([" "])") hitems
    | array => exact congrArg (bracketed "array('i', [" "])") hitems
  mapping kind entries ih := by
    rw [withTake]
    cases kind with
    | ordered =>
      cases entries with
      | nil => rfl
      | cons e rest => exact congrArg (bracketed "OrderedDict([" "])") (quotedPairs_map ih)
    | view => exact congrArg (bracketed "mappingproxy(\x7b" "\x7d)") (quotedEntries_map ih)
    | _ => exact congrArg (bracketed "\x7b" "\x7d") (quotedEntries_map ih)
  record kind fields ih := by
    have hfields : quotedFields (fields.map fun f => (f.1, f.2.withTake take)) =
        quotedFields fields := quotedFields_map ih
    rw [withTake]
    cases kind with
    | declared => exact congrArg (bracketed "Data(" ")") hfields
    | model => exact congrArg (bracketed "Model(" ")") hfields
    | object => exact congrArg (bracketed "<" ">") hfields
    | loose => exact congrArg (bracketed "namespace(" ")") hfields
  envelope root ih := by
    rw [withTake]
    exact congrArg (fun q => bracketed "RootModel[Any](root=" ")" [q]) ih
  handle t attributes _ := by
    rw [withTake]
    rfl
  structured v ih := by
    rw [withTake]
    exact ih
  leaf v hv := by rw [Structured.withTake_leaf take hv]
  array items ih := by
    have hitems : quotedStructuredItems (items.map fun v => v.withTake take) =
        quotedStructuredItems items := by
      rw [quotedStructuredItems_eq, quotedStructuredItems_eq, List.map_map]
      exact List.map_congr_left ih
    rw [Structured.withTake]
    exact congrArg (fun qs => "ArrayValue(items=" ++ tupled qs ++ ")") hitems
  object fields ih := by
    have hfields : quotedStructuredFields (fields.map fun f => (f.1, f.2.withTake take)) =
        quotedStructuredFields fields := by
      rw [quotedStructuredFields_eq, quotedStructuredFields_eq, List.map_map]
      refine List.map_congr_left fun f hf => ?_
      dsimp only [Function.comp]
      rw [ih f hf]
    rw [Structured.withTake]
    exact congrArg (fun qs => "ObjectValue(fields=" ++ tupled qs ++ ")") hfields
  foreign h ih := by
    rw [Structured.withTake]
    exact ih

/-- A value is printed in the same way whatever the samplings in it. -/
theorem text_withTake (h : Host) : (h.withTake take).text = h.text := by
  have hquoted : ∀ h : Host, (h.withTake take).quoted = h.quoted := (quoted_steps take).value
  cases h with
  | sequence kind items =>
    have hsequence := hquoted (.sequence kind items)
    rw [withTake] at hsequence ⊢
    exact hsequence
  | mapping kind entries =>
    have hmapping := hquoted (.mapping kind entries)
    rw [withTake] at hmapping ⊢
    cases kind with
    | view =>
      exact congrArg (bracketed "\x7b" "\x7d")
        (quotedEntries_map fun e _ => ⟨hquoted e.1, hquoted e.2⟩)
    | _ => exact hmapping
  | record kind fields =>
    have hrecord := hquoted (.record kind fields)
    rw [withTake] at hrecord ⊢
    cases kind with
    | model =>
      exact congrArg (String.intercalate " ") (quotedFields_map fun f _ => hquoted f.2)
    | _ => exact hrecord
  | envelope root =>
    rw [withTake]
    exact congrArg ("root=" ++ ·) (hquoted root)
  | handle t attributes =>
    rw [withTake]
    rfl
  | structured v =>
    rw [withTake]
    exact (quoted_steps take).tree v
  | _ => rw [withTake_atom take rfl]

end Quoted

section Oversized

/-- An integer with too many digits stands in a run if it does in some element. -/
theorem oversizedItems_eq (items : List Host) : oversizedItems items = items.any oversized := by
  induction items with
  | nil => rfl
  | cons h rest ih => exact congrArg (oversized h || ·) ih

/-- It stands in entries if it does in some key or value. -/
theorem oversizedEntries_eq (entries : List (Host × Host)) :
    oversizedEntries entries = entries.any fun e => oversized e.1 || oversized e.2 := by
  induction entries with
  | nil => rfl
  | cons e rest ih => exact congrArg (oversized e.1 || oversized e.2 || ·) ih

/-- It stands in fields if it does in some value. -/
theorem oversizedFields_eq (fields : List (String × Host)) :
    oversizedFields fields = fields.any fun f => oversized f.2 := by
  induction fields with
  | nil => rfl
  | cons f rest ih => exact congrArg (oversized f.2 || ·) ih

/-- It stands in an array if it does in some item. -/
theorem oversizedStructuredItems_eq (items : List Structured) :
    oversizedStructuredItems items = items.any oversizedStructured := by
  induction items with
  | nil => rfl
  | cons v rest ih => exact congrArg (oversizedStructured v || ·) ih

/-- It stands in an object if it does in some field. -/
theorem oversizedStructuredFields_eq (fields : List (String × Structured)) :
    oversizedStructuredFields fields = fields.any fun f => oversizedStructured f.2 := by
  induction fields with
  | nil => rfl
  | cons f rest ih => exact congrArg (oversizedStructured f.2 || ·) ih

/-- A value has the same integers in its form whatever the samplings in it. -/
theorem oversized_steps : Steps (fun h => (h.withTake take).oversized = h.oversized)
    (fun v => oversizedStructured (v.withTake take) = oversizedStructured v) where
  atom h ha := by rw [withTake_atom take ha]
  sequence kind items ih := by
    rw [withTake, oversized, oversized, oversizedItems_eq, oversizedItems_eq]
    exact any_map_of_mem ih
  mapping kind entries ih := by
    have hentries : oversizedEntries (entries.map fun e => (e.1.withTake take, e.2.withTake take)) =
        oversizedEntries entries := by
      rw [oversizedEntries_eq, oversizedEntries_eq]
      refine any_map_of_mem fun e he => ?_
      dsimp only
      rw [(ih e he).1, (ih e he).2]
    rw [withTake]
    cases kind with
    | custom => rfl
    | _ => exact hentries
  record kind fields ih := by
    have hfields : oversizedFields (fields.map fun f => (f.1, f.2.withTake take)) =
        oversizedFields fields := by
      rw [oversizedFields_eq, oversizedFields_eq]
      exact any_map_of_mem ih
    rw [withTake]
    cases kind with
    | object => rfl
    | _ => exact hfields
  envelope root ih := by
    rw [withTake]
    exact ih
  handle t attributes _ := by
    rw [withTake]
    rfl
  structured v ih := by
    rw [withTake]
    exact ih
  leaf v hv := by rw [Structured.withTake_leaf take hv]
  array items ih := by
    rw [Structured.withTake, oversizedStructured, oversizedStructured,
      oversizedStructuredItems_eq, oversizedStructuredItems_eq]
    exact any_map_of_mem ih
  object fields ih := by
    rw [Structured.withTake, oversizedStructured, oversizedStructured,
      oversizedStructuredFields_eq, oversizedStructuredFields_eq]
    exact any_map_of_mem ih
  foreign h ih := by
    rw [Structured.withTake]
    exact ih

/-- A value is printed whatever the samplings in it, or it is not. -/
theorem oversizedText_withTake (h : Host) :
    (h.withTake take).oversizedText = h.oversizedText := by
  cases h with
  | constant name value => rw [withTake_atom take rfl]
  | sequence kind items =>
    have hsequence := (oversized_steps take).value (.sequence kind items)
    rw [withTake] at hsequence ⊢
    exact hsequence
  | mapping kind entries =>
    have hmapping := (oversized_steps take).value (.mapping kind entries)
    rw [withTake] at hmapping ⊢
    exact hmapping
  | record kind fields =>
    have hrecord := (oversized_steps take).value (.record kind fields)
    rw [withTake] at hrecord ⊢
    exact hrecord
  | envelope root =>
    rw [withTake]
    exact (oversized_steps take).value root
  | handle t attributes =>
    rw [withTake]
    rfl
  | structured v =>
    rw [withTake]
    exact (oversized_steps take).tree v
  | _ => rw [withTake_atom take rfl]

end Oversized

/-- Putting another sampling in the place of every sampling rewrites values. -/
theorem rewriting_withTake :
    Rewriting (withTake take) (Structured.withTake take) (withTake take) where
  atom _ ha := withTake_atom take ha
  sequence kind items := by rw [withTake]
  mapping kind entries := by rw [withTake]
  fields kind fields _ := by rw [withTake]
  attributes kind attributes _ := by
    refine ⟨attributes.map fun f => (f.1, f.2.withTake take), by rw [withTake], ?_⟩
    rw [List.filter_map]
    rfl
  envelope root := by rw [withTake]
  handle _ attributes := by
    refine ⟨take, attributes.map fun f => (f.1, f.2.withTake take), by rw [withTake], ?_⟩
    rw [List.filter_map]
    rfl
  structured v := by rw [withTake]
  leaf _ hv := Structured.withTake_leaf take hv
  array items := by rw [Structured.withTake]
  object fields := by rw [Structured.withTake]
  foreign h := by rw [Structured.withTake]
  keys := .inl rfl
  texts := text_withTake take
  oversized := oversizedText_withTake take

end Host

end LiveSession
