import LiveSession.Decompose
import LiveSession.Proofs.Assoc.Joined
import LiveSession.Proofs.Host.Flattened

/-!
# Rewriting inside a value

A value is rewritten through its parts, down to those without any, which stay as they are.
Two things can be changed on the way: the sampling of a handle, and the private attributes
of a plain object or a handle. Neither is looked at where values are compared or
flattened, so both can be done before or after.
-/

namespace LiveSession

/-- Whether the attributes of a record can be private. -/
def RecordKind.isPlain : RecordKind → Bool
  | .object => true
  | .loose => true
  | _ => false

namespace Host

/-- What rewrites values, structured values and the keys of mappings. Keys are rewritten as
values are or left alone, and their texts stay in either case. -/
structure Rewriting (value : Host → Host) (tree : Structured → Structured)
    (key : Host → Host) : Prop where
  atom : ∀ h, h.layout = .atom → value h = h
  sequence : ∀ kind items, value (.sequence kind items) = .sequence kind (items.map value)
  mapping : ∀ kind entries,
    value (.mapping kind entries) = .mapping kind (entries.map fun e => (key e.1, value e.2))
  fields : ∀ kind fields, kind.isPlain = false →
    value (.record kind fields) = .record kind (fields.map fun f => (f.1, value f.2))
  /-- The public attributes of a plain object stay, and are rewritten. -/
  attributes : ∀ kind attributes, kind.isPlain = true →
    ∃ kept, value (.record kind attributes) = .record kind kept ∧
      (kept.filter fun f => isPublic f.1) =
        (attributes.filter fun f => isPublic f.1).map fun f => (f.1, value f.2)
  envelope : ∀ root, value (.envelope root) = .envelope (value root)
  /-- So do those of a handle, whose sampling can be another. -/
  handle : ∀ take attributes, ∃ take' kept, value (.handle take attributes) = .handle take' kept ∧
    (kept.filter fun f => isPublic f.1) =
      (attributes.filter fun f => isPublic f.1).map fun f => (f.1, value f.2)
  structured : ∀ v, value (.structured v) = .structured (tree v)
  leaf : ∀ v, v.layout = .atom → tree v = v
  array : ∀ items, tree (.array items) = .array (items.map tree)
  object : ∀ fields, tree (.object fields) = .object (fields.map fun f => (f.1, tree f.2))
  foreign : ∀ h, tree (.foreign h) = .foreign (value h)
  keys : key = value ∨ key = id
  texts : ∀ h, (key h).text = h.text
  oversized : ∀ h, (key h).oversizedText = h.oversizedText

namespace Rewriting

variable {value : Host → Host} {tree : Structured → Structured} {key : Host → Host}

section Layout

variable (r : Rewriting value tree key)

include r

/-- A rewritten record is a record. -/
theorem exists_record (kind : RecordKind) (fields : List (String × Host)) :
    ∃ kept, value (.record kind fields) = .record kind kept := by
  cases hk : kind.isPlain with
  | false => exact ⟨_, r.fields kind fields hk⟩
  | true =>
    obtain ⟨kept, hkept, -⟩ := r.attributes kind fields hk
    exact ⟨kept, hkept⟩

/-- A rewritten value has its layout. -/
theorem layout_value (h : Host) : (value h).layout = h.layout := by
  cases h with
  | sequence kind items =>
    rw [r.sequence]
    rfl
  | mapping kind entries =>
    rw [r.mapping]
    rfl
  | record kind fields =>
    obtain ⟨kept, hkept⟩ := r.exists_record kind fields
    rw [hkept]
    rfl
  | envelope root =>
    rw [r.envelope]
    rfl
  | handle take attributes =>
    obtain ⟨take', kept, hkept, -⟩ := r.handle take attributes
    rw [hkept]
    rfl
  | structured v =>
    rw [r.structured]
    rfl
  | _ => rw [r.atom _ rfl]

/-- A rewritten structured value has its layout. -/
theorem layout_tree (v : Structured) : (tree v).layout = v.layout := by
  cases v with
  | array items =>
    rw [r.array]
    rfl
  | object fields =>
    rw [r.object]
    rfl
  | foreign h =>
    rw [r.foreign]
    rfl
  | _ => rw [r.leaf _ rfl]

/-- A rewritten structured value has parts of its own if it had them. -/
theorem hasParts_tree (v : Structured) : (tree v).hasParts = v.hasParts := by
  cases v with
  | array items =>
    rw [r.array]
    rfl
  | object fields =>
    rw [r.object]
    rfl
  | foreign h =>
    rw [r.foreign]
    rfl
  | _ => rw [r.leaf _ rfl]

/-- A key without parts stays as it is. -/
theorem key_atom {h : Host} (ha : h.layout = .atom) : key h = h := by
  rcases r.keys with rfl | rfl
  · exact r.atom h ha
  · rfl

end Layout

section Same

/-- Rewritten runs are compared as they were. -/
theorem sameItems_map {items : List Host}
    (ih : ∀ h ∈ items, ∀ b : Host, same (value h) (value b) = same h b) (others : List Host) :
    sameItems (items.map value) (others.map value) = sameItems items others := by
  induction items generalizing others with
  | nil =>
    cases others with
    | nil => rfl
    | cons b bs => rw [List.map_nil, List.map_cons, sameItems.eq_def, sameItems.eq_def]
  | cons a as iha =>
    obtain ⟨ha, has⟩ := List.forall_mem_cons.mp ih
    cases others with
    | nil => rw [List.map_nil, List.map_cons, sameItems.eq_def, sameItems.eq_def]
    | cons b bs =>
      rw [List.map_cons, List.map_cons, sameItems.eq_def, sameItems.eq_def]
      dsimp only
      rw [ha, iha has]

/-- Rewritten members are found as they were. -/
theorem sameMembers_map {items : List Host}
    (ih : ∀ h ∈ items, ∀ b : Host, same (value h) (value b) = same h b) (others : List Host) :
    sameMembers (items.map value) (others.map value) = sameMembers items others := by
  induction items with
  | nil => rw [List.map_nil, sameMembers.eq_def, sameMembers.eq_def]
  | cons a as iha =>
    obtain ⟨ha, has⟩ := List.forall_mem_cons.mp ih
    rw [List.map_cons, sameMembers.eq_def, sameMembers.eq_def]
    dsimp only
    rw [iha has, List.any_map]
    simp only [Function.comp_def, ha]

/-- Rewritten arrays are compared as they were. -/
theorem sameStructuredItems_map {items : List Structured}
    (ih : ∀ v ∈ items, ∀ w : Structured, sameStructured (tree v) (tree w) = sameStructured v w)
    (others : List Structured) :
    sameStructuredItems (items.map tree) (others.map tree) = sameStructuredItems items others := by
  induction items generalizing others with
  | nil =>
    cases others with
    | nil => rfl
    | cons w ws =>
      rw [List.map_nil, List.map_cons, sameStructuredItems.eq_def, sameStructuredItems.eq_def]
  | cons v vs iha =>
    obtain ⟨hv, hvs⟩ := List.forall_mem_cons.mp ih
    cases others with
    | nil =>
      rw [List.map_nil, List.map_cons, sameStructuredItems.eq_def, sameStructuredItems.eq_def]
    | cons w ws =>
      rw [List.map_cons, List.map_cons, sameStructuredItems.eq_def, sameStructuredItems.eq_def]
      dsimp only
      rw [hv, iha hvs]

/-- Rewritten objects are compared as they were. -/
theorem sameStructuredFields_map {fields : List (String × Structured)}
    (ih : ∀ f ∈ fields, ∀ w : Structured,
      sameStructured (tree f.2) (tree w) = sameStructured f.2 w)
    (others : List (String × Structured)) :
    sameStructuredFields (fields.map fun f => (f.1, tree f.2))
        (others.map fun f => (f.1, tree f.2)) =
      sameStructuredFields fields others := by
  induction fields generalizing others with
  | nil =>
    cases others with
    | nil => rfl
    | cons g gs =>
      rw [List.map_nil, List.map_cons, sameStructuredFields.eq_def, sameStructuredFields.eq_def]
  | cons f fs iha =>
    obtain ⟨hf, hfs⟩ := List.forall_mem_cons.mp ih
    cases others with
    | nil =>
      rw [List.map_nil, List.map_cons, sameStructuredFields.eq_def, sameStructuredFields.eq_def]
    | cons g gs =>
      rw [List.map_cons, List.map_cons, sameStructuredFields.eq_def, sameStructuredFields.eq_def]
      dsimp only
      rw [hf, iha hfs]

variable (r : Rewriting value tree key)

include r

/-- Rewritten values of different layouts, or of a layout without equality, are compared as
they were. -/
theorem same_value_of_layout {a b : Host} (h : a.layout ≠ b.layout ∨ a.layout = .other) :
    same (value a) (value b) = same a b := by
  rw [same_of_layout h]
  refine same_of_layout ?_
  rw [r.layout_value, r.layout_value]
  exact h

/-- Rewritten structured values of different layouts are compared as they were. -/
theorem sameStructured_tree_of_layout {v w : Structured} (h : v.layout ≠ w.layout) :
    sameStructured (tree v) (tree w) = sameStructured v w := by
  rw [sameStructured_of_layout h]
  refine sameStructured_of_layout ?_
  rw [r.layout_tree, r.layout_tree]
  exact h

/-- The steps that show that rewritten values are compared as they were. -/
theorem same_steps :
    Steps (fun a => ∀ b : Host, same (value a) (value b) = same a b)
      (fun v => ∀ w : Structured, sameStructured (tree v) (tree w) = sameStructured v w) where
  atom a ha b := by
    by_cases hb : b.layout = .atom
    · rw [r.atom a ha, r.atom b hb]
    · exact r.same_value_of_layout (.inl fun h => hb (h.symm.trans ha))
  sequence kind items ih b := by
    by_cases hb : b.layout = .items
    · cases b with
      | sequence kind' others =>
        have hitems := sameItems_map ih others
        have hmembers := sameMembers_map ih others
        rw [r.sequence, r.sequence, same.eq_def, same.eq_def]
        cases kind <;> cases kind' <;>
          first
            | rfl
            | exact hitems
            | (dsimp only; rw [hmembers, List.length_map, List.length_map])
      | _ => cases hb
    · exact r.same_value_of_layout (.inl fun h => hb h.symm)
  mapping kind entries _ b := r.same_value_of_layout (.inr rfl)
  record kind fields _ b := r.same_value_of_layout (.inr rfl)
  envelope root _ b := r.same_value_of_layout (.inr rfl)
  handle t attributes _ b := r.same_value_of_layout (.inr rfl)
  structured v ih b := by
    by_cases hb : b.layout = .tree
    · cases b with
      | structured w =>
        have hv := ih w
        rw [r.structured, r.structured, same.eq_def, same.eq_def]
        exact hv
      | _ => cases hb
    · exact r.same_value_of_layout (.inl fun h => hb h.symm)
  leaf v hv w := by
    by_cases hw : w.layout = .atom
    · rw [r.leaf v hv, r.leaf w hw]
    · exact r.sameStructured_tree_of_layout fun h => hw (h.symm.trans hv)
  array items ih w := by
    by_cases hw : w.layout = .items
    · cases w with
      | array others =>
        rw [r.array, r.array, sameStructured.eq_def, sameStructured.eq_def]
        exact sameStructuredItems_map ih others
      | _ => cases hw
    · exact r.sameStructured_tree_of_layout fun h => hw h.symm
  object fields ih w := by
    by_cases hw : w.layout = .tree
    · cases w with
      | object others =>
        rw [r.object, r.object, sameStructured.eq_def, sameStructured.eq_def]
        exact sameStructuredFields_map ih others
      | _ => cases hw
    · exact r.sameStructured_tree_of_layout fun h => hw h.symm
  foreign h ih w := by
    by_cases hw : w.layout = .other
    · cases w with
      | foreign b =>
        rw [r.foreign, r.foreign, sameStructured.eq_def, sameStructured.eq_def]
        exact ih b
      | _ => cases hw
    · exact r.sameStructured_tree_of_layout fun h => hw h.symm

/-- Rewritten values are compared as they were. -/
theorem same_value (a b : Host) : same (value a) (value b) = same a b :=
  r.same_steps.value a b

/-- Rewritten keys are compared as they were. -/
theorem same_key (a b : Host) : same (key a) (key b) = same a b := by
  rcases r.keys with rfl | rfl
  · exact r.same_value a b
  · rfl

end Same

section Flattenable

/-- The fields of a record have the defect that they had before they were rewritten. -/
theorem flattenDefectFields?_map {fields : List (String × Host)}
    (ih : ∀ f ∈ fields, flattenDefect? (value f.2) = flattenDefect? f.2) :
    flattenDefectFields? (fields.map fun f => (f.1, value f.2)) = flattenDefectFields? fields := by
  rw [flattenDefectFields?_eq, flattenDefectFields?_eq]
  exact findSome?_map_of_mem ih

variable (r : Rewriting value tree key)

include r

/-- The steps that show that a rewritten value loses its hash if it did. -/
theorem losesHash_steps : Steps (fun h => losesHash (value h) = losesHash h) (fun _ => True) where
  atom h ha := by rw [r.atom h ha]
  sequence kind items ih := by
    have hitems : losesHashItems (items.map value) = losesHashItems items := by
      rw [losesHashItems_eq, losesHashItems_eq]
      exact any_map_of_mem ih
    rw [r.sequence]
    cases kind with
    | tuple => exact hitems
    | _ => rfl
  mapping kind entries _ := by
    rw [r.mapping]
    rfl
  record kind fields _ := by
    obtain ⟨kept, hkept⟩ := r.exists_record kind fields
    rw [hkept]
    rfl
  envelope root _ := by
    rw [r.envelope]
    rfl
  handle take attributes _ := by
    obtain ⟨take', kept, hkept, -⟩ := r.handle take attributes
    rw [hkept]
    rfl
  structured v _ := by
    rw [r.structured]
    exact r.hasParts_tree v
  leaf v _ := trivial
  array items _ := trivial
  object fields _ := trivial
  foreign h _ := trivial

/-- A rewritten value loses its hash if it did. -/
theorem losesHash_value (h : Host) : losesHash (value h) = losesHash h :=
  r.losesHash_steps.value h

/-- A rewritten key loses its hash if it did. -/
theorem losesHash_key (h : Host) : losesHash (key h) = losesHash h := by
  rcases r.keys with rfl | rfl
  · exact r.losesHash_value h
  · rfl

/-- The steps that show that what keeps a value from being flattened stays. -/
theorem flattenDefect?_steps : Steps (fun h => flattenDefect? (value h) = flattenDefect? h)
    (fun v => flattenDefectPart? (tree v) = flattenDefectPart? v) where
  atom h ha := by rw [r.atom h ha]
  sequence kind items ih := by
    have hitems : flattenDefectItems? (items.map value) = flattenDefectItems? items := by
      rw [flattenDefectItems?_eq, flattenDefectItems?_eq]
      exact findSome?_map_of_mem ih
    have hloses : losesHashItems (items.map value) = losesHashItems items := by
      rw [losesHashItems_eq, losesHashItems_eq]
      exact any_map_of_mem fun h _ => r.losesHash_value h
    rw [r.sequence]
    cases kind with
    | list => exact hitems
    | tuple => exact hitems
    | set => rw [flattenDefect?, flattenDefect?, hitems, hloses]
    | frozenSet => rw [flattenDefect?, flattenDefect?, hitems, hloses]
    | _ => rfl
  mapping kind entries ih := by
    have hentries : flattenDefectEntries? (entries.map fun e => (key e.1, value e.2)) =
        flattenDefectEntries? entries := by
      rw [flattenDefectEntries?_eq, flattenDefectEntries?_eq]
      refine findSome?_map_of_mem fun e he => ?_
      have hkey : flattenDefect? (key e.1) = flattenDefect? e.1 := by
        rcases r.keys with rfl | rfl
        · exact (ih e he).1
        · rfl
      unfold flattenDefectPair?
      rw [hkey, (ih e he).2, r.losesHash_key]
    rw [r.mapping, flattenDefect?, flattenDefect?, hentries]
  record kind fields ih := by
    cases hk : kind.isPlain with
    | false =>
      rw [r.fields kind fields hk]
      cases kind with
      | declared => exact flattenDefectFields?_map ih
      | model => exact flattenDefectFields?_map ih
      | object => cases hk
      | loose => cases hk
    | true =>
      obtain ⟨kept, hkept⟩ := r.exists_record kind fields
      rw [hkept]
      cases kind with
      | declared => cases hk
      | model => cases hk
      | object => rfl
      | loose => rfl
  envelope root ih := by
    rw [r.envelope]
    exact ih
  handle take attributes _ := by
    obtain ⟨take', kept, hkept, -⟩ := r.handle take attributes
    rw [hkept]
    rfl
  structured v ih := by
    rw [r.structured]
    exact ih
  leaf v hv := by rw [r.leaf v hv]
  array items ih := by
    rw [r.array, flattenDefectPart?, flattenDefectPart?, flattenDefectParts?_eq,
      flattenDefectParts?_eq]
    exact findSome?_map_of_mem ih
  object fields ih := by
    rw [r.object, flattenDefectPart?, flattenDefectPart?, flattenDefectPartFields?_eq,
      flattenDefectPartFields?_eq]
    exact findSome?_map_of_mem ih
  foreign h ih := by
    rw [r.foreign]
    exact ih

/-- What keeps a value from being flattened stays when it is rewritten. -/
theorem flattenDefect?_value (h : Host) : flattenDefect? (value h) = flattenDefect? h :=
  r.flattenDefect?_steps.value h

end Flattenable

section Flattened

variable (r : Rewriting value tree key)

include r

/-- A rewritten mapping from texts is the mapping of the rewritten values. -/
theorem value_object (fields : List (String × Host)) :
    value (Host.object fields) = Host.object (fields.map fun f => (f.1, value f.2)) := by
  unfold Host.object
  rw [r.mapping, List.map_map, List.map_map]
  refine congrArg (Host.mapping .plain) (List.map_congr_left fun f _ => ?_)
  exact Prod.ext (r.key_atom rfl) rfl

/-- A rewritten set of members is the set of the rewritten members. -/
theorem value_setOf (kind : SequenceKind) (members : List Host) :
    value (setOf kind members) = setOf kind (members.map value) := by
  unfold setOf
  rw [r.sequence, Assoc.distinct_map r.same_value]

/-- A rewritten mapping of entries is the mapping of the rewritten entries. -/
theorem value_mappingOf (kind : MappingKind) (entries : List (Host × Host)) :
    value (mappingOf kind entries) =
      mappingOf kind (entries.map fun e => (key e.1, value e.2)) := by
  unfold mappingOf
  rw [r.mapping, Assoc.ofList_map r.same_key]

/-- The steps that show that a value is flattened after it is rewritten as before. -/
theorem flattened_steps : Steps (fun h => flattened (value h) = value (flattened h))
    (fun v => flattenedParts (tree v) = value (flattenedParts v)) where
  atom h ha := by rw [r.atom h ha, r.atom _ (layout_flattened_atom ha)]
  sequence kind items ih := by
    have hitems : flattenedItems (items.map value) = (flattenedItems items).map value := by
      rw [flattenedItems_eq, flattenedItems_eq, List.map_map, List.map_map]
      exact List.map_congr_left ih
    rw [r.sequence]
    cases kind with
    | list => rw [flattened, flattened, r.sequence, hitems]
    | tuple => rw [flattened, flattened, r.sequence, hitems]
    | set => rw [flattened, flattened, r.value_setOf, hitems]
    | frozenSet => rw [flattened, flattened, r.value_setOf, hitems]
    | _ => simp only [flattened, r.sequence]
  mapping kind entries ih := by
    have hentries : flattenedEntries (entries.map fun e => (key e.1, value e.2)) =
        (flattenedEntries entries).map fun e => (key e.1, value e.2) := by
      rw [flattenedEntries_eq, flattenedEntries_eq, List.map_map, List.map_map]
      refine List.map_congr_left fun e he => Prod.ext ?_ (ih e he).2
      rcases r.keys with rfl | rfl
      · exact (ih e he).1
      · rfl
    rw [r.mapping, flattened, flattened, hentries]
    split
    · rw [r.value_mappingOf]
    · rw [r.mapping]
  record kind fields ih := by
    have hfields : flattenedFields (fields.map fun f => (f.1, value f.2)) =
        (flattenedFields fields).map fun f => (f.1, value f.2) := by
      rw [flattenedFields_eq, flattenedFields_eq, List.map_map, List.map_map]
      exact List.map_congr_left fun f hf => Prod.ext rfl (ih f hf)
    cases hk : kind.isPlain with
    | false =>
      rw [r.fields kind fields hk]
      cases kind with
      | declared => rw [flattened, flattened, r.value_object, hfields]
      | model => rw [flattened, flattened, r.value_object, hfields]
      | object => cases hk
      | loose => cases hk
    | true =>
      obtain ⟨kept, hkept⟩ := r.exists_record kind fields
      cases kind with
      | declared => cases hk
      | model => cases hk
      | object => simp only [flattened, hkept]
      | loose => simp only [flattened, hkept]
  envelope root ih := by rw [r.envelope, flattened, flattened, ih]
  handle take attributes _ := by
    obtain ⟨take', kept, hkept, -⟩ := r.handle take attributes
    simp only [flattened, hkept]
  structured v ih := by rw [r.structured, flattened, flattened, ih]
  leaf v hv := by
    rw [r.leaf v hv]
    cases v with
    | array items => cases hv
    | object fields => cases hv
    | foreign h => cases hv
    | shapeless => rw [flattenedParts, r.structured, r.leaf _ rfl]
    | null => rw [flattenedParts, r.value_object, List.map_nil]
    | _ => rw [flattenedParts, r.value_object, List.map_singleton, r.atom _ rfl]
  array items ih := by
    have hitems : flattenedPartItems (items.map tree) = (flattenedPartItems items).map value := by
      rw [flattenedPartItems_eq, flattenedPartItems_eq, List.map_map, List.map_map]
      exact List.map_congr_left ih
    rw [r.array, flattenedParts, flattenedParts, r.value_object, hitems, List.map_singleton,
      r.sequence]
  object fields ih := by
    have hfields : flattenedPartFields (fields.map fun f => (f.1, tree f.2)) =
        (flattenedPartFields fields).map value := by
      rw [flattenedPartFields_eq, flattenedPartFields_eq, List.map_map, List.map_map]
      refine List.map_congr_left fun f hf => ?_
      dsimp only [Function.comp]
      rw [r.sequence, List.map_cons, List.map_singleton, r.atom _ rfl, ih f hf]
    rw [r.object, flattenedParts, flattenedParts, r.value_object, hfields, List.map_singleton,
      r.sequence]
  foreign h ih := by rw [r.foreign, flattenedParts, flattenedParts, ih]

/-- A value is flattened after it is rewritten as before. -/
theorem flattened_value (h : Host) : flattened (value h) = value (flattened h) :=
  r.flattened_steps.value h

/-- A key is flattened after it is rewritten as before. -/
theorem flattened_key (h : Host) : flattened (key h) = key (flattened h) := by
  rcases r.keys with rfl | rfl
  · exact r.flattened_value h
  · rfl

end Flattened

end Rewriting

end Host

end LiveSession
