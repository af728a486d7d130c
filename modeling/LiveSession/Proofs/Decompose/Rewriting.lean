import LiveSession.Proofs.Host.Rewriting
import LiveSession.Proofs.Traversal

/-!
# Decomposition of rewritten values

Decomposition goes through the parts of a value one by one. So where a value is rewritten
inside, the same defect is reported as before, or the structured value that came out before
comes out rewritten.
-/

namespace LiveSession

/-- Distinct keys stay so when the values are mapped. -/
theorem distinctKeys_map {β γ : Type} (k : β → γ) (fields : List (String × β)) :
    distinctKeys (fields.map fun f => (f.1, k f.2)) = distinctKeys fields := by
  induction fields with
  | nil => rfl
  | cons f rest ih =>
    rw [List.map_cons, distinctKeys, distinctKeys, ih, List.any_map]
    rfl

namespace Host

/-- What comes of a value under a key is what comes of the value, if the key has a
text. -/
theorem underKey_eq_ok_iff {α : Type} {key : Host} {result : Except DecomposeError α} {a : α} :
    underKey key result = .ok a ↔ key.oversizedText = false ∧ result = .ok a := by
  unfold underKey
  cases key.oversizedText with
  | false => exact (and_iff_right rfl).symm
  | true => exact iff_of_false nofun nofun

/-- A value under a key comes to nothing if the key has no text, or as the value does. -/
theorem underKey_eq_error_iff {α : Type} {key : Host} {result : Except DecomposeError α}
    {e : DecomposeError} :
    underKey key result = .error e ↔
      key.oversizedText = true ∧ e = .oversized ∨
        key.oversizedText = false ∧ result = .error e := by
  unfold underKey
  cases key.oversizedText with
  | false =>
    rw [if_neg Bool.false_ne_true, and_iff_right rfl]
    exact (or_iff_right fun h => Bool.false_ne_true h.1).symm
  | true =>
    rw [if_pos rfl, Except.error.injEq, and_iff_right rfl, eq_comm]
    exact (or_iff_left fun h => Bool.false_ne_true h.1.symm).symm

section Runs

/-- The elements of a sequence are decomposed one by one. -/
theorem decomposeItems_eq (flat : Bool) (items : List Host) :
    decomposeItems flat items = items.mapM (decomposeIn flat) := by
  refine eq_mapM_of_run (by rw [decomposeItems]) (fun h rest => ?_) items
  rw [decomposeItems]
  cases decomposeIn flat h with
  | error err => rfl
  | ok v => cases decomposeItems flat rest <;> rfl

/-- The values of a mapping are decomposed one by one. -/
theorem decomposeEntries_eq (flat : Bool) (entries : List (Host × Host)) :
    decomposeEntries flat entries = entries.map fun e => (e.1, decomposeIn flat e.2) := by
  induction entries with
  | nil => rw [decomposeEntries, List.map_nil]
  | cons e rest ih => rw [decomposeEntries, List.map_cons, ih]

/-- The fields of a record are decomposed one by one. -/
theorem decomposeFields_eq (flat : Bool) (fields : List (String × Host)) :
    decomposeFields flat fields =
      fields.mapM fun f => (decomposeIn flat f.2).map fun v => (f.1, v) := by
  refine eq_mapM_of_run (by rw [decomposeFields]) (fun f rest => ?_) fields
  rw [decomposeFields]
  cases decomposeIn flat f.2 with
  | error err => rfl
  | ok v => cases decomposeFields flat rest <;> rfl

/-- Of a plain object only the public attributes are decomposed. -/
theorem decomposePublic_eq (attributes : List (String × Host)) :
    decomposePublic attributes =
      decomposeFields false (attributes.filter fun f => isPublic f.1) := by
  induction attributes with
  | nil => rw [decomposePublic, List.filter_nil, decomposeFields]
  | cons f rest ih =>
    rw [decomposePublic, List.filter_cons, ih]
    by_cases hp : isPublic f.1 = true
    · rw [if_pos hp, if_pos hp, decomposeFields]
    · rw [if_neg hp, if_neg hp]

/-- The items of an array of parts are decomposed one by one. -/
theorem decomposePartItems_eq (items : List Structured) :
    decomposePartItems items = items.mapM decomposeParts := by
  refine eq_mapM_of_run (by rw [decomposePartItems]) (fun v rest => ?_) items
  rw [decomposePartItems]
  cases decomposeParts v with
  | error err => rfl
  | ok u => cases decomposePartItems rest <;> rfl

/-- The fields of an object of parts are decomposed one by one, each with its name. -/
theorem decomposePartFields_eq (fields : List (String × Structured)) :
    decomposePartFields fields =
      fields.mapM fun f =>
        (decomposeParts f.2).map fun u => Structured.array [.string f.1, u] := by
  refine eq_mapM_of_run (by rw [decomposePartFields]) (fun f rest => ?_) fields
  rw [decomposePartFields]
  cases decomposeParts f.2 with
  | error err => rfl
  | ok u => cases decomposePartFields rest <;> rfl

end Runs

namespace Rewriting

variable {value : Host → Host} {tree : Structured → Structured} {key : Host → Host}

section Objects

variable (r : Rewriting value tree key)

include r

/-- What comes of a value under a rewritten key comes of it under the key. -/
theorem underKey_key {α β : Type} (k : α → β) (h : Host) (result : Except DecomposeError α) :
    underKey (key h) (result.map k) = (underKey h result).map k := by
  unfold underKey
  rw [r.oversized]
  split <;> rfl

/-- The keys of a rewritten mapping are the same texts, whatever the values are mapped
to. -/
theorem keyTexts_map {α β : Type} (k : α → β) (flat : Bool)
    (entries : List (Host × Except DecomposeError α)) :
    keyTexts flat (entries.map fun e => (key e.1, e.2.map k)) =
      (keyTexts flat entries).map fun f => (f.1, f.2.map k) := by
  have htext : ∀ entries : List (Host × Except DecomposeError α),
      (entries.map fun e => (key e.1, e.2.map k)).map
          (fun e => (e.1.text, underKey e.1 e.2)) =
        (entries.map fun e => (e.1.text, underKey e.1 e.2)).map fun f => (f.1, f.2.map k) := by
    intro entries
    rw [List.map_map, List.map_map]
    exact List.map_congr_left fun e _ => Prod.ext (r.texts e.1) (r.underKey_key k e.1 e.2)
  have hflat : (entries.map fun e => (key e.1, e.2.map k)).map (fun e => (e.1.flattened, e.2)) =
      (entries.map fun e => (e.1.flattened, e.2)).map fun e => (key e.1, e.2.map k) := by
    rw [List.map_map, List.map_map]
    exact List.map_congr_left fun e _ => Prod.ext (r.flattened_key e.1) rfl
  unfold keyTexts
  cases flat with
  | false => exact htext entries
  | true =>
    dsimp only
    rw [if_pos rfl, if_pos rfl, hflat,
      Assoc.ofList_map (k := fun result : Except DecomposeError α => result.map k) r.same_key,
      htext]

/-- An object of rewritten fields is the rewritten object. -/
theorem object?_map (fields : List (String × Structured)) :
    Structured.object? (fields.map fun f => (f.1, tree f.2)) =
      (Structured.object? fields).map tree := by
  unfold Structured.object?
  rw [distinctKeys_map]
  by_cases hd : distinctKeys fields = true
  · rw [if_pos hd, if_pos hd, Except.map, r.object]
  · rw [if_neg hd, if_neg hd, Except.map]

/-- An object of rewritten results is the rewritten object. -/
theorem objectOf?_map (fields : List (String × Except DecomposeError Structured)) :
    Structured.objectOf? (fields.map fun f => (f.1, f.2.map tree)) =
      (Structured.objectOf? fields).map tree := by
  unfold Structured.objectOf?
  rw [mapM_map (f := fun f => f.2.map fun v => (f.1, v))
    (k := fun f : String × Structured => (f.1, tree f.2)) ?_]
  · cases fields.mapM fun f => f.2.map fun v => (f.1, v) with
    | error e => rfl
    | ok fs => exact r.object?_map fs
  · intro f _
    obtain ⟨name, result⟩ := f
    cases result <;> rfl

/-- What rewritten fields are made into is the rewritten object. -/
theorem object?_map_result (fields : Except DecomposeError (List (String × Structured))) :
    (match fields.map (List.map fun f => (f.1, tree f.2)) with
      | .ok fs => Structured.object? fs
      | .error e => .error e) =
    Except.map tree
      (match fields with
        | .ok fs => Structured.object? fs
        | .error e => .error e) := by
  cases fields with
  | error e => rfl
  | ok fs => exact r.object?_map fs

/-- An array of rewritten values is the rewritten array. -/
theorem array_map_result (items : Except DecomposeError (List Structured)) :
    (match items.map (List.map tree) with
      | .ok vs => .ok (.array vs)
      | .error e => .error e) =
    Except.map tree
      (match items with
        | .ok vs => .ok (.array vs)
        | .error e => .error e) := by
  cases items with
  | error e => rfl
  | ok vs => exact congrArg Except.ok (r.array vs).symm

/-- An array of rewritten values in a field is the rewritten array in the field. -/
theorem field_map_result (name : String) (items : Except DecomposeError (List Structured)) :
    (match items.map (List.map tree) with
      | .ok vs => .ok (.object [(name, .array vs)])
      | .error e => .error e) =
    Except.map tree
      (match items with
        | .ok vs => .ok (.object [(name, .array vs)])
        | .error e => .error e) := by
  cases items with
  | error e => rfl
  | ok vs => simp only [Except.map, r.object, r.array, List.map_cons, List.map_nil]

end Objects

section Runs

/-- Rewritten elements are decomposed into the rewritten values. -/
theorem decomposeItems_map {flat : Bool} {items : List Host}
    (ih : ∀ h ∈ items, ∀ flat, decomposeIn flat (value h) = (decomposeIn flat h).map tree) :
    decomposeItems flat (items.map value) = (decomposeItems flat items).map (List.map tree) := by
  rw [decomposeItems_eq, decomposeItems_eq]
  exact mapM_map fun h hh => ih h hh flat

/-- The values of rewritten entries are decomposed into the rewritten values. -/
theorem decomposeEntries_map {flat : Bool} {entries : List (Host × Host)}
    (ih : ∀ e ∈ entries, ∀ flat,
      decomposeIn flat (value e.2) = (decomposeIn flat e.2).map tree) :
    decomposeEntries flat (entries.map fun e => (key e.1, value e.2)) =
      (decomposeEntries flat entries).map fun e => (key e.1, e.2.map tree) := by
  rw [decomposeEntries_eq, decomposeEntries_eq, List.map_map, List.map_map]
  exact List.map_congr_left fun e he => Prod.ext rfl (ih e he flat)

/-- Rewritten fields are decomposed into the rewritten values. -/
theorem decomposeFields_map {flat : Bool} {fields : List (String × Host)}
    (ih : ∀ f ∈ fields, ∀ flat,
      decomposeIn flat (value f.2) = (decomposeIn flat f.2).map tree) :
    decomposeFields flat (fields.map fun f => (f.1, value f.2)) =
      (decomposeFields flat fields).map (List.map fun f => (f.1, tree f.2)) := by
  rw [decomposeFields_eq, decomposeFields_eq]
  refine mapM_map fun f hf => ?_
  dsimp only
  rw [ih f hf]
  cases decomposeIn flat f.2 with
  | error e => rfl
  | ok v => rfl

/-- The parts of rewritten items are decomposed into the rewritten parts. -/
theorem decomposePartItems_map {items : List Structured}
    (ih : ∀ v ∈ items, decomposeParts (tree v) = (decomposeParts v).map tree) :
    decomposePartItems (items.map tree) = (decomposePartItems items).map (List.map tree) := by
  rw [decomposePartItems_eq, decomposePartItems_eq]
  exact mapM_map ih

/-- The public attributes of a rewritten plain object are decomposed into the rewritten
values. -/
theorem decomposePublic_map {kept attributes : List (String × Host)}
    (hpublic : (kept.filter fun f => isPublic f.1) =
      (attributes.filter fun f => isPublic f.1).map fun f => (f.1, value f.2))
    (ih : ∀ f ∈ attributes, ∀ flat,
      decomposeIn flat (value f.2) = (decomposeIn flat f.2).map tree) :
    decomposePublic kept =
      (decomposePublic attributes).map (List.map fun f => (f.1, tree f.2)) := by
  rw [decomposePublic_eq, decomposePublic_eq, hpublic]
  exact decomposeFields_map fun f hf => ih f (List.mem_filter.mp hf).1

variable (r : Rewriting value tree key)

include r

/-- Rewritten members are decomposed into the rewritten values, and the same are left. -/
theorem decomposeMembers_map {items : List Host}
    (ih : ∀ h ∈ items, ∀ flat, decomposeIn flat (value h) = (decomposeIn flat h).map tree)
    (seen : List Host) :
    decomposeMembers (seen.map value) (items.map value) =
      (decomposeMembers seen items).map (List.map tree) := by
  induction items generalizing seen with
  | nil =>
    rw [List.map_nil, decomposeMembers, decomposeMembers]
    rfl
  | cons h rest ihr =>
    obtain ⟨hh, hrest⟩ := List.forall_mem_cons.mp ih
    have hany : (seen.map value).any (same · (value h).flattened) =
        seen.any (same · h.flattened) := by
      rw [List.any_map, r.flattened_value]
      simp only [Function.comp_def, r.same_value]
    have hnext := ihr hrest (seen ++ [h.flattened])
    rw [List.map_append, List.map_singleton, ← r.flattened_value] at hnext
    rw [List.map_cons, decomposeMembers, decomposeMembers, hany, hh true, hnext]
    split
    · exact ihr hrest seen
    · cases decomposeIn true h with
      | error e => rfl
      | ok v => cases decomposeMembers (seen ++ [h.flattened]) rest <;> rfl

/-- The parts of rewritten fields are decomposed into the rewritten parts. -/
theorem decomposePartFields_map {fields : List (String × Structured)}
    (ih : ∀ f ∈ fields, decomposeParts (tree f.2) = (decomposeParts f.2).map tree) :
    decomposePartFields (fields.map fun f => (f.1, tree f.2)) =
      (decomposePartFields fields).map (List.map tree) := by
  rw [decomposePartFields_eq, decomposePartFields_eq]
  refine mapM_map fun f hf => ?_
  dsimp only
  rw [ih f hf]
  cases decomposeParts f.2 with
  | error err => rfl
  | ok u =>
    have hname : tree (.string f.1) = .string f.1 := r.leaf _ rfl
    simp only [Except.map, r.array, List.map_cons, List.map_nil, hname]

end Runs

section Decompose

variable (r : Rewriting value tree key)

include r

/-- A value without parts decomposes to one that is not rewritten. -/
theorem decomposeIn_atom {h : Host} (ha : h.layout = .atom) (flat : Bool) :
    (decomposeIn flat h).map tree = decomposeIn flat h := by
  have hempty : tree (.object []) = .object [] := by rw [r.object, List.map_nil]
  have hleaf : ∀ {v : Structured}, v.layout = .atom →
      (Except.ok v : Except DecomposeError Structured).map tree = .ok v :=
    fun hv => congrArg Except.ok (r.leaf _ hv)
  cases h with
  | range start stop step =>
    rw [decomposeIn, Except.map, r.array, List.map_map]
    refine congrArg (fun items => Except.ok (Structured.array items)) ?_
    exact List.map_congr_left fun i _ => r.leaf _ rfl
  | constant kind name =>
    rw [decomposeIn]
    exact congrArg Except.ok hempty
  | fraction q =>
    rw [decomposeIn]
    cases flat with
    | false => rfl
    | true => exact hleaf rfl
  | entity o =>
    rw [decomposeIn, decomposeEntity]
    cases o.kind with
    | shell => exact congrArg Except.ok hempty
    | _ => rfl
  | sequence kind items => cases ha
  | mapping kind entries => cases ha
  | record kind fields => cases ha
  | envelope root => cases ha
  | handle t attributes => cases ha
  | structured v => cases ha
  | _ =>
    rw [decomposeIn]
    first
      | rfl
      | exact hleaf rfl

/-- The parts of a structured value without parts are not rewritten. -/
theorem decomposeParts_leaf {v : Structured} (hv : v.layout = .atom) :
    (decomposeParts v).map tree = decomposeParts v := by
  cases v with
  | array items => cases hv
  | object fields => cases hv
  | foreign h => cases hv
  | null => rw [decomposeParts, Except.map, r.object, List.map_nil]
  | shapeless => rw [decomposeParts, Except.map, r.leaf _ rfl]
  | _ =>
    simp only [decomposeParts, Except.map, r.object, List.map_cons, List.map_nil, r.leaf _ hv]

/-- The steps that show that a rewritten value is decomposed into the rewritten value. -/
theorem decompose_steps :
    Steps (fun h => ∀ flat, decomposeIn flat (value h) = (decomposeIn flat h).map tree)
      (fun v => decomposeParts (tree v) = (decomposeParts v).map tree) where
  atom h ha flat := by rw [r.atom h ha, r.decomposeIn_atom ha]
  sequence kind items ih flat := by
    rw [r.sequence]
    cases kind with
    | wrapped =>
      rw [decomposeIn, decomposeIn, decomposeItems_map ih]
      exact r.field_map_result "data" _
    | deque =>
      rw [decomposeIn.eq_def, decomposeIn.eq_def]
      rfl
    | array =>
      rw [decomposeIn.eq_def, decomposeIn.eq_def]
      rfl
    | _ =>
      rw [decomposeIn.eq_def, decomposeIn.eq_def]
      dsimp only
      have hmembers := r.decomposeMembers_map ih []
      rw [List.map_nil] at hmembers
      rw [decomposeItems_map ih, hmembers, ← apply_ite (Except.map (List.map tree))]
      exact r.array_map_result _
  mapping kind entries ih flat := by
    rw [r.mapping, decomposeIn, decomposeIn, decomposeEntries_map fun e he => (ih e he).2,
      r.keyTexts_map, r.objectOf?_map]
  record kind fields ih flat := by
    cases hk : kind.isPlain with
    | false =>
      rw [r.fields kind fields hk]
      cases kind with
      | declared =>
        rw [decomposeIn, decomposeIn, decomposeFields_map ih]
        exact r.object?_map_result _
      | model =>
        rw [decomposeIn, decomposeIn,
          flattenDefectFields?_map fun f _ => r.flattenDefect?_value f.2,
          decomposeFields_map ih]
        split
        · rfl
        · exact r.object?_map_result _
      | object => cases hk
      | loose => cases hk
    | true =>
      obtain ⟨kept, hkept, hpublic⟩ := r.attributes kind fields hk
      rw [hkept]
      cases kind with
      | declared => cases hk
      | model => cases hk
      | object =>
        rw [decomposeIn, decomposeIn, decomposePublic_map hpublic ih]
        exact r.object?_map_result _
      | loose =>
        rw [decomposeIn, decomposeIn, decomposePublic_map hpublic ih]
        exact r.object?_map_result _
  envelope root ih flat := by
    rw [r.envelope, decomposeIn, decomposeIn, r.flattenDefect?_value]
    split
    · rfl
    · exact ih true
  handle take attributes ih flat := by
    obtain ⟨take', kept, hkept, hpublic⟩ := r.handle take attributes
    rw [hkept, decomposeIn, decomposeIn, decomposePublic_map hpublic ih]
    exact r.object?_map_result _
  structured v ih flat := by
    rw [r.structured, decomposeIn, decomposeIn]
    cases flat with
    | false => rfl
    | true => exact ih
  leaf v hv := by rw [r.leaf v hv, r.decomposeParts_leaf hv]
  array items ih := by
    rw [r.array, decomposeParts, decomposeParts, decomposePartItems_map ih]
    exact r.field_map_result "items" _
  object fields ih := by
    rw [r.object, decomposeParts, decomposeParts, r.decomposePartFields_map ih]
    exact r.field_map_result "fields" _
  foreign h ih := by
    rw [r.foreign, decomposeParts, decomposeParts]
    exact ih true

/-- A rewritten value is decomposed into the rewritten value, or fails as it did. -/
theorem decompose_value (h : Host) : (value h).decompose = h.decompose.map tree :=
  r.decompose_steps.value h false

end Decompose

end Rewriting

end Host

end LiveSession
