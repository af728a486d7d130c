import LiveSession.Proofs.Assoc.Distinct
import LiveSession.Proofs.Decompose.Rewriting

/-!
# Decomposition layer by layer

What a value decomposes to is made of what its parts decompose to: an array of the
elements of a run, an object of the values of a mapping or of the fields of a record.
Inside a model a value decomposes as what flattening puts in its place, so a model is
decomposed as the mapping that it is flattened to.
-/

namespace LiveSession

namespace Structured

variable {us : List (String × Structured)}

/-- There is an object with fields if and only if no key is repeated. -/
theorem object?_eq_ok_iff {v : Structured} :
    object? us = .ok v ↔ (Assoc.keys us).Nodup ∧ v = .object us := by
  rw [← distinctKeys_iff]
  unfold object?
  split
  · next hd =>
    rw [Except.ok.injEq, eq_comm]
    exact (and_iff_right hd).symm
  · next hd =>
    constructor
    · intro h
      cases h
    · exact fun h => absurd h.1 hd

/-- There is no object with fields if and only if a key is repeated. -/
theorem object?_eq_error_iff {e : DecomposeError} :
    object? us = .error e ↔ ¬ (Assoc.keys us).Nodup ∧ e = .repeatedKey := by
  rw [← distinctKeys_iff]
  unfold object?
  split
  · next hd =>
    constructor
    · intro h
      cases h
    · exact fun h => absurd hd h.1
  · next hd =>
    rw [Except.error.injEq, eq_comm]
    exact (and_iff_right hd).symm

variable {fields : List (String × Except DecomposeError Structured)}

/-- Named results come to named values one by one. -/
theorem mapM_named_eq_ok_iff :
    (fields.mapM fun f => f.2.map fun v => (f.1, v)) = .ok us ↔
      List.Forall₂ (fun f u => f.1 = u.1 ∧ f.2 = .ok u.2) fields us := by
  have hnamed : ∀ (f : String × Except DecomposeError Structured) (u : String × Structured),
      (f.2.map fun v => (f.1, v)) = .ok u ↔ f.1 = u.1 ∧ f.2 = .ok u.2 := by
    intro f u
    rw [map_eq_ok_iff]
    constructor
    · rintro ⟨v, hv, rfl⟩
      exact ⟨rfl, hv⟩
    · rintro ⟨hname, hv⟩
      exact ⟨u.2, hv, Prod.ext hname.symm rfl⟩
  rw [mapM_eq_ok_iff]
  simp only [hnamed]

/-- Named values have the names of the results. -/
theorem keys_of_named (h : List.Forall₂ (fun f u => f.1 = u.1 ∧ f.2 = .ok u.2) fields us) :
    Assoc.keys us = Assoc.keys fields := by
  induction h with
  | nil => rfl
  | cons hu _ ih => exact congrArg₂ List.cons hu.1.symm ih

/-- There is an object of results if and only if there is each of them and no name is
repeated: it has the values in their places. -/
theorem objectOf?_eq_ok_iff {v : Structured} :
    objectOf? fields = .ok v ↔ (Assoc.keys fields).Nodup ∧
      ∃ us, v = .object us ∧
        List.Forall₂ (fun f u => f.1 = u.1 ∧ f.2 = .ok u.2) fields us := by
  unfold objectOf?
  constructor
  · intro h
    split at h
    · next us hus =>
      have hnamed := mapM_named_eq_ok_iff.mp hus
      rw [object?_eq_ok_iff, keys_of_named hnamed] at h
      exact ⟨h.1, us, h.2, hnamed⟩
    · cases h
  · rintro ⟨hd, us, rfl, hnamed⟩
    rw [mapM_named_eq_ok_iff.mpr hnamed]
    exact object?_eq_ok_iff.mpr ⟨keys_of_named hnamed ▸ hd, rfl⟩

/-- Results under distinct names come to an object. -/
theorem objectOf?_isOk_iff : (∃ v, objectOf? fields = .ok v) ↔
    (Assoc.keys fields).Nodup ∧ ∀ f ∈ fields, ∃ v, f.2 = .ok v := by
  constructor
  · rintro ⟨v, hv⟩
    obtain ⟨hd, us, -, hnamed⟩ := objectOf?_eq_ok_iff.mp hv
    refine ⟨hd, fun f hf => ?_⟩
    obtain ⟨u, -, hu⟩ := ok_of_mapM (mapM_named_eq_ok_iff.mpr hnamed) f hf
    obtain ⟨w, hw, -⟩ := map_eq_ok_iff.mp hu
    exact ⟨w, hw⟩
  · rintro ⟨hd, hall⟩
    have hresults : ∀ f ∈ fields, ∃ u, (f.2.map fun v => (f.1, v)) = .ok u := by
      intro f hf
      obtain ⟨v, hv⟩ := hall f hf
      exact ⟨(f.1, v), map_eq_ok_iff.mpr ⟨v, hv, rfl⟩⟩
    obtain ⟨us, hus⟩ := mapM_of_forall hresults
    exact ⟨.object us, objectOf?_eq_ok_iff.mpr ⟨hd, us, rfl, mapM_named_eq_ok_iff.mp hus⟩⟩

/-- There is no object of results where one of them is missing, the first one in order, or
where all are there and a name is repeated. -/
theorem objectOf?_eq_error_iff {e : DecomposeError} :
    objectOf? fields = .error e ↔
      (∃ before f after, fields = before ++ f :: after ∧
        (∀ g ∈ before, ∃ v, g.2 = .ok v) ∧ f.2 = .error e) ∨
      (∀ f ∈ fields, ∃ v, f.2 = .ok v) ∧ ¬ (Assoc.keys fields).Nodup ∧ e = .repeatedKey := by
  have hok : ∀ f : String × Except DecomposeError Structured,
      (∃ u, (f.2.map fun v => (f.1, v)) = .ok u) ↔ ∃ v, f.2 = .ok v := by
    intro f
    simp only [map_eq_ok_iff]
    exact ⟨fun ⟨_, v, hv, _⟩ => ⟨v, hv⟩, fun ⟨v, hv⟩ => ⟨_, v, hv, rfl⟩⟩
  have hrun : ∀ {err : DecomposeError},
      (fields.mapM fun f => f.2.map fun v => (f.1, v)) = .error err ↔
        ∃ before f after, fields = before ++ f :: after ∧
          (∀ g ∈ before, ∃ v, g.2 = .ok v) ∧ f.2 = .error err := by
    intro err
    rw [mapM_eq_error_iff]
    simp only [hok, map_eq_error_iff]
  rw [← hrun]
  unfold objectOf?
  cases hfields : fields.mapM fun f => f.2.map fun v => (f.1, v) with
  | error err =>
    dsimp only
    rw [Except.error.injEq, Except.error.injEq]
    refine ⟨.inl, fun h => h.resolve_right ?_⟩
    rintro ⟨hall, -⟩
    obtain ⟨us, hus⟩ := mapM_of_forall fun f hf => (hok f).mpr (hall f hf)
    cases hfields.symm.trans hus
  | ok us =>
    have hall : ∀ f ∈ fields, ∃ v, f.2 = .ok v := by
      intro f hf
      obtain ⟨u, -, hu⟩ := ok_of_mapM hfields f hf
      exact (hok f).mp ⟨u, hu⟩
    dsimp only
    rw [object?_eq_error_iff, keys_of_named (mapM_named_eq_ok_iff.mp hfields)]
    constructor
    · exact fun h => .inr ⟨hall, h⟩
    · rintro (h | ⟨-, h⟩)
      · cases h
      · exact h

end Structured

namespace Host

section Fields

/-- The object of what the values of fields decompose to, each on its own. -/
def decomposeEach (fields : List (String × Host)) : Except DecomposeError Structured :=
  Structured.objectOf? (fields.map fun f => (f.1, f.2.decompose))

variable {fields : List (String × Host)} {us : List (String × Structured)}

/-- Decomposed fields have the names of the fields. -/
theorem keys_map_decompose (fields : List (String × Host)) :
    Assoc.keys (fields.map fun f => (f.1, f.2.decompose)) = Assoc.keys fields :=
  List.map_map

/-- There is an object of fields if and only if each of their values decomposes and no
name is repeated: it has what the values decompose to in their places. -/
theorem decomposeEach_eq_ok_iff {v : Structured} :
    decomposeEach fields = .ok v ↔ (Assoc.keys fields).Nodup ∧
      ∃ us, v = .object us ∧
        List.Forall₂ (fun f u => f.1 = u.1 ∧ f.2.decompose = .ok u.2) fields us := by
  unfold decomposeEach
  rw [Structured.objectOf?_eq_ok_iff, keys_map_decompose]
  simp only [List.forall₂_map_left_iff]

/-- What fields decompose to has their names. -/
theorem keys_of_decomposed
    (h : List.Forall₂ (fun f u => f.1 = u.1 ∧ f.2.decompose = .ok u.2) fields us) :
    Assoc.keys us = Assoc.keys fields := by
  rw [← keys_map_decompose fields]
  exact Structured.keys_of_named (List.forall₂_map_left_iff.mpr h)

/-- There is no object of fields where the value of one has a defect, the first one in
order, or where all the values decompose and a name is repeated. -/
theorem decomposeEach_eq_error_iff {e : DecomposeError} :
    decomposeEach fields = .error e ↔
      (∃ before f after, fields = before ++ f :: after ∧
        (∀ g ∈ before, ∃ v, g.2.decompose = .ok v) ∧ f.2.decompose = .error e) ∨
      (∀ f ∈ fields, ∃ v, f.2.decompose = .ok v) ∧ ¬ (Assoc.keys fields).Nodup ∧
        e = .repeatedKey := by
  unfold decomposeEach
  rw [Structured.objectOf?_eq_error_iff, exists_split_map, List.forall_mem_map,
    keys_map_decompose]

/-- Fields whose values are mapped to values that decompose as they do come to the same. -/
theorem decomposeEach_map {fields : List (String × Host)} {g : Host → Host}
    (h : ∀ f ∈ fields, (g f.2).decompose = f.2.decompose) :
    decomposeEach (fields.map fun f => (f.1, g f.2)) = decomposeEach fields := by
  unfold decomposeEach
  rw [List.map_map]
  exact congrArg Structured.objectOf? (List.map_congr_left fun f hf => Prod.ext rfl (h f hf))

/-- Decomposed fields are made into an object as the results that there are for them. -/
theorem objectOf?_of_decomposeFields (flat : Bool) (fields : List (String × Host)) :
    (match decomposeFields flat fields with
      | .ok fs => Structured.object? fs
      | .error e => .error e) =
      Structured.objectOf? (fields.map fun f => (f.1, decomposeIn flat f.2)) := by
  have hmap : (fields.map fun f => (f.1, decomposeIn flat f.2)).mapM
      (fun f : String × Except DecomposeError Structured => f.2.map fun v => (f.1, v)) =
        fields.mapM fun f => (decomposeIn flat f.2).map fun v => (f.1, v) :=
    mapM_map_of_eq fun f _ => rfl
  exact congrArg (fun results : Except DecomposeError (List (String × Structured)) =>
    match results with
    | .ok fs => Structured.object? fs
    | .error e => .error e) ((decomposeFields_eq flat fields).trans hmap.symm)

end Fields

section Entries

variable {entries : List (Host × Host)}

/-- The object of what the values of entries decompose to, under the texts of their
keys. -/
def decomposeUnder (entries : List (Host × Host)) : Except DecomposeError Structured :=
  Structured.objectOf? (entries.map fun e => (e.1.text, underKey e.1 e.2.decompose))

/-- Decomposed entries are named by the texts of their keys. -/
theorem keys_map_underKey (entries : List (Host × Host)) :
    Assoc.keys (entries.map fun e => (e.1.text, underKey e.1 e.2.decompose)) =
      entries.map fun e => e.1.text :=
  List.map_map

/-- There is an object of entries if and only if each of their keys has a text, no two the
same, and each of their values decomposes. -/
theorem decomposeUnder_eq_ok_iff {v : Structured} :
    decomposeUnder entries = .ok v ↔ (entries.map fun e => e.1.text).Nodup ∧
      ∃ us, v = .object us ∧ List.Forall₂ (fun e u =>
        e.1.text = u.1 ∧ e.1.oversizedText = false ∧ e.2.decompose = .ok u.2) entries us := by
  unfold decomposeUnder
  rw [Structured.objectOf?_eq_ok_iff, keys_map_underKey]
  simp only [List.forall₂_map_left_iff, underKey_eq_ok_iff]

/-- Entries under distinct texts whose values decompose come to an object. -/
theorem decomposeUnder_isOk_iff : (∃ v, decomposeUnder entries = .ok v) ↔
    (entries.map fun e => e.1.text).Nodup ∧
      ∀ e ∈ entries, e.1.oversizedText = false ∧ ∃ v, e.2.decompose = .ok v := by
  unfold decomposeUnder
  rw [Structured.objectOf?_isOk_iff, keys_map_underKey, List.forall_mem_map]
  simp only [underKey_eq_ok_iff, exists_and_left]

/-- There is no object of entries where a key has no text or the value under it has a
defect, the first one in order, or where there are all of these and a text is repeated. -/
theorem decomposeUnder_eq_error_iff {err : DecomposeError} :
    decomposeUnder entries = .error err ↔
      (∃ before e after, entries = before ++ e :: after ∧
        (∀ g ∈ before, g.1.oversizedText = false ∧ ∃ v, g.2.decompose = .ok v) ∧
        (e.1.oversizedText = true ∧ err = .oversized ∨
          e.1.oversizedText = false ∧ e.2.decompose = .error err)) ∨
      (∀ e ∈ entries, e.1.oversizedText = false ∧ ∃ v, e.2.decompose = .ok v) ∧
        ¬ (entries.map fun e => e.1.text).Nodup ∧ err = .repeatedKey := by
  unfold decomposeUnder
  rw [Structured.objectOf?_eq_error_iff, exists_split_map, List.forall_mem_map,
    keys_map_underKey]
  simp only [underKey_eq_ok_iff, underKey_eq_error_iff, exists_and_left]

/-- Entries whose values are mapped to values that decompose as they do come to the
same. -/
theorem decomposeUnder_map {g : Host → Host}
    (h : ∀ e ∈ entries, (g e.2).decompose = e.2.decompose) :
    decomposeUnder (entries.map fun e => (e.1, g e.2)) = decomposeUnder entries := by
  unfold decomposeUnder
  rw [List.map_map]
  refine congrArg Structured.objectOf? (List.map_congr_left fun e he => ?_)
  exact Prod.ext rfl (congrArg (underKey e.1) (h e he))

/-- The entries of fields: their names are texts. -/
def named (fields : List (String × Host)) : List (Host × Host) :=
  fields.map fun f => (.string f.1, f.2)

/-- Fields come to the object of their entries. -/
theorem decomposeUnder_named (fields : List (String × Host)) :
    decomposeUnder (named fields) = decomposeEach fields := by
  unfold decomposeUnder named
  rw [List.map_map]
  rfl

end Entries

section Outside

/-- A run that counts as an array is the array of what is decomposed of it. -/
theorem decomposeIn_sequence {kind : SequenceKind} (hk : isArray kind = true) (flat : Bool)
    (items : List Host) :
    decomposeIn flat (sequence kind items) =
      (if flat && kind.isSet then decomposeMembers [] items
        else decomposeItems flat items).map .array := by
  have hw : kind ≠ .wrapped := by
    rintro rfl
    cases hk
  rw [decomposeIn, if_pos hk]
  · cases (if flat && kind.isSet then decomposeMembers [] items else decomposeItems flat items) <;>
      rfl
  · exact hw

/-- A run that counts as an array is the array of what its elements decompose to. -/
theorem decompose_sequence {kind : SequenceKind} (hk : isArray kind = true) (items : List Host) :
    (sequence kind items).decompose = (items.mapM decompose).map .array := by
  rw [decompose, decomposeIn_sequence hk, Bool.false_and, if_neg Bool.false_ne_true,
    decomposeItems_eq]
  rfl

/-- A list is the array of what its items decompose to. -/
theorem decompose_list_eq (items : List Host) :
    (list items).decompose = (items.mapM decompose).map .array :=
  decompose_sequence rfl items

/-- A run that is kept inside another object is a field of it. -/
theorem decompose_wrapped (items : List Host) :
    (sequence .wrapped items).decompose =
      (items.mapM decompose).map fun vs => .object [("data", .array vs)] := by
  have hitems : decomposeItems false items = items.mapM decompose := decomposeItems_eq false items
  unfold decompose at hitems ⊢
  rw [decomposeIn, hitems]
  cases items.mapM fun h => decomposeIn false h <;> rfl

/-- A mapping is the object of what its values decompose to, under the texts of its keys. -/
theorem decompose_mapping (kind : MappingKind) (entries : List (Host × Host)) :
    (mapping kind entries).decompose = decomposeUnder entries := by
  unfold decomposeUnder decompose
  rw [decomposeIn, Bool.false_and, decomposeEntries_eq]
  unfold keyTexts
  rw [if_neg Bool.false_ne_true, List.map_map]
  rfl

/-- A mapping from texts is the object of what its values decompose to. -/
theorem decompose_object (fields : List (String × Host)) :
    (object fields).decompose = decomposeEach fields := by
  rw [object, decompose_mapping]
  exact decomposeUnder_named fields

/-- A declared record is the object of what its fields decompose to. -/
theorem decompose_declared (fields : List (String × Host)) :
    (record .declared fields).decompose = decomposeEach fields := by
  unfold decompose
  rw [decomposeIn]
  exact objectOf?_of_decomposeFields false fields

/-- A plain object is the object of what its public attributes decompose to. -/
theorem decompose_attributes {kind : RecordKind} (hk : kind.isPlain = true)
    (attributes : List (String × Host)) :
    (record kind attributes).decompose =
      decomposeEach (attributes.filter fun f => isPublic f.1) := by
  unfold decompose
  cases kind with
  | object =>
    rw [decomposeIn, decomposePublic_eq]
    exact objectOf?_of_decomposeFields false _
  | loose =>
    rw [decomposeIn, decomposePublic_eq]
    exact objectOf?_of_decomposeFields false _
  | declared => cases hk
  | model => cases hk

/-- A handle is the object of what its public attributes decompose to. -/
theorem decompose_handle (take : Int → Except Fault Host) (attributes : List (String × Host)) :
    (handle take attributes).decompose =
      decomposeEach (attributes.filter fun f => isPublic f.1) := by
  unfold decompose
  rw [decomposeIn, decomposePublic_eq]
  exact objectOf?_of_decomposeFields false _

end Outside

section Inside

/-- The members of a flattened set are decomposed one by one, those that were seen
before left out. -/
theorem decomposeMembers_eq {items : List Host}
    (ih : ∀ h ∈ items, decomposeIn true h = h.flattened.decompose) (seen : List Host) :
    decomposeMembers seen items =
      (Assoc.unseen same seen (flattenedItems items)).mapM decompose := by
  rw [flattenedItems_eq]
  induction items generalizing seen with
  | nil =>
    rw [decomposeMembers]
    rfl
  | cons h rest ihr =>
    obtain ⟨hh, hrest⟩ := List.forall_mem_cons.mp ih
    rw [decomposeMembers, List.map_cons, Assoc.unseen]
    split
    · exact ihr hrest seen
    · rw [hh, ihr hrest, List.mapM_cons]
      cases h.flattened.decompose with
      | error e => rfl
      | ok v =>
        cases (Assoc.unseen same (seen ++ [h.flattened]) (rest.map flattened)).mapM decompose <;>
          rfl

/-- The elements of a flattened run decompose as what flattening puts in their places. -/
theorem decomposeItems_flattened {items : List Host}
    (ih : ∀ h ∈ items, decomposeIn true h = h.flattened.decompose) :
    decomposeItems true items = (flattenedItems items).mapM decompose := by
  rw [decomposeItems_eq, flattenedItems_eq]
  exact (mapM_map_of_eq fun h hmem => (ih h hmem).symm).symm

/-- The fields of a flattened record decompose as what flattening puts in their places. -/
theorem decomposeFields_flattened {fields : List (String × Host)}
    (ih : ∀ f ∈ fields, decomposeIn true f.2 = f.2.flattened.decompose) :
    (match decomposeFields true fields with
      | .ok fs => Structured.object? fs
      | .error e => .error e) = (object (flattenedFields fields)).decompose := by
  rw [objectOf?_of_decomposeFields, decompose_object, flattenedFields_eq, decomposeEach,
    List.map_map]
  exact congrArg Structured.objectOf? (List.map_congr_left fun f hf => Prod.ext rfl (ih f hf))

/-- A flattened mapping decomposes as what flattening puts in its place. -/
theorem decomposeIn_mapping_flattened {kind : MappingKind} {entries : List (Host × Host)}
    (ih : ∀ e ∈ entries, decomposeIn true e.2 = e.2.flattened.decompose) :
    decomposeIn true (mapping kind entries) = (mapping kind entries).flattened.decompose := by
  rw [decomposeIn, Bool.true_and, flattened]
  cases kind.flattened with
  | false =>
    rw [if_neg Bool.false_ne_true, decompose, decomposeIn, Bool.false_and]
  | true =>
    have hvalues : ((decomposeEntries true entries).map fun e => (e.1.flattened, e.2)) =
        (flattenedEntries entries).map fun e => (e.1, e.2.decompose) := by
      rw [decomposeEntries_eq, flattenedEntries_eq, List.map_map, List.map_map]
      exact List.map_congr_left fun e he => Prod.ext rfl (ih e he)
    unfold keyTexts
    rw [if_pos rfl, if_pos rfl, hvalues, mappingOf, decompose_mapping, Assoc.ofList_map_values,
      decomposeUnder, List.map_map]
    rfl

/-- Inside a model a value decomposes as what flattening puts in its place, and a
structured value as the record of its parts. -/
theorem decompose_flattened_steps :
    Steps (fun h => decomposeIn true h = h.flattened.decompose)
      (fun v => decomposeParts v = (flattenedParts v).decompose) where
  atom h ha := by
    cases h with
    | sequence kind items => cases ha
    | mapping kind entries => cases ha
    | record kind fields => cases ha
    | envelope root => cases ha
    | handle take attributes => cases ha
    | structured v => cases ha
    | entity o =>
      rw [flattened, decompose, decomposeIn, decomposeIn]
      unfold decomposeEntity Entity.flattened
      cases hk : o.kind <;> simp only [hk, if_true, Bool.false_eq_true, if_false]
    | _ => simp only [flattened, decompose, decomposeIn, if_true]
  sequence kind items ih := by
    cases kind with
    | list =>
      rw [flattened, decompose_sequence rfl, ← decomposeItems_flattened ih]
      exact decomposeIn_sequence rfl true items
    | tuple =>
      rw [flattened, decompose_sequence rfl, ← decomposeItems_flattened ih]
      exact decomposeIn_sequence rfl true items
    | set =>
      rw [flattened, setOf, decompose_sequence rfl, Assoc.distinct_eq_unseen,
        ← decomposeMembers_eq ih]
      exact decomposeIn_sequence rfl true items
    | frozenSet =>
      rw [flattened, setOf, decompose_sequence rfl, Assoc.distinct_eq_unseen,
        ← decomposeMembers_eq ih]
      exact decomposeIn_sequence rfl true items
    | wrapped => simp only [flattened, decompose, decomposeIn]
    | deque => simp only [flattened, decompose, decomposeIn, isArray, Bool.false_eq_true, if_false]
    | array => simp only [flattened, decompose, decomposeIn, isArray, Bool.false_eq_true, if_false]
  mapping kind entries ih := decomposeIn_mapping_flattened fun e he => (ih e he).2
  record kind fields ih := by
    cases kind with
    | object => simp only [flattened, decompose, decomposeIn]
    | loose => simp only [flattened, decompose, decomposeIn]
    | declared =>
      rw [flattened, decomposeIn]
      exact decomposeFields_flattened ih
    | model =>
      rw [flattened, decomposeIn, if_pos rfl]
      exact decomposeFields_flattened ih
  envelope root ih := by
    rw [flattened, decomposeIn, if_pos rfl]
    exact ih
  handle take attributes _ := by simp only [flattened, decompose, decomposeIn]
  structured v ih := by
    rw [flattened, decomposeIn, if_pos rfl]
    exact ih
  leaf v hv := by
    cases v with
    | array items => cases hv
    | object fields => cases hv
    | foreign h => cases hv
    | shapeless => rw [decomposeParts, flattenedParts, decompose, decomposeIn,
        if_neg Bool.false_ne_true]
    | _ => rfl
  array items ih := by
    have hitems : decomposePartItems items = (flattenedPartItems items).mapM decompose := by
      rw [decomposePartItems_eq, flattenedPartItems_eq]
      exact (mapM_map_of_eq fun v hv => (ih v hv).symm).symm
    rw [decomposeParts, flattenedParts, decompose_object, decomposeEach, List.map_singleton,
      decompose_sequence rfl, hitems]
    cases (flattenedPartItems items).mapM decompose <;> rfl
  object fields ih := by
    have hfields : decomposePartFields fields = (flattenedPartFields fields).mapM decompose := by
      rw [decomposePartFields_eq, flattenedPartFields_eq]
      refine (mapM_map_of_eq fun f hf => ?_).symm
      rw [decompose_sequence rfl, ih f hf, List.mapM_cons, List.mapM_cons, List.mapM_nil,
        decompose, decomposeIn]
      cases (flattenedParts f.2).decompose <;> rfl
    rw [decomposeParts, flattenedParts, decompose_object, decomposeEach, List.map_singleton,
      decompose_sequence rfl, hfields]
    cases (flattenedPartFields fields).mapM decompose <;> rfl
  foreign h ih := by
    rw [decomposeParts, flattenedParts]
    exact ih

/-- Inside a model a value decomposes as what flattening puts in its place. -/
theorem decomposeIn_flattened (h : Host) : decomposeIn true h = h.flattened.decompose :=
  decompose_flattened_steps.value h

end Inside

section Models

/-- Whether a value is a model. -/
def isModel : Host → Bool
  | .record .model _ => true
  | .envelope _ => true
  | _ => false

/-- A model is decomposed as what it is flattened to, or has the defect that keeps it from
being flattened. -/
theorem decompose_model {h : Host} (hm : h.isModel = true) :
    h.decompose =
      match h.flattenDefect? with
      | some e => .error e
      | none => h.flattened.decompose := by
  cases h with
  | envelope root =>
    rw [decompose, decomposeIn, if_neg Bool.false_ne_true, flattened, flattenDefect?]
    cases flattenDefect? root with
    | some e => rfl
    | none => exact decomposeIn_flattened root
  | record kind fields =>
    cases kind with
    | model =>
      rw [decompose, decomposeIn, if_neg Bool.false_ne_true, flattened, flattenDefect?]
      cases flattenDefectFields? fields with
      | some e => rfl
      | none => exact decomposeFields_flattened fun f _ => decomposeIn_flattened f.2
    | _ => cases hm
  | _ => cases hm

end Models

end Host

end LiveSession
