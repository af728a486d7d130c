import LiveSession.Proofs.Decompose.Layers

/-!
# Values that flattening leaves alone

Flattening makes mappings of records. In some values that is all it does: it passes
through lists, tuples and mappings whose keys it keeps, and whatever it does not pass
through stays as it is. Such a value can stand in a model and decomposes there as it does
on its own.
-/

namespace LiveSession.Host

/-- Whether a key is the same after flattening, and still can be a key. -/
def KeyKept (k : Host) : Prop :=
  losesHash k = false ∧ flattenDefect? k = none ∧ flattened k = k

/-- Whether flattening alters nothing in a value but the records that it makes mappings
of. -/
inductive Unaltered : Host → Prop
  | kept {h : Host} (hu : flattenDefect? h = none) (hf : flattened h = h) : Unaltered h
  | list {items : List Host} (inside : ∀ h ∈ items, Unaltered h) :
      Unaltered (.sequence .list items)
  | tuple {items : List Host} (inside : ∀ h ∈ items, Unaltered h) :
      Unaltered (.sequence .tuple items)
  | mapping {kind : MappingKind} {entries : List (Host × Host)} (hk : kind.flattened = true)
      (hkeys : ∀ e ∈ entries, KeyKept e.1) (hd : Assoc.ofList same entries = entries)
      (inside : ∀ e ∈ entries, Unaltered e.2) : Unaltered (.mapping kind entries)
  | declared {fields : List (String × Host)} (inside : ∀ f ∈ fields, Unaltered f.2) :
      Unaltered (.record .declared fields)
  | model {fields : List (String × Host)} (inside : ∀ f ∈ fields, Unaltered f.2) :
      Unaltered (.record .model fields)
  | envelope {root : Host} (inside : Unaltered root) : Unaltered (.envelope root)

namespace Unaltered

/-- An unaltered value can be flattened. -/
theorem flattenable {h : Host} (hu : h.Unaltered) : flattenDefect? h = none := by
  induction hu with
  | kept hu _ => exact hu
  | list _ ih =>
    rw [flattenDefect?, flattenDefectItems?_eq]
    exact List.findSome?_eq_none_iff.mpr ih
  | tuple _ ih =>
    rw [flattenDefect?, flattenDefectItems?_eq]
    exact List.findSome?_eq_none_iff.mpr ih
  | mapping hk hkeys _ _ ih =>
    rw [flattenDefect?, if_pos hk, flattenDefectEntries?_eq]
    refine List.findSome?_eq_none_iff.mpr fun e he => ?_
    obtain ⟨hlost, hkey, -⟩ := hkeys e he
    rw [flattenDefectPair?, hlost, hkey, ih e he]
    rfl
  | declared _ ih =>
    rw [flattenDefect?, flattenDefectFields?_eq]
    exact List.findSome?_eq_none_iff.mpr ih
  | model _ ih =>
    rw [flattenDefect?, flattenDefectFields?_eq]
    exact List.findSome?_eq_none_iff.mpr ih
  | envelope _ ih =>
    rw [flattenDefect?]
    exact ih

/-- Fields of unaltered values make the object that they make on their own. -/
theorem decompose_fields {fields : List (String × Host)}
    (ih : ∀ f ∈ fields, f.2.flattened.decompose = f.2.decompose) :
    (object (flattenedFields fields)).decompose = decomposeEach fields := by
  rw [decompose_object, flattenedFields_eq]
  exact decomposeEach_map ih

/-- An unaltered value decomposes as what flattening puts in its place. -/
theorem decompose_flattened {h : Host} (hu : h.Unaltered) :
    h.flattened.decompose = h.decompose := by
  have hitems : ∀ {items : List Host}, (∀ h ∈ items, h.flattened.decompose = h.decompose) →
      (flattenedItems items).mapM decompose = items.mapM decompose := by
    intro items ih
    rw [flattenedItems_eq]
    exact mapM_map_of_eq ih
  have hmodel : ∀ {h : Host}, h.isModel = true → h.Unaltered →
      h.flattened.decompose = h.decompose := by
    intro h hm hu
    rw [decompose_model hm, flattenable hu]
  induction hu with
  | kept _ hf => rw [hf]
  | list _ ih => rw [flattened, decompose_sequence rfl, decompose_sequence rfl, hitems ih]
  | tuple _ ih => rw [flattened, decompose_sequence rfl, decompose_sequence rfl, hitems ih]
  | @mapping kind entries hk hkeys hd _ ih =>
    -- The keys are kept, so the entries are joined as they were, which is not at all.
    have hentries : flattenedEntries entries = entries.map fun e => (e.1, e.2.flattened) := by
      rw [flattenedEntries_eq]
      exact List.map_congr_left fun e he => Prod.ext (hkeys e he).2.2 rfl
    rw [flattened, if_pos hk, mappingOf, hentries, Assoc.ofList_map_values, hd,
      decompose_mapping, decompose_mapping, decomposeUnder_map ih]
  | declared _ ih => rw [flattened, decompose_fields ih, decompose_declared]
  | model inside _ => exact hmodel rfl (.model inside)
  | envelope inside _ => exact hmodel rfl (.envelope inside)

end Unaltered

/-- A model of unaltered values is the object of what its fields decompose to. -/
theorem decompose_model_unaltered {fields : List (String × Host)}
    (hu : ∀ f ∈ fields, f.2.Unaltered) :
    (record .model fields).decompose = decomposeEach fields := by
  rw [decompose_model rfl, Unaltered.flattenable (.model hu), flattened]
  exact Unaltered.decompose_fields fun f hf => (hu f hf).decompose_flattened

end LiveSession.Host
