import LiveSession.Proofs.Decompose.Unaltered

/-!
# Values with named fields

A mapping from texts, a declared record and a plain object with the same public fields
decompose to the same object, in which each value is decomposed on its own, or report
the same defect. A model with these fields is decomposed as the mapping that it is
flattened to; this comes to the same where flattening leaves the values of the fields
alone. It does not leave alone a structured value that was bound as it is: elsewhere
that stands for itself, in a model for the mapping of its parts.
-/

namespace LiveSession.Host

/-- What fields come to when each value is decomposed on its own: the object of what the
values decompose to, under the names and in the order of the fields, or the defect of the
first value that has one. -/
inductive Assembled (fields : List (String × Host)) : Except DecomposeError Structured → Prop
  | object {us : List (String × Structured)}
      (values : List.Forall₂ (fun f u => f.1 = u.1 ∧ f.2.decompose = .ok u.2) fields us) :
      Assembled fields (.ok (.object us))
  | defect {before after : List (String × Host)} {f : String × Host} {e : DecomposeError}
      (split : fields = before ++ f :: after)
      (sound : ∀ g ∈ before, ∃ v, g.2.decompose = .ok v) (first : f.2.decompose = .error e) :
      Assembled fields (.error e)

/-- An object of distinct fields is assembled from them. -/
theorem assembled_decomposeEach {fields : List (String × Host)} (hd : (Assoc.keys fields).Nodup) :
    Assembled fields (decomposeEach fields) := by
  cases h : decomposeEach fields with
  | ok v =>
    obtain ⟨-, us, rfl, hnamed⟩ := decomposeEach_eq_ok_iff.mp h
    exact .object hnamed
  | error e =>
    rcases decomposeEach_eq_error_iff.mp h with
      ⟨before, f, after, hsplit, hsound, hfirst⟩ | ⟨-, hrepeated, -⟩
    · exact .defect hsplit hsound hfirst
    · exact absurd hd hrepeated

/-- Flattening leaves the names of fields alone. -/
theorem keys_flattenedFields (fields : List (String × Host)) :
    Assoc.keys (flattenedFields fields) = Assoc.keys fields := by
  rw [flattenedFields_eq]
  exact List.map_map

/-- How the values with the given fields decompose. -/
structure DecomposesAsFields (fields : List (String × Host)) : Prop where
  /-- In the mapping each value is decomposed on its own. -/
  mapping : Assembled fields (object fields).decompose
  /-- A record that is no model is decomposed as the mapping. -/
  record : ∀ kind, kind ≠ .model → (record kind fields).decompose = (object fields).decompose
  /-- In a model each value is decomposed as it is flattened. -/
  model : flattenDefectFields? fields = none →
    Assembled (flattenedFields fields) (Host.record .model fields).decompose
  /-- A model that cannot be flattened is a defect as a whole. -/
  unflattened : ∀ e, flattenDefectFields? fields = some e →
    (Host.record .model fields).decompose = .error e
  /-- A model of values that flattening leaves alone is decomposed as the mapping. -/
  unaltered : (∀ f ∈ fields, f.2.Unaltered) →
    (Host.record .model fields).decompose = (object fields).decompose

/-- Whatever their values are, distinct public fields decompose to the same in a mapping,
in a declared record and in a plain object; and in a model, if flattening leaves the
values alone. -/
theorem decompose_fields_alike {fields : List (String × Host)} (hd : (Assoc.keys fields).Nodup)
    (hp : ∀ f ∈ fields, isPublic f.1 = true) : DecomposesAsFields fields where
  mapping := by
    rw [decompose_object]
    exact assembled_decomposeEach hd
  record := by
    intro kind hkind
    have hpublic : (fields.filter fun f => isPublic f.1) = fields := List.filter_eq_self.mpr hp
    rw [decompose_object]
    cases kind with
    | model => exact absurd rfl hkind
    | declared => exact decompose_declared fields
    | object => rw [decompose_attributes rfl, hpublic]
    | loose => rw [decompose_attributes rfl, hpublic]
  model := by
    intro hu
    have hnames : (Assoc.keys (flattenedFields fields)).Nodup := by
      rw [keys_flattenedFields]
      exact hd
    rw [decompose_model rfl, flattenDefect?, hu, flattened, decompose_object]
    exact assembled_decomposeEach hnames
  unflattened := by
    intro e he
    rw [decompose_model rfl, flattenDefect?, he]
  unaltered := by
    intro hu
    rw [decompose_model_unaltered hu, decompose_object]

/-- A list of a declared record, and a model with a mapping from a number. -/
def nestedFields : List (String × Host) :=
  [("rows", .list [.record .declared [("x", .int 1)], .null]),
    ("inner", .record .model [("by", .mapping .plain [(.int 2, .string "two")])])]

/-- They decompose to the same in a model and in a plain object. -/
theorem decompose_fields_alike_nested :
    (Assoc.keys nestedFields).Nodup ∧ (∀ f ∈ nestedFields, isPublic f.1 = true) ∧
      (Host.record .model nestedFields).decompose = (object nestedFields).decompose ∧
      (Host.record .object nestedFields).decompose = .ok (.object
        [("rows", .array [.object [("x", .int 1)], .null]),
          ("inner", .object [("by", .object [("2", .string "two")])])]) := by
  have hd : (Assoc.keys nestedFields).Nodup := by decide
  have hp : ∀ f ∈ nestedFields, isPublic f.1 = true := by decide
  have alike := decompose_fields_alike hd hp
  have hatom : ∀ h : Host, flattenDefect? h = none → flattened h = h → h.Unaltered :=
    fun h hu hf => .kept hu hf
  refine ⟨hd, hp, alike.unaltered ?_, (alike.record .object nofun).trans rfl⟩
  refine List.forall_mem_cons.mpr ⟨.list ?_, List.forall_mem_singleton.mpr (.model ?_)⟩
  · refine List.forall_mem_cons.mpr ⟨.declared ?_, List.forall_mem_singleton.mpr (hatom _ rfl rfl)⟩
    exact List.forall_mem_singleton.mpr (hatom _ rfl rfl)
  · refine List.forall_mem_singleton.mpr (.mapping rfl ?_ rfl ?_)
    · exact List.forall_mem_singleton.mpr ⟨rfl, rfl, rfl⟩
    · exact List.forall_mem_singleton.mpr (hatom _ rfl rfl)

/-- A structured value that was bound as it is stands for itself in a mapping and in a
plain object, and for the mapping of its parts in a model: so the values with one field
neither decompose to the same nor all fail. -/
theorem not_decompose_fields_alike :
    ¬ ∀ fields : List (String × Host),
      (Assoc.keys fields).Nodup → (∀ f ∈ fields, isPublic f.1 = true) →
        (∃ v, Assembled fields (.ok v) ∧
          ∀ h ∈ [object fields, .record .declared fields, .record .object fields,
            .record .model fields], h.decompose = .ok v) ∨
        ∀ h ∈ [object fields, .record .declared fields, .record .object fields,
          .record .model fields], ∃ e, h.decompose = .error e := by
  intro h
  have hmapping : (object [("x", .structured (.int 1))]).decompose =
      .ok (.object [("x", .int 1)]) := rfl
  have hmodel : (Host.record .model [("x", .structured (.int 1))]).decompose =
      .ok (.object [("x", .object [("value", .int 1)])]) := rfl
  rcases h [("x", .structured (.int 1))] (by decide) (by decide) with ⟨v, -, hall⟩ | hall
  · cases hmapping.symm.trans (hall _ (by simp))
    cases hmodel.symm.trans (hall _ (by simp))
  · obtain ⟨e, he⟩ := hall (object [("x", .structured (.int 1))]) (by simp)
    cases hmapping.symm.trans he

end LiveSession.Host
