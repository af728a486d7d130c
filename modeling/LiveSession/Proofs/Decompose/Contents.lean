import LiveSession.Proofs.Decompose.Unaltered

/-!
# What values consist of

Decomposition looks at one layer of a value at a time: a value has a structured form as
it is, or it has none, or it consists of elements or of values under keys, which stand
for their texts. A model can
be read in two ways. It consists of the values of its fields, like any record; or what it
is flattened to stands in its place, and this is what decomposition goes by. The two come
to the same where flattening leaves the values in the model alone.
-/

namespace LiveSession

/-- What a value consists of, one layer deep. -/
inductive Contents where
  /-- It has this structured form as it is. -/
  | form (v : Structured)
  /-- It has no structured form. -/
  | nothing (defect : DecomposeError)
  /-- Elements, in order. -/
  | elements (items : List Host)
  /-- Values under keys, in order. -/
  | fields (list : List (Host × Host))
  /-- Another value stands in its place. -/
  | stands (h : Host)

namespace Contents

/-- The values that contents are made of, in reading order. -/
def parts : Contents → List Host
  | .form _ => []
  | .nothing _ => []
  | .elements items => items
  | .fields list => list.map Prod.snd
  | .stands h => [h]

/-- The structured value of contents, or their first defect. -/
def assemble : Contents → Except DecomposeError Structured
  | .form v => .ok v
  | .nothing e => .error e
  | .elements items => (items.mapM Host.decompose).map .array
  | .fields list => Host.decomposeUnder list
  | .stands h => h.decompose

end Contents

namespace Host

/-- What a value consists of; a model, of the values of its fields. -/
def contents : Host → Contents
  | .null => .form .null
  | .bool b => .form (.bool b)
  | .int i => .form (.int i)
  | .numbered _ i => .form (.int i)
  | .double d => .form (.double d)
  | .decimal d => .form (.decimal d)
  | .string s => .form (.string s)
  | .label _ s => .form (.string s)
  | .moment m => .form (.string m.iso)
  | .structured v => .form v
  | .constant _ _ => .fields []
  | .handle _ attributes => .fields (named (attributes.filter fun f => isPublic f.1))
  | .range start stop step => .elements ((rangeTerms start stop step).map .int)
  | .sequence .wrapped items => .fields [(.string "data", .list items)]
  | .sequence kind items =>
    if isArray kind then .elements items
    else .nothing (.unsupported (sequence kind items).typeName)
  | .mapping _ entries => .fields entries
  | .record .object attributes => .fields (named (attributes.filter fun f => isPublic f.1))
  | .record .loose attributes => .fields (named (attributes.filter fun f => isPublic f.1))
  | .record _ fields => .fields (named fields)
  | .envelope root => .stands root
  | .binary _ _ => .nothing .binary
  | .cyclic _ => .nothing .endless
  | .entity o =>
    match o.kind with
    | .shell => .fields []
    | _ => .nothing (.unsupported o.typeName)
  | h => .nothing (.unsupported h.typeName)

/-- What a value consists of; in the place of a model stands what it is flattened to. -/
def flatContents (h : Host) : Contents :=
  if h.isModel then
    match h.flattenDefect? with
    | some e => .nothing e
    | none => .stands h.flattened
  else h.contents

/-- Whether a value is a part of another. -/
def PartOf (c : Host → Contents) (x h : Host) : Prop :=
  x ∈ (c h).parts

section Assemble

/-- The parts of what has fields are their values. -/
theorem mem_parts_named {fields : List (String × Host)} {x : Host} :
    x ∈ (Contents.fields (named fields)).parts ↔ ∃ f ∈ fields, f.2 = x := by
  rw [Contents.parts, named, List.map_map]
  exact List.mem_map

/-- The terms of a progression decompose to themselves. -/
theorem mapM_int (terms : List Int) :
    (terms.map Host.int).mapM decompose = .ok (terms.map .int) := by
  refine mapM_eq_ok_iff.mpr (List.forall₂_map_left_iff.mpr (List.forall₂_map_right_iff.mpr ?_))
  exact List.forall₂_same.mpr fun i _ => rfl

/-- A value is decomposed as it is assembled of its contents; a model, if flattening
leaves the values in it alone. -/
theorem decompose_eq_assemble {h : Host}
    (hu : h.isModel = true → ∀ x ∈ h.contents.parts, x.Unaltered) :
    h.decompose = h.contents.assemble := by
  cases h with
  | range start stop step =>
    rw [contents, Contents.assemble, mapM_int, decompose, decomposeIn]
    rfl
  | sequence kind items =>
    cases kind with
    | wrapped =>
      rw [decompose_wrapped, contents, Contents.assemble, decomposeUnder, List.map_singleton,
        decompose_list_eq]
      cases items.mapM decompose <;> rfl
    | deque => rfl
    | array => rfl
    | _ => exact decompose_sequence rfl items
  | mapping kind entries => exact decompose_mapping kind entries
  | record kind fields =>
    cases kind with
    | declared =>
      rw [contents, Contents.assemble, decomposeUnder_named, decompose_declared]
      · intro h
        cases h
      · intro h
        cases h
    | model =>
      rw [contents, Contents.assemble, decomposeUnder_named]
      · exact decompose_model_unaltered fun f hf => hu rfl f.2 (mem_parts_named.mpr ⟨f, hf, rfl⟩)
      · intro h
        cases h
      · intro h
        cases h
    | object =>
      rw [contents, Contents.assemble, decomposeUnder_named, decompose_attributes rfl]
    | loose =>
      rw [contents, Contents.assemble, decomposeUnder_named, decompose_attributes rfl]
  | handle take attributes =>
    rw [contents, Contents.assemble, decomposeUnder_named, decompose_handle]
  | envelope root =>
    have hroot : root.Unaltered := hu rfl root List.mem_cons_self
    rw [decompose_model rfl, hroot.envelope.flattenable, flattened]
    exact hroot.decompose_flattened
  | entity o =>
    rw [decompose, decomposeIn, contents]
    unfold decomposeEntity
    cases o.kind <;> rfl
  | _ => rfl

/-- A value is decomposed as it is assembled of its contents, what a model is flattened to
in the model's place. -/
theorem decompose_eq_assemble_flat (h : Host) : h.decompose = h.flatContents.assemble := by
  unfold flatContents
  cases hm : h.isModel with
  | true =>
    rw [decompose_model hm, if_pos rfl]
    cases h.flattenDefect? <;> rfl
  | false =>
    rw [if_neg Bool.false_ne_true]
    refine decompose_eq_assemble fun hmodel => ?_
    cases hm.symm.trans hmodel

end Assemble

section Founded

variable {c : Host → Contents}

/-- A reading of values that goes by their contents where they are no models. -/
def ReadsContents (c : Host → Contents) : Prop :=
  ∀ h : Host, h.isModel = false → c h = h.contents

/-- The plain reading goes by contents. -/
theorem readsContents_contents : ReadsContents contents :=
  fun _ _ => rfl

/-- So does the reading in which models are flattened. -/
theorem readsContents_flat : ReadsContents flatContents := by
  intro h hm
  unfold flatContents
  rw [hm, if_neg Bool.false_ne_true]

/-- A value that is no model is founded where its parts are. -/
theorem acc_of_parts (hc : ReadsContents c) {h : Host} (hm : h.isModel = false)
    (hparts : ∀ x ∈ h.contents.parts, Acc (PartOf c) x) : Acc (PartOf c) h := by
  refine Acc.intro _ fun x hx => hparts x ?_
  unfold PartOf at hx
  rw [hc h hm] at hx
  exact hx

/-- A run is founded where its elements are. -/
theorem acc_sequence (hc : ReadsContents c) {kind : SequenceKind} {items : List Host}
    (h : ∀ x ∈ items, Acc (PartOf c) x) : Acc (PartOf c) (sequence kind items) := by
  refine acc_of_parts hc rfl fun x hx => ?_
  cases kind with
  | wrapped =>
    cases List.mem_singleton.mp hx
    exact acc_of_parts hc rfl h
  | deque => cases hx
  | array => cases hx
  | _ => exact h x hx

/-- A mapping is founded where its values are. -/
theorem acc_mapping (hc : ReadsContents c) {kind : MappingKind} {entries : List (Host × Host)}
    (h : ∀ e ∈ entries, Acc (PartOf c) e.2) : Acc (PartOf c) (mapping kind entries) := by
  refine acc_of_parts hc rfl fun x hx => ?_
  obtain ⟨e, he, rfl⟩ := List.mem_map.mp hx
  exact h e he

/-- A mapping from texts is founded where its values are. -/
theorem acc_object (hc : ReadsContents c) {fields : List (String × Host)}
    (h : ∀ f ∈ fields, Acc (PartOf c) f.2) : Acc (PartOf c) (object fields) := by
  refine acc_mapping hc fun e he => ?_
  obtain ⟨f, hf, rfl⟩ := List.mem_map.mp he
  exact h f hf

/-- A mapping from one text is founded where its value is. -/
theorem acc_single (hc : ReadsContents c) {name : String} {h : Host} (hh : Acc (PartOf c) h) :
    Acc (PartOf c) (object [(name, h)]) := by
  refine acc_object hc fun f hf => ?_
  cases List.mem_singleton.mp hf
  exact hh

/-- A value without parts of its own is founded. -/
theorem acc_atom (hc : ReadsContents c) {h : Host} (ha : h.layout = .atom) :
    Acc (PartOf c) h := by
  have hm : h.isModel = false := by
    cases h with
    | record kind fields => cases ha
    | envelope root => cases ha
    | _ => rfl
  refine acc_of_parts hc hm fun x hx => ?_
  cases h with
  | sequence kind items => cases ha
  | mapping kind entries => cases ha
  | record kind fields => cases ha
  | envelope root => cases ha
  | handle take attributes => cases ha
  | structured v => cases ha
  | range start stop step =>
    obtain ⟨i, -, rfl⟩ := List.mem_map.mp hx
    exact acc_of_parts hc rfl fun y hy => absurd hy List.not_mem_nil
  | entity o =>
    rw [contents] at hx
    split at hx <;> cases hx
  | _ => cases hx

/-- Public attributes are founded where all attributes are. -/
theorem acc_public {attributes : List (String × Host)} {x : Host}
    (h : ∀ f ∈ attributes, Acc (PartOf c) f.2)
    (hx : x ∈ (Contents.fields (named (attributes.filter fun f => isPublic f.1))).parts) :
    Acc (PartOf c) x := by
  obtain ⟨f, hf, rfl⟩ := mem_parts_named.mp hx
  exact h f (List.mem_filter.mp hf).1

/-- A record that is no model is founded where its fields are. -/
theorem acc_record (hc : ReadsContents c) {kind : RecordKind} (hk : kind ≠ .model)
    {fields : List (String × Host)} (h : ∀ f ∈ fields, Acc (PartOf c) f.2) :
    Acc (PartOf c) (record kind fields) := by
  have hm : (record kind fields).isModel = false := by
    cases kind with
    | model => exact absurd rfl hk
    | _ => rfl
  refine acc_of_parts hc hm fun x hx => ?_
  cases kind with
  | model => exact absurd rfl hk
  | declared =>
    obtain ⟨f, hf, rfl⟩ := mem_parts_named.mp hx
    exact h f hf
  | object => exact acc_public h hx
  | loose => exact acc_public h hx

/-- A handle is founded where its public attributes are. -/
theorem acc_handle (hc : ReadsContents c) (take : Int → Except Fault Host)
    {attributes : List (String × Host)} (h : ∀ f ∈ attributes, Acc (PartOf c) f.2) :
    Acc (PartOf c) (handle take attributes) :=
  acc_of_parts hc rfl fun _ hx => acc_public h hx

/-- A structured value has no parts that are host values. -/
theorem acc_structured (hc : ReadsContents c) (v : Structured) :
    Acc (PartOf c) (structured v) :=
  acc_of_parts hc rfl fun _ hx => absurd hx List.not_mem_nil

/-- Every value is founded: going from parts to parts of it comes to an end. -/
theorem acc_contents_steps : Steps (Acc (PartOf contents)) (fun _ => True) where
  atom h ha := acc_atom readsContents_contents ha
  sequence kind items ih := acc_sequence readsContents_contents ih
  mapping kind entries ih := acc_mapping readsContents_contents fun e he => (ih e he).2
  record kind fields ih := by
    by_cases hk : kind = .model
    · subst hk
      refine Acc.intro _ fun x hx => ?_
      obtain ⟨f, hf, rfl⟩ := mem_parts_named.mp hx
      exact ih f hf
    · exact acc_record readsContents_contents hk ih
  envelope root ih := by
    refine Acc.intro _ fun x hx => ?_
    cases List.mem_singleton.mp hx
    exact ih
  handle take attributes ih := acc_handle readsContents_contents take ih
  structured v _ := acc_structured readsContents_contents v
  leaf v _ := trivial
  array items _ := trivial
  object fields _ := trivial
  foreign h _ := trivial

/-- A model is founded where what it is flattened to is. -/
theorem acc_flat_model {h : Host} (hm : h.isModel = true)
    (hf : Acc (PartOf flatContents) h.flattened) : Acc (PartOf flatContents) h := by
  refine Acc.intro _ fun x hx => ?_
  unfold PartOf flatContents at hx
  rw [if_pos hm] at hx
  split at hx
  · cases hx
  · cases List.mem_singleton.mp hx
    exact hf

/-- What a run is flattened to is founded where the run is and what its elements are
flattened to. -/
theorem acc_flattened_sequence {kind : SequenceKind} {items : List Host}
    (hself : Acc (PartOf flatContents) (sequence kind items))
    (h : ∀ x ∈ items, Acc (PartOf flatContents) x.flattened) :
    Acc (PartOf flatContents) (sequence kind items).flattened := by
  have hitems : ∀ x ∈ flattenedItems items, Acc (PartOf flatContents) x := by
    intro x hx
    rw [flattenedItems_eq] at hx
    obtain ⟨y, hy, rfl⟩ := List.mem_map.mp hx
    exact h y hy
  have hmembers : ∀ x ∈ Assoc.distinct same (flattenedItems items),
      Acc (PartOf flatContents) x := by
    intro x hx
    rw [Assoc.distinct_eq_unseen] at hx
    exact hitems x (Assoc.mem_of_mem_unseen hx)
  cases kind with
  | list => exact acc_sequence readsContents_flat hitems
  | tuple => exact acc_sequence readsContents_flat hitems
  | set => exact acc_sequence readsContents_flat hmembers
  | frozenSet => exact acc_sequence readsContents_flat hmembers
  | _ => exact hself

/-- What a mapping is flattened to is founded where the mapping is and what its values
are flattened to. -/
theorem acc_flattened_mapping {kind : MappingKind} {entries : List (Host × Host)}
    (hself : Acc (PartOf flatContents) (mapping kind entries))
    (h : ∀ e ∈ entries, Acc (PartOf flatContents) e.2.flattened) :
    Acc (PartOf flatContents) (mapping kind entries).flattened := by
  rw [flattened]
  split
  · refine acc_mapping readsContents_flat fun e he => ?_
    obtain ⟨e', he', hvalue⟩ := Assoc.value_of_mem_ofList he
    rw [flattenedEntries_eq] at he'
    obtain ⟨origin, ho, rfl⟩ := List.mem_map.mp he'
    exact hvalue ▸ h origin ho
  · exact hself

/-- Every value is founded, and so is what it is flattened to. -/
theorem acc_flat_steps :
    Steps (fun h => Acc (PartOf flatContents) h ∧ Acc (PartOf flatContents) h.flattened)
      (fun v => Acc (PartOf flatContents) (flattenedParts v)) where
  atom h ha :=
    ⟨acc_atom readsContents_flat ha, acc_atom readsContents_flat (layout_flattened_atom ha)⟩
  sequence kind items ih := by
    have hself : Acc (PartOf flatContents) (sequence kind items) :=
      acc_sequence readsContents_flat fun h hh => (ih h hh).1
    exact ⟨hself, acc_flattened_sequence hself fun h hh => (ih h hh).2⟩
  mapping kind entries ih := by
    have hself : Acc (PartOf flatContents) (mapping kind entries) :=
      acc_mapping readsContents_flat fun e he => (ih e he).2.1
    exact ⟨hself, acc_flattened_mapping hself fun e he => (ih e he).2.2⟩
  record kind fields ih := by
    have hfields : Acc (PartOf flatContents) (object (flattenedFields fields)) := by
      refine acc_object readsContents_flat fun f hf => ?_
      rw [flattenedFields_eq] at hf
      obtain ⟨origin, ho, rfl⟩ := List.mem_map.mp hf
      exact (ih origin ho).2
    by_cases hk : kind = .model
    · subst hk
      exact ⟨acc_flat_model rfl hfields, hfields⟩
    · have hself : Acc (PartOf flatContents) (record kind fields) :=
        acc_record readsContents_flat hk fun f hf => (ih f hf).1
      refine ⟨hself, ?_⟩
      cases kind with
      | declared => exact hfields
      | model => exact hfields
      | _ => exact hself
  envelope root ih := ⟨acc_flat_model rfl ih.2, ih.2⟩
  handle take attributes ih := by
    have hself : Acc (PartOf flatContents) (handle take attributes) :=
      acc_handle readsContents_flat take fun f hf => (ih f hf).1
    exact ⟨hself, hself⟩
  structured v ih := ⟨acc_structured readsContents_flat v, ih⟩
  leaf v hv := by
    cases v with
    | array items => cases hv
    | object fields => cases hv
    | foreign h => cases hv
    | shapeless => exact acc_structured readsContents_flat .shapeless
    | null => exact acc_object readsContents_flat fun f hf => absurd hf List.not_mem_nil
    | _ => exact acc_single readsContents_flat (acc_atom readsContents_flat rfl)
  array items ih := by
    refine acc_single readsContents_flat (acc_sequence readsContents_flat fun x hx => ?_)
    rw [flattenedPartItems_eq] at hx
    obtain ⟨v, hv, rfl⟩ := List.mem_map.mp hx
    exact ih v hv
  object fields ih := by
    refine acc_single readsContents_flat (acc_sequence readsContents_flat fun x hx => ?_)
    rw [flattenedPartFields_eq] at hx
    obtain ⟨g, hg, rfl⟩ := List.mem_map.mp hx
    refine acc_sequence readsContents_flat fun y hy => ?_
    rcases List.mem_cons.mp hy with rfl | hy
    · exact acc_atom readsContents_flat rfl
    · cases List.mem_singleton.mp hy
      exact ih g hg
  foreign h ih := ih.2

end Founded

end Host

end LiveSession
