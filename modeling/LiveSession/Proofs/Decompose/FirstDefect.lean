import LiveSession.Proofs.Decompose.Contents

/-!
# The first defect of a value

A value decomposes if and only if nothing without a structured form, no key without a text
and no repeated key is reached in it, going from parts to parts. Otherwise the first
defect in reading order is reported: that of a part before those of later parts, a key
without a text before the value under it, and a repeated key after everything inside. What
a value decomposes to has its arrays and objects where the value has its elements and
fields, in the same order.

All this is so with what a model is flattened to in the place of the model. It is so with
the values of a model's fields as its parts wherever flattening leaves these alone, but
not everywhere: a fraction has no structured form, and in a model it becomes a text.
-/

namespace LiveSession

namespace Contents

/-- Whether there is no defect in the layer itself. -/
def Sound : Contents → Prop
  | .nothing _ => False
  | .fields list =>
    (∀ e ∈ list, e.1.oversizedText = false) ∧ (list.map fun e => e.1.text).Nodup
  | _ => True

/-- Whether a defect is the first one of a layer in reading order, given which parts have
none and which defect is the first one of a part. -/
inductive First (sound : Host → Prop) (first : Host → DecomposeError → Prop) :
    Contents → DecomposeError → Prop
  /-- There is no structured form. -/
  | nothing (e : DecomposeError) : First sound first (.nothing e) e
  /-- An element has the defect, and there is none in those before it. -/
  | element {before after : List Host} {x : Host} {e : DecomposeError}
      (earlier : ∀ y ∈ before, sound y) (inside : first x e) :
      First sound first (.elements (before ++ x :: after)) e
  /-- A key has no text, and there is no defect in the fields before it. -/
  | key {before after : List (Host × Host)} {f : Host × Host}
      (earlier : ∀ g ∈ before, g.1.oversizedText = false ∧ sound g.2)
      (own : f.1.oversizedText = true) :
      First sound first (.fields (before ++ f :: after)) .oversized
  /-- The value under a key that has a text has the defect, and there is none in the fields
  before it. -/
  | value {before after : List (Host × Host)} {f : Host × Host} {e : DecomposeError}
      (earlier : ∀ g ∈ before, g.1.oversizedText = false ∧ sound g.2)
      (own : f.1.oversizedText = false) (inside : first f.2 e) :
      First sound first (.fields (before ++ f :: after)) e
  /-- Two keys have the same text, and there is no other defect. -/
  | repeatedKey {list : List (Host × Host)}
      (every : ∀ f ∈ list, f.1.oversizedText = false ∧ sound f.2)
      (again : ¬ (list.map fun f => f.1.text).Nodup) :
      First sound first (.fields list) .repeatedKey
  /-- What stands in the place of the value has the defect. -/
  | stands {x : Host} {e : DecomposeError} (inside : first x e) :
      First sound first (.stands x) e

/-- Whether a structured value has the layer's shape and order, with what the parts of the
layer decompose to in their places and the texts of its keys as names. -/
inductive Mirrors : Contents → Structured → Prop
  | form (v : Structured) : Mirrors (.form v) v
  | elements {items : List Host} {vs : List Structured}
      (inside : List.Forall₂ (fun x v => x.decompose = .ok v) items vs) :
      Mirrors (.elements items) (.array vs)
  | fields {list : List (Host × Host)} {us : List (String × Structured)}
      (inside : List.Forall₂ (fun e u => e.1.text = u.1 ∧ e.2.decompose = .ok u.2) list us) :
      Mirrors (.fields list) (.object us)
  | stands {h : Host} {v : Structured} (inside : h.decompose = .ok v) : Mirrors (.stands h) v

section Assemble

variable {contents : Contents}

/-- A layer is assembled if it is sound and its parts decompose. -/
theorem assemble_isOk_iff : (∃ v, contents.assemble = .ok v) ↔
    contents.Sound ∧ ∀ x ∈ contents.parts, ∃ v, x.decompose = .ok v := by
  cases contents with
  | form v => exact iff_of_true ⟨v, rfl⟩ ⟨trivial, fun x hx => absurd hx List.not_mem_nil⟩
  | nothing e =>
    refine iff_of_false ?_ fun h => h.1
    rintro ⟨v, hv⟩
    cases hv
  | elements items =>
    constructor
    · rintro ⟨v, hv⟩
      obtain ⟨vs, hvs, -⟩ := map_eq_ok_iff.mp hv
      refine ⟨trivial, fun x hx => ?_⟩
      obtain ⟨u, -, hu⟩ := ok_of_mapM hvs x hx
      exact ⟨u, hu⟩
    · rintro ⟨-, hall⟩
      obtain ⟨vs, hvs⟩ := mapM_of_forall hall
      exact ⟨.array vs, map_eq_ok_iff.mpr ⟨vs, hvs, rfl⟩⟩
  | fields list =>
    rw [assemble, Host.decomposeUnder_isOk_iff, parts, List.forall_mem_map, Sound]
    constructor
    · rintro ⟨hd, hall⟩
      exact ⟨⟨fun e he => (hall e he).1, hd⟩, fun e he => (hall e he).2⟩
    · rintro ⟨⟨hkeys, hd⟩, hall⟩
      exact ⟨hd, fun e he => ⟨hkeys e he, hall e he⟩⟩
  | stands h =>
    rw [assemble, parts, List.forall_mem_singleton]
    exact (and_iff_right trivial).symm

/-- A layer is not assembled where there is a first defect in it, and has this one. -/
theorem assemble_eq_error_iff {e : DecomposeError} :
    contents.assemble = .error e ↔
      contents.First (fun x => ∃ v, x.decompose = .ok v) (fun x d => x.decompose = .error d) e := by
  cases contents with
  | form v => exact ⟨nofun, nofun⟩
  | nothing d =>
    constructor
    · intro h
      cases h
      exact .nothing _
    · intro h
      cases h
      rfl
  | elements items =>
    rw [assemble, map_eq_error_iff, mapM_eq_error_iff]
    constructor
    · rintro ⟨before, x, after, rfl, hearlier, hx⟩
      exact .element hearlier hx
    · intro h
      cases h with
      | element hearlier hx => exact ⟨_, _, _, rfl, hearlier, hx⟩
  | fields list =>
    rw [assemble, Host.decomposeUnder_eq_error_iff]
    constructor
    · rintro (⟨before, f, after, rfl, hearlier, ⟨hkey, rfl⟩ | ⟨hkey, hx⟩⟩ | ⟨hall, hd, rfl⟩)
      · exact .key hearlier hkey
      · exact .value hearlier hkey hx
      · exact .repeatedKey hall hd
    · intro h
      cases h with
      | key hearlier hkey => exact .inl ⟨_, _, _, rfl, hearlier, .inl ⟨hkey, rfl⟩⟩
      | value hearlier hkey hx => exact .inl ⟨_, _, _, rfl, hearlier, .inr ⟨hkey, hx⟩⟩
      | repeatedKey hall hd => exact .inr ⟨hall, hd, rfl⟩
  | stands h =>
    constructor
    · exact fun hx => .stands hx
    · intro hfirst
      cases hfirst with
      | stands hx => exact hx

/-- A layer is assembled of what mirrors it. -/
theorem mirrors_of_assemble {v : Structured} (h : contents.assemble = .ok v) :
    Mirrors contents v := by
  cases contents with
  | form u =>
    cases h
    exact .form v
  | nothing e => cases h
  | elements items =>
    obtain ⟨vs, hvs, rfl⟩ := map_eq_ok_iff.mp h
    exact .elements (mapM_eq_ok_iff.mp hvs)
  | fields list =>
    obtain ⟨-, us, rfl, hnamed⟩ := Host.decomposeUnder_eq_ok_iff.mp h
    exact .fields (hnamed.imp fun e u hu => ⟨hu.1, hu.2.2⟩)
  | stands x => exact .stands h

end Assemble

/-- The first defect of a layer goes by what is said of its parts only. -/
theorem First.imp {sound sound' : Host → Prop} {first first' : Host → DecomposeError → Prop}
    {contents : Contents} {e : DecomposeError} (hs : ∀ x ∈ contents.parts, sound x → sound' x)
    (hf : ∀ x ∈ contents.parts, ∀ d, first x d → first' x d)
    (h : contents.First sound first e) : contents.First sound' first' e := by
  cases h with
  | nothing => exact .nothing e
  | element hearlier hx =>
    refine .element (fun y hy => hs y ?_ (hearlier y hy)) (hf _ ?_ e hx)
    · exact List.mem_append_left _ hy
    · exact List.mem_append_right _ List.mem_cons_self
  | key hearlier hkey =>
    refine .key (fun g hg => ⟨(hearlier g hg).1, hs g.2 ?_ (hearlier g hg).2⟩) hkey
    exact List.mem_map_of_mem (List.mem_append_left _ hg)
  | value hearlier hkey hx =>
    refine .value (fun g hg => ⟨(hearlier g hg).1, hs g.2 ?_ (hearlier g hg).2⟩) hkey
      (hf _ ?_ e hx)
    · exact List.mem_map_of_mem (List.mem_append_left _ hg)
    · exact List.mem_map_of_mem (List.mem_append_right _ List.mem_cons_self)
  | repeatedKey hall hd =>
    exact .repeatedKey
      (fun f hf => ⟨(hall f hf).1, hs f.2 (List.mem_map_of_mem hf) (hall f hf).2⟩) hd
  | stands hx => exact .stands (hf _ List.mem_cons_self e hx)

end Contents

namespace Host

variable {c : Host → Contents}

/-- A value is reached from another, part by part. -/
inductive Reaches (c : Host → Contents) : Host → Host → Prop
  | here (h : Host) : Reaches c h h
  | inside {h x y : Host} (hx : x ∈ (c h).parts) (further : Reaches c x y) : Reaches c h y

/-- Whether there is no defect in a value and whatever is reached from it. -/
def Representable (c : Host → Contents) (h : Host) : Prop :=
  ∀ x, Reaches c h x → (c x).Sound

/-- A defect is the first one of a value in reading order: it is the first one of the
value's layer, going by the first defects of its parts. -/
inductive FirstDefect (c : Host → Contents) : Host → DecomposeError → Prop
  | layer {h : Host} {e : DecomposeError}
      (first : (c h).First (Representable c) (FirstDefect c) e) : FirstDefect c h e

/-- What decomposition makes of a value, told from what is reached in it. -/
structure Characterized (c : Host → Contents) (h : Host) : Prop where
  /-- There is a structured value if and only if there is no defect. -/
  succeeds : (∃ v, h.decompose = .ok v) ↔ Representable c h
  /-- The first defect is reported. -/
  fails : ∀ e, h.decompose = .error e ↔ FirstDefect c h e
  /-- What is decomposed mirrors what it is made of. -/
  mirrors : ∀ x v, Reaches c h x → x.decompose = .ok v → (c x).Mirrors v

/-- What is true of everything that is reached from a value is true of the value and of
everything that is reached from its parts. -/
theorem forall_reaches_iff {P : Host → Prop} {h : Host} :
    (∀ y, Reaches c h y → P y) ↔ P h ∧ ∀ x ∈ (c h).parts, ∀ y, Reaches c x y → P y := by
  constructor
  · exact fun hall => ⟨hall h (.here h), fun x hx y hy => hall y (.inside hx hy)⟩
  · rintro ⟨hown, hparts⟩ y hy
    cases hy with
    | here => exact hown
    | inside hx further => exact hparts _ hx y further

/-- A value that is founded is characterized, where whatever is reached in it decomposes as
it is assembled. -/
theorem characterized_of_acc {h : Host} (hacc : Acc (PartOf c) h)
    (heq : ∀ x, Reaches c h x → x.decompose = (c x).assemble) : Characterized c h := by
  induction hacc with
  | intro h _ ih =>
    have hown : h.decompose = (c h).assemble := heq h (.here h)
    have hparts : ∀ x ∈ (c h).parts, Characterized c x :=
      fun x hx => ih x hx fun y hy => heq y (.inside hx hy)
    refine ⟨?_, fun e => ?_, fun x v hx hv => ?_⟩
    · rw [hown, Contents.assemble_isOk_iff, Representable, forall_reaches_iff]
      exact and_congr_right fun _ => forall₂_congr fun x hx => (hparts x hx).succeeds
    · rw [hown, Contents.assemble_eq_error_iff]
      constructor
      · exact fun hfirst => .layer <| hfirst.imp (fun x hx => (hparts x hx).succeeds.mp)
          fun x hx d => ((hparts x hx).fails d).mp
      · rintro ⟨hfirst⟩
        exact hfirst.imp (fun x hx => (hparts x hx).succeeds.mpr)
          fun x hx d => ((hparts x hx).fails d).mpr
    · rw [heq x hx] at hv
      exact Contents.mirrors_of_assemble hv

/-- Every value is characterized by what is reached in it, what a model is flattened to
standing in the model's place. -/
theorem characterized_flat (h : Host) : Characterized flatContents h :=
  characterized_of_acc (acc_flat_steps.value h).1 fun x _ => decompose_eq_assemble_flat x

/-- Every value is characterized by what is reached in it, what a model is flattened to
standing in the model's place; and with models read as records, if flattening leaves alone
the values in every model that is reached. -/
theorem decompose_characterized (h : Host) :
    Characterized flatContents h ∧
      ((∀ m, Reaches contents h m → m.isModel = true → ∀ x ∈ m.contents.parts, x.Unaltered) →
        Characterized contents h) := by
  constructor
  · exact characterized_flat h
  · intro hu
    exact characterized_of_acc (acc_contents_steps.value h)
      fun x hx => decompose_eq_assemble (hu x hx)

/-- A model, then a mapping with two keys of one text beside a private attribute, then
bytes. -/
def defectiveHost : Host :=
  .list [.record .model [("x", .int 1)],
    .record .object [("_raw", .binary .fixed []),
      ("m", .mapping .plain [(.int 1, .null), (.string "1", .null)])],
    .binary .fixed []]

/-- The repeated key is the first defect of it. -/
theorem decompose_characterized_defective :
    Characterized contents defectiveHost ∧ FirstDefect contents defectiveHost .repeatedKey := by
  have hone : (Host.int 1).Unaltered := .kept rfl rfl
  have hnone : ∀ x ∈ ([] : List Host), ∀ m, Reaches contents x m → m.isModel = true →
      ∀ y ∈ m.contents.parts, y.Unaltered := nofun
  have hchar := (decompose_characterized defectiveHost).2 <| by
    refine forall_reaches_iff.mpr ⟨nofun, List.forall_mem_cons.mpr ⟨?_, ?_⟩⟩
    · refine forall_reaches_iff.mpr ⟨fun _ => List.forall_mem_singleton.mpr hone, ?_⟩
      exact List.forall_mem_singleton.mpr (forall_reaches_iff.mpr ⟨nofun, hnone⟩)
    · refine List.forall_mem_cons.mpr ⟨?_, List.forall_mem_singleton.mpr ?_⟩
      · refine forall_reaches_iff.mpr ⟨nofun, List.forall_mem_singleton.mpr ?_⟩
        refine forall_reaches_iff.mpr ⟨nofun, List.forall_mem_cons.mpr ⟨?_, ?_⟩⟩
        · exact forall_reaches_iff.mpr ⟨nofun, hnone⟩
        · exact List.forall_mem_singleton.mpr (forall_reaches_iff.mpr ⟨nofun, hnone⟩)
      · exact forall_reaches_iff.mpr ⟨nofun, hnone⟩
  exact ⟨hchar, (hchar.fails .repeatedKey).mp rfl⟩

/-- A model with a field that has no structured form. -/
def ratioModel : Host :=
  .record .model [("f", .fraction (1 / 2))]

/-- It decomposes all the same, though the first defect among its fields is there. -/
theorem not_characterized_ratioModel :
    ratioModel.decompose = .ok (.object [("f", .string (fractionText (1 / 2)))]) ∧
      FirstDefect contents ratioModel (.unsupported "Fraction") ∧
      ¬ Characterized contents ratioModel := by
  have hflat : flattenDefect? (.fraction (1 / 2)) = none := by decide +kernel
  have hok : ratioModel.decompose = .ok (.object [("f", .string (fractionText (1 / 2)))]) := by
    rw [decompose, ratioModel, decomposeIn, flattenDefectFields?, hflat]
    rfl
  have hfirst : FirstDefect contents ratioModel (.unsupported "Fraction") :=
    .layer (@Contents.First.value _ _ [] [] (.string "f", .fraction (1 / 2)) _
      (fun g hg => absurd hg List.not_mem_nil) rfl (.layer (.nothing _)))
  refine ⟨hok, hfirst, fun hchar => ?_⟩
  cases hok.symm.trans ((hchar.fails _).mpr hfirst)

end Host

end LiveSession
