import LiveSession.Proofs.Structured.Closed

/-!
# The values that have a canonical type

The constructor of a value names a type. A value is homogeneous when every node in
it has one of the eight shapes and the members of every container in it, at whatever
depth, have one constructor; those below the members may differ from one member to
the next. The values with a canonical type are the homogeneous ones, and the type is
the one that their constructor names. What is decided of a container depends on which
types its members have and on nothing else: not on their order, their number or
their keys.
-/

namespace LiveSession.Structured

/-- The type that the constructor of a value names, for the eight shapes. -/
def shape? : Structured → Option CanonicalType
  | .null => some .null
  | .bool _ => some .boolean
  | .string _ => some .string
  | .int _ => some .bigint
  | .double _ => some .double
  | .decimal _ => some .decimal
  | .array _ => some .array
  | .object _ => some .map
  | .shapeless => none
  | .foreign _ => none

/-- The items of an array and the field values of an object. -/
def members : Structured → List Structured
  | .array items => items
  | .object fields => fields.map Prod.snd
  | _ => []

/-- A node of a value: the value itself, or a node of one of its members. -/
inductive Within : Structured → Structured → Prop
  | itself (v : Structured) : Within v v
  | member {node m v : Structured} (hm : m ∈ v.members) (h : Within node m) : Within node v

/-- Every node has one of the eight shapes. -/
def Shaped (v : Structured) : Prop :=
  ∀ node, Within node v → node.shape?.isSome = true

/-- Every node has one of the eight shapes, and the members of each have one
constructor. -/
structure Homogeneous (v : Structured) : Prop where
  shaped : v.Shaped
  alike : ∀ node, Within node v → ∀ a ∈ node.members, ∀ b ∈ node.members, a.shape? = b.shape?

/-- Values that are made from each other by changing the order of items and of
fields, the keys, and how often containers have a member of the same type, at
whatever depth. -/
inductive Rearranged : Structured → Structured → Prop
  | refl (v : Structured) : Rearranged v v
  | symm {v w : Structured} (h : Rearranged v w) : Rearranged w v
  | trans {u v w : Structured} (h : Rearranged u v) (h' : Rearranged v w) : Rearranged u w
  | items {items items' : List Structured} (h : items.Perm items') :
      Rearranged (.array items) (.array items')
  | fields {fields fields' : List (String × Structured)} (h : fields.Perm fields') :
      Rearranged (.object fields) (.object fields')
  | keys {fields fields' : List (String × Structured)}
      (h : fields.map Prod.snd = fields'.map Prod.snd) :
      Rearranged (.object fields) (.object fields')
  | repeatItem {items : List Structured} {a b : Structured} (ha : a ∈ items)
      (h : a.classify = b.classify) : Rearranged (.array items) (.array (b :: items))
  | repeatField {fields : List (String × Structured)} {k k' : String} {a b : Structured}
      (ha : (k, a) ∈ fields) (h : a.classify = b.classify) :
      Rearranged (.object fields) (.object ((k', b) :: fields))
  | item {a b : Structured} (before after : List Structured) (h : Rearranged a b) :
      Rearranged (.array (before ++ a :: after)) (.array (before ++ b :: after))
  | field {a b : Structured} (before after : List (String × Structured)) (k : String)
      (h : Rearranged a b) :
      Rearranged (.object (before ++ (k, a) :: after)) (.object (before ++ (k, b) :: after))

section Members

variable {v m : Structured}

/-- A member is smaller than what it is a member of. -/
theorem sizeOf_lt_of_mem_members (h : m ∈ v.members) : sizeOf m < sizeOf v := by
  unfold members at h
  split at h
  · have hlt := List.sizeOf_lt_of_mem h
    rw [Structured.array.sizeOf_spec]
    omega
  · obtain ⟨⟨k, m⟩, hfield, rfl⟩ := List.mem_map.mp h
    have hlt := List.sizeOf_lt_of_mem hfield
    rw [Prod.mk.sizeOf_spec] at hlt
    rw [Structured.object.sizeOf_spec]
    dsimp only
    omega
  · cases h

/-- What holds of a value if it holds of all its members holds of every value. -/
@[elab_as_elim]
theorem membersInduction {motive : Structured → Prop}
    (step : ∀ v, (∀ m ∈ v.members, motive m) → motive v) (v : Structured) : motive v :=
  step v fun m _ => membersInduction step m
termination_by sizeOf v
decreasing_by exact sizeOf_lt_of_mem_members ‹_›

/-- Every node of a member is a node of the value. -/
theorem Shaped.member (h : v.Shaped) (hm : m ∈ v.members) : m.Shaped :=
  fun node hnode => h node (.member hm hnode)

/-- A member of a homogeneous value is homogeneous. -/
theorem Homogeneous.member (h : v.Homogeneous) (hm : m ∈ v.members) : m.Homogeneous where
  shaped := h.shaped.member hm
  alike node hnode := h.alike node (.member hm hnode)

/-- A value with a shape whose members are homogeneous and have one constructor is
homogeneous. -/
theorem homogeneous_of_members {t : CanonicalType} (hshape : v.shape? = some t)
    (hmembers : ∀ m ∈ v.members, m.Homogeneous)
    (halike : ∀ a ∈ v.members, ∀ b ∈ v.members, a.shape? = b.shape?) : v.Homogeneous where
  shaped node hnode := by
    cases hnode with
    | itself => rw [hshape, Option.isSome_some]
    | member hm h => exact (hmembers _ hm).shaped node h
  alike node hnode := by
    cases hnode with
    | itself => exact halike
    | member hm h => exact (hmembers _ hm).alike node h

end Members

/-- What is refused has no type. -/
theorem error_ne_ok {α : Type} {e : TypeMismatch} {a : α} :
    (.error e : Except TypeMismatch α) ≠ .ok a := by
  intro h
  cases h

/-- Items have the expected type if and only if each of them is of that type. -/
theorem sameTypeItems_some_iff {items : List Structured} {t : CanonicalType} :
    sameTypeItems (some t) items = .ok () ↔ ∀ m ∈ items, m.classify = .ok t := by
  induction items with
  | nil =>
    rw [sameTypeItems]
    exact ⟨fun _ m hm => absurd hm List.not_mem_nil, fun _ => rfl⟩
  | cons m rest ih =>
    rw [sameTypeItems.eq_def, List.forall_mem_cons]
    dsimp only
    cases hm : m.classify with
    | error e => exact iff_of_false error_ne_ok fun h => error_ne_ok h.1
    | ok u =>
      dsimp only
      split
      · next heq => rw [ih, heq, and_iff_right rfl]
      · next hne => exact iff_of_false error_ne_ok fun h => hne (Except.ok.inj h.1)

/-- Items have one type if and only if there is a type that each of them is of. -/
theorem sameTypeItems_none_iff {items : List Structured} :
    sameTypeItems none items = .ok () ↔ ∃ t, ∀ m ∈ items, m.classify = .ok t := by
  cases items with
  | nil =>
    rw [sameTypeItems]
    exact ⟨fun _ => ⟨.null, fun m hm => absurd hm List.not_mem_nil⟩, fun _ => rfl⟩
  | cons m rest =>
    rw [sameTypeItems.eq_def]
    dsimp only
    cases hm : m.classify with
    | error e =>
      refine iff_of_false error_ne_ok ?_
      rintro ⟨t, ht⟩
      rw [ht m List.mem_cons_self] at hm
      cases hm
    | ok u =>
      dsimp only
      rw [sameTypeItems_some_iff]
      constructor
      · exact fun h => ⟨u, List.forall_mem_cons.mpr ⟨hm, h⟩⟩
      · rintro ⟨t, ht⟩
        obtain ⟨hmt, hrest⟩ := List.forall_mem_cons.mp ht
        rw [hm] at hmt
        rwa [Except.ok.inj hmt]

section Classify

variable {v : Structured} {t : CanonicalType}

/-- A container has a type if and only if its members have one in common. -/
theorem container_eq_ok_iff {items : List Structured} {u : CanonicalType} :
    (match sameTypeItems none items with
      | .ok () => .ok u
      | .error e => .error e : Except TypeMismatch CanonicalType) = .ok t ↔
      some u = some t ∧ ∃ t, ∀ m ∈ items, m.classify = .ok t := by
  rw [← sameTypeItems_none_iff, Option.some_inj]
  cases sameTypeItems none items with
  | ok _ => exact ⟨fun h => ⟨Except.ok.inj h, rfl⟩, fun h => congrArg Except.ok h.1⟩
  | error e => exact iff_of_false error_ne_ok fun h => error_ne_ok h.2

/-- A leaf with a shape has the type that its constructor names. -/
theorem leaf_eq_ok_iff {u : CanonicalType} :
    (.ok u : Except TypeMismatch CanonicalType) = .ok t ↔
      some u = some t ∧ ∃ t, ∀ m ∈ ([] : List Structured), m.classify = .ok t := by
  rw [Except.ok.injEq, Option.some_inj]
  exact ⟨fun h => ⟨h, t, fun m hm => absurd hm List.not_mem_nil⟩, And.left⟩

/-- A value has the type that its constructor names, if there is a type that each
of its members is of. -/
theorem classify_eq_ok_iff :
    v.classify = .ok t ↔ v.shape? = some t ∧ ∃ u, ∀ m ∈ v.members, m.classify = .ok u := by
  cases v with
  | array items =>
    rw [classify]
    exact container_eq_ok_iff
  | object fields =>
    rw [classify, sameTypeFields_eq]
    exact container_eq_ok_iff
  | shapeless =>
    rw [classify]
    exact iff_of_false error_ne_ok fun h => Option.some_ne_none t h.1.symm
  | foreign h =>
    rw [classify]
    exact iff_of_false error_ne_ok fun h => Option.some_ne_none t h.1.symm
  | _ =>
    rw [classify]
    exact leaf_eq_ok_iff

/-- The values with a type are the homogeneous ones, and the type is the one that
the constructor names. -/
theorem classify_eq_ok_iff_homogeneous :
    v.classify = .ok t ↔ v.Homogeneous ∧ v.shape? = some t := by
  induction v using membersInduction generalizing t with
  | step v ih =>
    rw [classify_eq_ok_iff]
    constructor
    · rintro ⟨hshape, u, hu⟩
      have hmembers : ∀ m ∈ v.members, m.Homogeneous ∧ m.shape? = some u :=
        fun m hm => (ih m hm).mp (hu m hm)
      refine ⟨homogeneous_of_members hshape (fun m hm => (hmembers m hm).1) fun a ha b hb => ?_,
        hshape⟩
      rw [(hmembers a ha).2, (hmembers b hb).2]
    · rintro ⟨hv, hshape⟩
      refine ⟨hshape, ?_⟩
      -- The first member, if there is one, settles the type of all of them.
      cases hlist : v.members with
      | nil => exact ⟨t, fun m hm => absurd hm List.not_mem_nil⟩
      | cons first rest =>
        have hfirst : first ∈ v.members := by
          rw [hlist]
          exact List.mem_cons_self
        obtain ⟨u, hu⟩ := Option.isSome_iff_exists.mp
          (hv.shaped first (.member hfirst (.itself first)))
        refine ⟨u, fun m hm => ?_⟩
        rw [← hlist] at hm
        exact (ih m hm).mpr
          ⟨hv.member hm, (hv.alike v (.itself v) m hm first hfirst).trans hu⟩

/-- Where every node has a shape, the only defect is that types are mixed. -/
theorem Shaped.classify_error {e : TypeMismatch} (hv : v.Shaped) (h : v.classify = .error e) :
    e = .mixed := by
  induction v using membersInduction with
  | step v ih =>
    have hitems : sameTypeItems none v.members = .error e → e = .mixed := by
      intro hsame
      rcases sameTypeItems_error hsame with hmixed | ⟨m, hm, hclass⟩
      · exact hmixed
      · exact ih m hm (hv.member hm) hclass
    have hroot := hv v (.itself v)
    cases v with
    | array items =>
      rw [classify] at h
      split at h
      · cases h
      · next hsame =>
        cases h
        exact hitems hsame
    | object fields =>
      rw [classify, sameTypeFields_eq] at h
      split at h
      · cases h
      · next hsame =>
        cases h
        exact hitems hsame
    | shapeless => cases hroot
    | foreign host => cases hroot
    | _ =>
      rw [classify] at h
      cases h

end Classify

section Rearranged

variable {v w : Structured} {t : CanonicalType}

/-- Two values of one shape have the same type where any one type is common to the
members of the one if it is common to those of the other. -/
theorem classify_congr (hshape : v.shape? = w.shape?)
    (hmembers : ∀ u, (∀ m ∈ v.members, m.classify = .ok u) ↔ ∀ m ∈ w.members, m.classify = .ok u) :
    v.classify = .ok t ↔ w.classify = .ok t := by
  rw [classify_eq_ok_iff, classify_eq_ok_iff, hshape, exists_congr hmembers]

/-- A member of the same type as another makes no difference to a common type. -/
theorem forall_mem_cons_of_classify_eq {items : List Structured} {a b : Structured}
    {u : CanonicalType} (ha : a ∈ items) (h : a.classify = b.classify) :
    (∀ m ∈ items, m.classify = .ok u) ↔ ∀ m ∈ b :: items, m.classify = .ok u := by
  rw [List.forall_mem_cons]
  exact ⟨fun hall => ⟨h ▸ hall a ha, hall⟩, And.right⟩

/-- A member may be exchanged for another one that is of the same types. -/
theorem forall_mem_insert_congr {before after : List Structured} {a b : Structured}
    {u : CanonicalType} (h : a.classify = .ok u ↔ b.classify = .ok u) :
    (∀ m ∈ before ++ a :: after, m.classify = .ok u) ↔
      ∀ m ∈ before ++ b :: after, m.classify = .ok u := by
  simp only [List.forall_mem_append, List.forall_mem_cons, h]

/-- Rearranged values have the same type, if they have one. -/
theorem Rearranged.classify_iff (h : Rearranged v w) :
    v.classify = .ok t ↔ w.classify = .ok t := by
  induction h generalizing t with
  | refl v => exact Iff.rfl
  | symm _ ih => exact ih.symm
  | trans _ _ ih ih' => exact ih.trans ih'
  | items h =>
    refine classify_congr rfl fun u => forall_congr' fun m => ?_
    rw [members, members, h.mem_iff]
  | fields h =>
    refine classify_congr rfl fun u => forall_congr' fun m => ?_
    rw [members, members, (h.map Prod.snd).mem_iff]
  | keys h => exact classify_congr rfl fun u => by rw [members, members, h]
  | repeatItem ha h => exact classify_congr rfl fun u => forall_mem_cons_of_classify_eq ha h
  | repeatField ha h =>
    exact classify_congr rfl fun u =>
      forall_mem_cons_of_classify_eq (List.mem_map_of_mem (f := Prod.snd) ha) h
  | item before after _ ih => exact classify_congr rfl fun u => forall_mem_insert_congr ih
  | field before after k _ ih =>
    refine classify_congr rfl fun u => ?_
    rw [members, members, List.map_append, List.map_append]
    exact forall_mem_insert_congr ih

/-- Rearranged values with a shape at every node are treated alike. -/
theorem Rearranged.classify_eq (h : Rearranged v w) (hv : v.Shaped) (hw : w.Shaped) :
    v.classify = w.classify := by
  cases hcv : v.classify with
  | ok t => exact (h.classify_iff.mp hcv).symm
  | error e =>
    cases hcw : w.classify with
    | ok t =>
      rw [h.classify_iff.mpr hcw] at hcv
      cases hcv
    | error e' => rw [hv.classify_error hcv, hw.classify_error hcw]

end Rearranged

/-- A value has a canonical type if and only if it is homogeneous: every node has a
shape, and the members of every container in it have one constructor. The type is
the one that the constructor of the value names. Where every node has a shape, a
value is refused only for mixed types. Neither the order of items or fields nor the
keys nor how often a container has a member of the same type make a difference, at
whatever depth. -/
theorem classify_characterized (v : Structured) :
    (∀ t, v.classify = .ok t ↔ v.Homogeneous ∧ v.shape? = some t) ∧
    (v.Shaped → ∀ e, v.classify = .error e → e = .mixed) ∧
    (∀ w, Rearranged v w →
      (∀ t, v.classify = .ok t ↔ w.classify = .ok t) ∧
        (v.Shaped → w.Shaped → v.classify = w.classify)) :=
  ⟨fun _ => classify_eq_ok_iff_homogeneous, fun hv _ => hv.classify_error,
    fun _ h => ⟨fun _ => h.classify_iff, h.classify_eq⟩⟩

end LiveSession.Structured
