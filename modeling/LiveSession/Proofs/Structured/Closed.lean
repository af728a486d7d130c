import LiveSession.CanonicalType

/-!
# Closed values and their canonical types

Closedness goes down to every member of a container. A closed value may still
have no canonical type, but then only because two members of one container
have different types: there is no leaf in it that could have none.
-/

namespace LiveSession.Structured

/-- The items of a closed array are closed. -/
theorem isClosedList_iff {items : List Structured} :
    isClosedList items = true ↔ ∀ v ∈ items, v.isClosed = true := by
  induction items with
  | nil => exact ⟨(fun _ _ h => nomatch h), fun _ => rfl⟩
  | cons v rest ih => rw [isClosedList, Bool.and_eq_true, ih, List.forall_mem_cons]

/-- The field values of a closed object are closed. -/
theorem isClosedFields_iff {fields : List (String × Structured)} :
    isClosedFields fields = true ↔ ∀ field ∈ fields, field.2.isClosed = true := by
  induction fields with
  | nil => exact ⟨(fun _ _ h => nomatch h), fun _ => rfl⟩
  | cons field rest ih => rw [isClosedFields, Bool.and_eq_true, ih, List.forall_mem_cons]

/-- A closed array has closed items. -/
theorem isClosed_array {items : List Structured} :
    (array items).isClosed = true ↔ ∀ v ∈ items, v.isClosed = true := by
  rw [isClosed, isClosedList_iff]

/-- A closed object has distinct keys and closed values. -/
theorem isClosed_object {fields : List (String × Structured)} :
    (object fields).isClosed = true ↔
      distinctKeys fields = true ∧ ∀ field ∈ fields, field.2.isClosed = true := by
  rw [isClosed, Bool.and_eq_true, isClosedFields_iff]

/-- What holds of a container if it holds of all its members, and of every leaf
with a shape, holds of every closed value. -/
@[elab_as_elim]
theorem closedInduction {motive : (v : Structured) → v.isClosed = true → Prop}
    (null : motive .null rfl) (bool : ∀ b, motive (.bool b) rfl)
    (string : ∀ s, motive (.string s) rfl) (int : ∀ i, motive (.int i) rfl)
    (double : ∀ d, motive (.double d) rfl) (decimal : ∀ d, motive (.decimal d) rfl)
    (array : ∀ items hv, (∀ v (hmem : v ∈ items), motive v (isClosed_array.mp hv v hmem)) →
      motive (.array items) hv)
    (object : ∀ fields hv,
      (∀ field (hmem : field ∈ fields), motive field.2 ((isClosed_object.mp hv).2 field hmem)) →
      motive (.object fields) hv) :
    ∀ v hv, motive v hv
  | .null, _ => null
  | .bool b, _ => bool b
  | .string s, _ => string s
  | .int i, _ => int i
  | .double d, _ => double d
  | .decimal d, _ => decimal d
  | .array items, hv => array items hv fun v hmem =>
    closedInduction null bool string int double decimal array object v (isClosed_array.mp hv v hmem)
  | .object fields, hv => object fields hv fun (k, v) hmem =>
    closedInduction null bool string int double decimal array object v
      ((isClosed_object.mp hv).2 (k, v) hmem)
  | .shapeless, hv => nomatch hv
  | .foreign _, hv => nomatch hv
termination_by v => sizeOf v
decreasing_by
  · have hlt := List.sizeOf_lt_of_mem hmem
    rw [Structured.array.sizeOf_spec]
    omega
  · have hlt := List.sizeOf_lt_of_mem hmem
    rw [Prod.mk.sizeOf_spec] at hlt
    rw [Structured.object.sizeOf_spec]
    omega

/-- The fields of an object are compared as their values are. -/
theorem sameTypeFields_eq (fields : List (String × Structured))
    (expected : Option CanonicalType) :
    sameTypeFields expected fields = sameTypeItems expected (fields.map Prod.snd) := by
  induction fields generalizing expected with
  | nil => rw [List.map_nil, sameTypeFields, sameTypeItems]
  | cons field rest ih =>
    rw [List.map_cons, sameTypeFields.eq_def, sameTypeItems.eq_def]
    simp only [ih]

/-- Where members have no common type, two types are mixed or a member has none. -/
theorem sameTypeItems_error {items : List Structured} {expected : Option CanonicalType}
    {e : TypeMismatch} (h : sameTypeItems expected items = .error e) :
    e = .mixed ∨ ∃ v ∈ items, v.classify = .error e := by
  -- For every expected type, since the first item sets it for the rest.
  induction items generalizing expected with
  | nil =>
    rw [sameTypeItems] at h
    cases h
  | cons v rest ih =>
    have hrest : ∀ expected', sameTypeItems expected' rest = .error e →
        e = .mixed ∨ ∃ w ∈ v :: rest, w.classify = .error e := by
      intro expected' h'
      rcases ih h' with hmixed | ⟨w, hw, hclass⟩
      · exact .inl hmixed
      · exact .inr ⟨w, List.mem_cons_of_mem v hw, hclass⟩
    rw [sameTypeItems.eq_def] at h
    dsimp only at h
    split at h
    · next hclass =>
      cases h
      exact .inr ⟨v, List.mem_cons_self, hclass⟩
    · split at h
      · exact hrest _ h
      · split at h
        · exact hrest _ h
        · cases h
          exact .inl rfl

/-- A closed value without a canonical type mixes types in a container. -/
theorem classify_error {v : Structured} {e : TypeMismatch} (hv : v.isClosed = true)
    (h : v.classify = .error e) : e = .mixed := by
  induction v, hv using closedInduction with
  | array items hv ih =>
    rw [classify] at h
    split at h
    · cases h
    · next hitems =>
      cases h
      rcases sameTypeItems_error hitems with hmixed | ⟨v, hmem, hclass⟩
      · exact hmixed
      · exact ih v hmem hclass
  | object fields hv ih =>
    rw [classify] at h
    split at h
    · cases h
    · next hfields =>
      cases h
      rw [sameTypeFields_eq] at hfields
      rcases sameTypeItems_error hfields with hmixed | ⟨v, hmem, hclass⟩
      · exact hmixed
      · obtain ⟨field, hfield, rfl⟩ := List.mem_map.mp hmem
        exact ih field hfield hclass
  | _ =>
    rw [classify] at h
    cases h

end LiveSession.Structured
