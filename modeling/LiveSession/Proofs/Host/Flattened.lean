import LiveSession.Host.Flattened
import LiveSession.Proofs.Host.Steps

/-!
# Flattening part by part

Flattening goes through the parts of a value one by one, and so does the search for what
keeps it from being done.
-/

namespace LiveSession

namespace Host

section Parts

/-- Elements are flattened one by one. -/
theorem flattenedItems_eq (items : List Host) : flattenedItems items = items.map flattened := by
  induction items with
  | nil => rfl
  | cons h rest ih => exact congrArg (flattened h :: ·) ih

/-- Keys and values are flattened one by one. -/
theorem flattenedEntries_eq (entries : List (Host × Host)) :
    flattenedEntries entries = entries.map fun e => (flattened e.1, flattened e.2) := by
  induction entries with
  | nil => rfl
  | cons e rest ih => exact congrArg ((flattened e.1, flattened e.2) :: ·) ih

/-- Fields are flattened one by one. -/
theorem flattenedFields_eq (fields : List (String × Host)) :
    flattenedFields fields = fields.map fun f => (f.1, flattened f.2) := by
  induction fields with
  | nil => rfl
  | cons f rest ih => exact congrArg ((f.1, flattened f.2) :: ·) ih

/-- The records of parts of items are made one by one. -/
theorem flattenedPartItems_eq (items : List Structured) :
    flattenedPartItems items = items.map flattenedParts := by
  induction items with
  | nil => rfl
  | cons v rest ih => exact congrArg (flattenedParts v :: ·) ih

/-- The pairs of fields are made one by one. -/
theorem flattenedPartFields_eq (fields : List (String × Structured)) :
    flattenedPartFields fields =
      fields.map fun f => .sequence .tuple [.string f.1, flattenedParts f.2] := by
  induction fields with
  | nil => rfl
  | cons f rest ih => exact congrArg (.sequence .tuple [.string f.1, flattenedParts f.2] :: ·) ih

/-- A tuple loses its hash if some element of it does. -/
theorem losesHashItems_eq (items : List Host) : losesHashItems items = items.any losesHash := by
  induction items with
  | nil => rfl
  | cons h rest ih => exact congrArg (losesHash h || ·) ih

/-- The defect of a run is the first one among its elements. -/
theorem flattenDefectItems?_eq (items : List Host) :
    flattenDefectItems? items = items.findSome? flattenDefect? := by
  induction items with
  | nil => rfl
  | cons h rest ih =>
    rw [flattenDefectItems?, List.findSome?_cons, ih]
    cases flattenDefect? h <;> rfl

/-- Why an entry of a mapping cannot be flattened. -/
def flattenDefectPair? (e : Host × Host) : Option DecomposeError :=
  ((flattenDefect? e.1).or (flattenDefect? e.2)).or (memberDefect? (losesHash e.1))

/-- The defect of entries is the first one among them. -/
theorem flattenDefectEntries?_eq (entries : List (Host × Host)) :
    flattenDefectEntries? entries = entries.findSome? flattenDefectPair? := by
  induction entries with
  | nil => rfl
  | cons e rest ih =>
    rw [flattenDefectEntries?, List.findSome?_cons, ih, flattenDefectPair?]
    cases ((flattenDefect? e.1).or (flattenDefect? e.2)).or (memberDefect? (losesHash e.1)) <;> rfl

/-- The defect of fields is the first one among their values. -/
theorem flattenDefectFields?_eq (fields : List (String × Host)) :
    flattenDefectFields? fields = fields.findSome? fun f => flattenDefect? f.2 := by
  induction fields with
  | nil => rfl
  | cons f rest ih =>
    rw [flattenDefectFields?, List.findSome?_cons, ih]
    cases flattenDefect? f.2 <;> rfl

/-- The defect of an array is the first one among its parts. -/
theorem flattenDefectParts?_eq (items : List Structured) :
    flattenDefectParts? items = items.findSome? flattenDefectPart? := by
  induction items with
  | nil => rfl
  | cons v rest ih =>
    rw [flattenDefectParts?, List.findSome?_cons, ih]
    cases flattenDefectPart? v <;> rfl

/-- The defect of an object is the first one among its parts. -/
theorem flattenDefectPartFields?_eq (fields : List (String × Structured)) :
    flattenDefectPartFields? fields = fields.findSome? fun f => flattenDefectPart? f.2 := by
  induction fields with
  | nil => rfl
  | cons f rest ih =>
    rw [flattenDefectPartFields?, List.findSome?_cons, ih]
    cases flattenDefectPart? f.2 <;> rfl

end Parts

/-- Flattening a value without parts leaves none. -/
theorem layout_flattened_atom {h : Host} (ha : h.layout = .atom) : h.flattened.layout = .atom := by
  cases h <;> first | exact ha | rfl | cases ha

/-- Some member of a mapped list is of a kind if some member of the list is of the kind
that is mapped to it. -/
theorem any_map_of_mem {α β : Type} {g : α → β} {p : β → Bool} {q : α → Bool} {xs : List α}
    (h : ∀ x ∈ xs, p (g x) = q x) : (xs.map g).any p = xs.any q := by
  induction xs with
  | nil => rfl
  | cons x rest ih =>
    obtain ⟨hx, hrest⟩ := List.forall_mem_cons.mp h
    rw [List.map_cons, List.any_cons, List.any_cons, hx, ih hrest]

/-- The first find in a mapped list is the first find in the list, if in each member the
same is found. -/
theorem findSome?_map_of_mem {α β γ : Type} {g : α → β} {p : β → Option γ} {q : α → Option γ}
    {xs : List α} (h : ∀ x ∈ xs, p (g x) = q x) : (xs.map g).findSome? p = xs.findSome? q := by
  induction xs with
  | nil => rfl
  | cons x rest ih =>
    obtain ⟨hx, hrest⟩ := List.forall_mem_cons.mp h
    rw [List.map_cons, List.findSome?_cons, List.findSome?_cons, hx, ih hrest]

end Host

end LiveSession
