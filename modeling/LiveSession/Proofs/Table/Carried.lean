import LiveSession.Proofs.Table.Fields

/-!
# The cells that a row carries

A row carries its items under their positions if it is an array, its fields
under their keys if it is an object, and itself under `0` if it is neither. The
named cells of a row are these, whatever order they are listed in; where the
keys of an object are distinct, a row carries at most one cell under a name.
-/

namespace LiveSession

namespace Text

/-- Different numbers are written differently. -/
theorem decimalText_inj {m n : Nat} (h : decimalText m = decimalText n) : m = n := by
  have hdigits : Nat.toDigits 10 m = Nat.toDigits 10 n := String.ofList_injective h
  calc
    m = Nat.ofDigitChars 10 (Nat.toDigits 10 m) 0 := Nat.ofDigitChars_ten_toDigits.symm
    _ = Nat.ofDigitChars 10 (Nat.toDigits 10 n) 0 := by rw [hdigits]
    _ = n := Nat.ofDigitChars_ten_toDigits

end Text

/-- A column has the decimal text of its position for a name. -/
theorem mem_positionalColumns {items : List Structured} {first : Nat} {name : String}
    {cell : Structured} :
    (name, cell) ∈ positionalColumns first items ↔
      ∃ i, items[i]? = some cell ∧ name = Text.decimalText (first + i) := by
  induction items generalizing first with
  | nil =>
    refine ⟨(fun h => nomatch h), fun ⟨i, h, _⟩ => ?_⟩
    rw [List.getElem?_nil] at h
    cases h
  | cons item rest ih =>
    rw [positionalColumns, List.mem_cons, ih]
    constructor
    · rintro (h | ⟨i, hi, hname⟩)
      · cases h
        exact ⟨0, rfl, rfl⟩
      · exact ⟨i + 1, hi, by rw [hname, Nat.add_assoc, Nat.add_comm 1 i]⟩
    · rintro ⟨i, hi, hname⟩
      cases i with
      | zero =>
        rw [List.getElem?_cons_zero] at hi
        cases hi
        exact .inl (Prod.ext hname rfl)
      | succ i =>
        exact .inr ⟨i, hi, by rw [hname, Nat.add_assoc, Nat.add_comm 1 i]⟩

/-- The positions of an array are written differently. -/
theorem keys_positionalColumns_nodup (items : List Structured) (first : Nat) :
    (Assoc.keys (positionalColumns first items)).Nodup := by
  induction items generalizing first with
  | nil => exact List.nodup_nil
  | cons item rest ih =>
    refine List.nodup_cons.mpr ⟨fun hmem => ?_, ih (first + 1)⟩
    obtain ⟨⟨name, cell⟩, hcell, hname⟩ := List.mem_map.mp hmem
    obtain ⟨i, -, hi⟩ := mem_positionalColumns.mp hcell
    have hsame : first + 1 + i = first := Text.decimalText_inj (hi.symm.trans hname)
    omega

namespace Structured

/-- A row carries a cell under the name of a column. -/
inductive Carries : Structured → String → Structured → Prop
  | item {items : List Structured} {i : Nat} {cell : Structured} (h : items[i]? = some cell) :
      Carries (.array items) (Text.decimalText i) cell
  | field {fields : List (String × Structured)} {name : String} {cell : Structured}
      (h : (name, cell) ∈ fields) : Carries (.object fields) name cell
  | itself {row : Structured} (ha : ∀ items, row ≠ .array items)
      (ho : ∀ fields, row ≠ .object fields) : Carries row "0" row

/-- An array carries its items. -/
theorem carries_array {items : List Structured} {name : String} {cell : Structured} :
    Carries (.array items) name cell ↔
      ∃ i, items[i]? = some cell ∧ name = Text.decimalText i := by
  constructor
  · intro h
    cases h with
    | item h => exact ⟨_, h, rfl⟩
    | itself ha _ => exact absurd rfl (ha items)
  · rintro ⟨i, h, rfl⟩
    exact .item h

/-- An object carries its fields. -/
theorem carries_object {fields : List (String × Structured)} {name : String}
    {cell : Structured} : Carries (.object fields) name cell ↔ (name, cell) ∈ fields := by
  constructor
  · intro h
    cases h with
    | field h => exact h
    | itself _ ho => exact absurd rfl (ho fields)
  · exact .field

/-- A row that is neither array nor object carries itself. -/
theorem carries_scalar {row : Structured} (ha : ∀ items, row ≠ .array items)
    (ho : ∀ fields, row ≠ .object fields) {name : String} {cell : Structured} :
    Carries row name cell ↔ name = "0" ∧ cell = row := by
  constructor
  · intro h
    cases h with
    | item h => exact absurd rfl (ha _)
    | field h => exact absurd rfl (ho _)
    | itself => exact ⟨rfl, rfl⟩
  · rintro ⟨rfl, rfl⟩
    exact .itself ha ho

/-- The named cells of a row are those that it carries. -/
theorem mem_rowColumns {row : Structured} {name : String} {cell : Structured} :
    (name, cell) ∈ row.rowColumns ↔ row.Carries name cell := by
  unfold rowColumns
  split
  · rw [mem_positionalColumns, carries_array]
    simp only [Nat.zero_add]
  · rw [carries_object]
    exact (sortFields_perm _).mem_iff
  · next ha ho =>
    rw [carries_scalar (fun items h => ha items h) (fun fields h => ho fields h),
      List.mem_singleton, Prod.mk.injEq]

/-- The cell of a row in a column is one that the row carries. -/
theorem carries_of_cell? {row cell : Structured} {name : String}
    (h : row.cell? name = some cell) : row.Carries name cell :=
  mem_rowColumns.mp (Assoc.mem_of_find? h)

/-- A row has no cell in a column if and only if it carries none there. -/
theorem cell?_eq_none {row : Structured} {name : String} :
    row.cell? name = none ↔ ∀ cell, ¬ row.Carries name cell := by
  constructor
  · intro h cell hc
    have hkey : name ∈ Assoc.keys row.rowColumns :=
      List.mem_map.mpr ⟨(name, cell), mem_rowColumns.mpr hc, rfl⟩
    exact Assoc.not_mem_keys_of_find? h hkey
  · intro h
    cases hc : row.cell? name with
    | none => rfl
    | some cell => exact absurd (carries_of_cell? hc) (h cell)

/-- A row whose keys are distinct, if it is an object. -/
def HasDistinctKeys (row : Structured) : Prop :=
  ∀ fields, row = .object fields → distinctKeys fields = true

/-- The columns of a row with distinct keys are distinct. -/
theorem HasDistinctKeys.keys_rowColumns {row : Structured} (hd : row.HasDistinctKeys) :
    (Assoc.keys row.rowColumns).Nodup := by
  unfold rowColumns
  split
  · exact keys_positionalColumns_nodup _ 0
  · next fields => exact keys_sortFields_nodup ((distinctKeys_iff fields).mp (hd fields rfl))
  · exact List.pairwise_singleton _ _

/-- The cell of a row in a column is the one that the row carries. -/
theorem HasDistinctKeys.cell?_eq_some {row : Structured} (hd : row.HasDistinctKeys)
    {name : String} {cell : Structured} : row.cell? name = some cell ↔ row.Carries name cell := by
  rw [← mem_rowColumns]
  exact ⟨Assoc.mem_of_find?, Assoc.find?_of_mem hd.keys_rowColumns⟩

end Structured

end LiveSession
