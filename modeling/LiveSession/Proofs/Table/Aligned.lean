import LiveSession.Proofs.Table.Schema
import Mathlib.Data.List.Permutation

/-!
# Aligned tables

A table is aligned to rows when its headers are the columns of the rows,
strictly sorted by name, and each row has one cell for each header: the very
cell that it carries there, or a null where it carries none. An inferred table
is aligned to the rows of its value, whatever rows are mixed.
-/

namespace LiveSession.Table

/-- The cells of a row under headers: each cell that the row carries stands once,
under its name and with the type of its column, and nulls stand elsewhere. -/
structure RowAligned (headers : List Header) (row : Structured) (cells : List Structured) :
    Prop where
  size : cells.length = headers.length
  carried : ∀ (i : Nat) (header : Header) (cell : Structured), headers[i]? = some header →
    row.Carries header.name cell → cells[i]? = some cell ∧ cell.classify = .ok header.type
  missing : ∀ (i : Nat) (header : Header), headers[i]? = some header →
    (∀ cell, ¬ row.Carries header.name cell) → cells[i]? = some .null
  once : ∀ (name : String) (cell : Structured), row.Carries name cell →
    ∃! i : Nat, ∃ header, headers[i]? = some header ∧ header.name = name ∧ cells[i]? = some cell

/-- A table whose headers are the columns of rows, and whose data are the cells
of the rows under them. -/
structure Aligned (rows : List Structured) (t : Table) : Prop where
  sorted : (t.headers.map Header.name).Pairwise (· < ·)
  named : ∀ name, name ∈ t.headers.map Header.name ↔ ∃ row ∈ rows, ∃ cell, row.Carries name cell
  size : t.data.length = rows.length
  row : ∀ (i : Nat) (row : Structured) (cells : List Structured), rows[i]? = some row →
    t.data[i]? = some cells → RowAligned t.headers row cells

/-- Under a header stands the cell that the row has there, or a null. -/
theorem getElem?_alignRow (headers : List Header) (row : Structured) (i : Nat) :
    (alignRow headers row)[i]? = headers[i]?.map fun h => (row.cell? h.name).getD .null :=
  List.getElem?_map

/-- Headers with distinct names stand in different places. -/
theorem header_place_unique {headers : List Header}
    (hs : (headers.map Header.name).Pairwise (· < ·)) {i j : Nat} {header header' : Header}
    (hi : headers[i]? = some header) (hj : headers[j]? = some header')
    (hname : header.name = header'.name) : i = j := by
  have hnodup : (headers.map Header.name).Nodup := by
    refine hs.imp fun {a b} hlt heq => ?_
    subst heq
    exact String.lt_irrefl a hlt
  have hlt : i < (headers.map Header.name).length := by
    rw [List.length_map]
    exact (List.getElem?_eq_some_iff.mp hi).1
  refine (List.getElem?_inj hlt hnodup).mp ?_
  rw [List.getElem?_map, List.getElem?_map, hi, hj, Option.map_some, Option.map_some, hname]

/-- The headers of described cells are named after their columns. -/
theorem Describes.names {registry : Registry} {cells : List (String × Structured)}
    (h : Describes registry cells) (name : String) :
    name ∈ (headersOf registry).map Header.name ↔ ∃ cell, (name, cell) ∈ cells := by
  constructor
  · intro hmem
    obtain ⟨header, hheader, rfl⟩ := List.mem_map.mp hmem
    obtain ⟨cell, hcell, -⟩ := h.founded _ _ (mem_headersOf.mp hheader)
    exact ⟨cell, hcell⟩
  · rintro ⟨cell, hcell⟩
    obtain ⟨t, hlisted, -⟩ := h.typed name cell hcell
    exact List.mem_map.mpr ⟨⟨name, t⟩, mem_headersOf.mpr hlisted, rfl⟩

/-- A row with distinct keys is aligned to headers that describe its cells. -/
theorem Describes.rowAligned {registry : Registry} {cells : List (String × Structured)}
    (h : Describes registry cells) {row : Structured} (hd : row.HasDistinctKeys)
    (hrow : ∀ name cell, row.Carries name cell → (name, cell) ∈ cells) :
    RowAligned (headersOf registry) row (alignRow (headersOf registry) row) := by
  -- Sorted names are distinct: a cell stands in no second place.
  have hsorted : ((headersOf registry).map Header.name).Pairwise (· < ·) :=
    names_headersOf registry ▸ keys_sortFields_sorted h.distinct
  have hcarried : ∀ (i : Nat) (header : Header) (cell : Structured),
      (headersOf registry)[i]? = some header → row.Carries header.name cell →
        (alignRow (headersOf registry) row)[i]? = some cell := by
    intro i header cell hi hc
    rw [getElem?_alignRow, hi, Option.map_some, hd.cell?_eq_some.mpr hc, Option.getD_some]
  refine ⟨List.length_map _, fun i header cell hi hc => ⟨hcarried i header cell hi hc, ?_⟩,
    fun i header hi hnone => ?_, fun name cell hc => ?_⟩
  · obtain ⟨t, hlisted, ht⟩ := h.typed header.name cell (hrow _ _ hc)
    have hheader := mem_headersOf.mp (List.mem_of_getElem? hi)
    cases eq_of_keys_nodup h.distinct hlisted hheader rfl
    exact ht
  · rw [getElem?_alignRow, hi, Option.map_some]
    cases hcell : row.cell? header.name with
    | none => rfl
    | some cell => exact absurd (hd.cell?_eq_some.mp hcell) (hnone cell)
  · have hname := (h.names name).mpr ⟨cell, hrow _ _ hc⟩
    obtain ⟨header, hmem, rfl⟩ := List.mem_map.mp hname
    obtain ⟨i, hi⟩ := List.getElem?_of_mem hmem
    refine ⟨i, ⟨header, hi, rfl, hcarried i header cell hi hc⟩, ?_⟩
    rintro j ⟨header', hj, hname, -⟩
    exact header_place_unique hsorted hj hi hname

/-- An inferred table is aligned to the rows of its value, in whatever way arrays,
objects and other values are mixed among them. -/
theorem infer_aligned {v : Structured} {t : Table}
    (hd : ∀ row ∈ v.rows, row.HasDistinctKeys) (h : infer v = .ok t) : Aligned v.rows t := by
  obtain ⟨registry, hdescribes, hheaders, hdata⟩ := infer_eq_ok h
  refine ⟨?_, fun name => ?_, ?_, fun i row cells hrow hcells => ?_⟩
  · rw [hheaders, names_headersOf]
    exact keys_sortFields_sorted hdescribes.distinct
  · rw [hheaders, hdescribes.names]
    constructor
    · rintro ⟨cell, hcell⟩
      obtain ⟨row, hmem, hc⟩ := mem_cellsOf.mp hcell
      exact ⟨row, hmem, cell, hc⟩
    · rintro ⟨row, hmem, cell, hc⟩
      exact ⟨cell, mem_cellsOf.mpr ⟨row, hmem, hc⟩⟩
  · rw [hdata, List.length_map]
  · have hmem : row ∈ v.rows := List.mem_of_getElem? hrow
    rw [hdata, List.getElem?_map, hrow, Option.map_some] at hcells
    cases hcells
    rw [hheaders]
    exact hdescribes.rowAligned (hd row hmem) fun name cell hc => mem_cellsOf.mpr ⟨row, hmem, hc⟩

/-- Rows of all kinds: an array, an object that shares a column with it, a
number and an array without items. -/
def mixedRows : Structured :=
  .array [.array [.int 1, .string "x"],
    .object [("10", .bool true), ("0", .int 2), ("2", .null)], .int 3, .array []]

/-- Their table, in which `10` comes before `2`. -/
def mixedTable : Table :=
  ⟨[⟨"0", .bigint⟩, ⟨"1", .string⟩, ⟨"10", .boolean⟩, ⟨"2", .null⟩],
    [[.int 1, .string "x", .null, .null], [.int 2, .null, .bool true, .null],
      [.int 3, .null, .null, .null], [.null, .null, .null, .null]]⟩

/-- The table of rows of all kinds is aligned to them. -/
theorem infer_aligned_mixed :
    (∀ row ∈ mixedRows.rows, row.HasDistinctKeys) ∧ infer mixedRows = .ok mixedTable ∧
      Aligned mixedRows.rows mixedTable := by
  have hd : ∀ row ∈ mixedRows.rows, row.HasDistinctKeys := by
    intro row hmem fields hrow
    have hrows : mixedRows.rows = [.array [.int 1, .string "x"],
      .object [("10", .bool true), ("0", .int 2), ("2", .null)], .int 3, .array []] := rfl
    rw [hrows, hrow] at hmem
    simp only [List.mem_cons, reduceCtorEq, false_or, Structured.object.injEq, List.not_mem_nil,
      or_false] at hmem
    rw [hmem]
    rfl
  have h : infer mixedRows = .ok mixedTable := by cbv
  exact ⟨hd, h, infer_aligned hd h⟩

end LiveSession.Table
