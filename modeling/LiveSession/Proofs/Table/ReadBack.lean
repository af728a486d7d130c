import LiveSession.Proofs.Table.Aligned

/-!
# Tables are read back

A null in a table can be a cell of its row, or it can stand where the row has none.
In a column of another type than the null one it always fills: a cell there would have
given the column its type. So the rows can be made again from the table alone, as one
object for each row of data, with the cells under the names of their headers and
without the nulls that fill. The table of these rows is the table.
-/

namespace LiveSession

/-- Whether a value is the null. -/
def Structured.isNull : Structured → Bool
  | .null => true
  | _ => false

/-- Only the null is one. -/
theorem Structured.isNull_iff {v : Structured} : v.isNull = true ↔ v = .null := by
  cases v <;> simp [isNull]

namespace Table

/-- Whether a cell under a header only fills the place of one that is missing. -/
def fills (header : Header) (cell : Structured) : Bool :=
  cell.isNull && header.type != .null

/-- The fields that cells under headers are read back as, in the order of the headers. -/
def fieldsOf (headers : List Header) (cells : List Structured) : List (String × Structured) :=
  ((headers.zip cells).filter fun x => !fills x.1 x.2).map fun x => (x.1.name, x.2)

/-- The rows that a table is read back as: an object for each row of its data. -/
def readBack (t : Table) : Structured :=
  .array (t.data.map fun cells => .object (fieldsOf t.headers cells))

/-- A cell does not fill if and only if it is no null or the column is one of nulls. -/
theorem not_fills_iff {header : Header} {cell : Structured} :
    (!fills header cell) = true ↔ (cell = .null → header.type = .null) := by
  unfold fills
  rw [Bool.not_eq_true', Bool.and_eq_false_iff, bne_eq_false_iff_eq, ← Bool.not_eq_true,
    Structured.isNull_iff]
  exact imp_iff_not_or.symm

/-- The cell that stands under a header for a row. -/
def cellUnder (row : Structured) (header : Header) : Structured :=
  (row.cell? header.name).getD .null

section Row

variable {headers : List Header} {row : Structured}

/-- An aligned row is read back as its cells that do not fill. -/
theorem fieldsOf_alignRow (headers : List Header) (row : Structured) :
    fieldsOf headers (alignRow headers row) =
      (headers.filter fun h => !fills h (cellUnder row h)).map
        fun h => (h.name, cellUnder row h) := by
  have hzip : headers.zip (alignRow headers row) = headers.map fun h => (h, cellUnder row h) := by
    have hmaps : (headers.map id).zip (headers.map (cellUnder row)) =
        headers.map fun h => (h, cellUnder row h) := List.zip_map'
    rwa [List.map_id] at hmaps
  unfold fieldsOf
  rw [hzip, List.filter_map, List.map_map]
  rfl

/-- A row is read back with the fields that it has a cell for that does not fill. -/
theorem mem_fieldsOf_alignRow {name : String} {cell : Structured} :
    (name, cell) ∈ fieldsOf headers (alignRow headers row) ↔
      ∃ header ∈ headers, header.name = name ∧ cellUnder row header = cell ∧
        (cell = .null → header.type = .null) := by
  rw [fieldsOf_alignRow, List.mem_map]
  constructor
  · rintro ⟨header, hmem, heq⟩
    cases heq
    obtain ⟨hheader, hkept⟩ := List.mem_filter.mp hmem
    exact ⟨header, hheader, rfl, rfl, not_fills_iff.mp hkept⟩
  · rintro ⟨header, hheader, rfl, rfl, hkept⟩
    exact ⟨header, List.mem_filter.mpr ⟨hheader, not_fills_iff.mpr hkept⟩, rfl⟩

/-- A row is read back with distinct keys, as headers have distinct names. -/
theorem hasDistinctKeys_fieldsOf (hn : (headers.map Header.name).Nodup) :
    (Structured.object (fieldsOf headers (alignRow headers row))).HasDistinctKeys := by
  rintro fields heq
  cases heq
  rw [distinctKeys_iff, fieldsOf_alignRow]
  unfold Assoc.keys
  rw [List.map_map]
  exact hn.sublist (List.filter_sublist.map Header.name)

/-- Under every header a row that was read back has the cell that stood there. -/
theorem cellUnder_fieldsOf (hn : (headers.map Header.name).Nodup) {header : Header}
    (hh : header ∈ headers) :
    cellUnder (.object (fieldsOf headers (alignRow headers row))) header =
      cellUnder row header := by
  by_cases hkept : cellUnder row header = .null → header.type = .null
  · have hmem : (header.name, cellUnder row header) ∈ fieldsOf headers (alignRow headers row) :=
      mem_fieldsOf_alignRow.mpr ⟨header, hh, rfl, rfl, hkept⟩
    have hcell := (hasDistinctKeys_fieldsOf hn).cell?_eq_some.mpr (.field hmem)
    rw [cellUnder, hcell, Option.getD_some]
  · -- The cell was left out, so it is null, and nothing else has its name.
    have hnull : cellUnder row header = .null := (Classical.not_imp.mp hkept).1
    have hnone : (Structured.object (fieldsOf headers (alignRow headers row))).cell?
        header.name = none := by
      refine Structured.cell?_eq_none.mpr fun cell hc => ?_
      obtain ⟨header', hh', hname, hcell, hkept'⟩ :=
        mem_fieldsOf_alignRow.mp (Structured.carries_object.mp hc)
      have hsame : header' = header := List.inj_on_of_nodup_map hn hh' hh hname
      subst hsame hcell
      exact hkept hkept'
    rw [cellUnder, hnone, Option.getD_none, hnull]

/-- A row that was read back is aligned as it was. -/
theorem alignRow_fieldsOf (hn : (headers.map Header.name).Nodup) :
    alignRow headers (.object (fieldsOf headers (alignRow headers row))) = alignRow headers row :=
  List.map_congr_left fun _ hh => cellUnder_fieldsOf hn hh

end Row

section Describes

variable {rows : List Structured} {registry : Registry}

/-- The headers of a registry that describes cells have distinct names. -/
theorem Describes.names_nodup {cells : List (String × Structured)}
    (h : Describes registry cells) : ((headersOf registry).map Header.name).Nodup := by
  rw [names_headersOf]
  exact keys_sortFields_nodup h.distinct

variable (h : Describes registry (cellsOf rows))

include h

/-- A cell of a row has the type of its header. -/
theorem Describes.classify_cell {row : Structured} (hrow : row ∈ rows) {header : Header}
    (hh : header ∈ headersOf registry) {cell : Structured} (hc : row.Carries header.name cell) :
    cell.classify = .ok header.type := by
  obtain ⟨t, hlisted, ht⟩ := h.typed header.name cell (mem_cellsOf.mpr ⟨row, hrow, hc⟩)
  cases eq_of_keys_nodup h.distinct hlisted (mem_headersOf.mp hh) rfl
  exact ht

/-- Where a null stands under a header of another type, the row has no cell. -/
theorem Describes.cellUnder_eq_null {row : Structured} (hrow : row ∈ rows) {header : Header}
    (hh : header ∈ headersOf registry) (ht : header.type ≠ .null) :
    cellUnder row header = .null ↔ ∀ cell, ¬ row.Carries header.name cell := by
  rw [← Structured.cell?_eq_none]
  unfold cellUnder
  cases hc : row.cell? header.name with
  | none => exact ⟨fun _ => rfl, fun _ => rfl⟩
  | some cell =>
    refine ⟨fun hnull => ?_, fun hnone => nomatch hnone⟩
    -- The null would have been classified, and would have given the column its type.
    have htype := h.classify_cell hrow hh (Structured.carries_of_cell? hc)
    rw [Option.getD_some] at hnull
    rw [hnull, Structured.classify] at htype
    exact absurd (Except.ok.inj htype).symm ht

/-- A cell that a row is read back with has the type of its header. -/
theorem Describes.classify_kept {row : Structured} (hrow : row ∈ rows) {header : Header}
    (hh : header ∈ headersOf registry)
    (hkept : cellUnder row header = .null → header.type = .null) :
    (cellUnder row header).classify = .ok header.type := by
  unfold cellUnder at hkept ⊢
  cases hc : row.cell? header.name with
  | none =>
    rw [hc] at hkept
    rw [Option.getD_none, Structured.classify, hkept rfl]
  | some cell => exact h.classify_cell hrow hh (Structured.carries_of_cell? hc)

/-- A registry of the cells of rows is one of the rows that are read back. -/
theorem Describes.readBack :
    Describes registry (cellsOf (rows.map fun row =>
      .object (fieldsOf (headersOf registry) (alignRow (headersOf registry) row)))) := by
  refine ⟨h.distinct, fun name cell hcell => ?_, fun name t hlisted => ?_⟩
  · obtain ⟨row', hrow', hc⟩ := mem_cellsOf.mp hcell
    obtain ⟨row, hrow, rfl⟩ := List.mem_map.mp hrow'
    obtain ⟨header, hh, rfl, rfl, hkept⟩ :=
      mem_fieldsOf_alignRow.mp (Structured.carries_object.mp hc)
    exact ⟨header.type, mem_headersOf.mp hh, h.classify_kept hrow hh hkept⟩
  · -- The column was opened by a real cell, and that one does not fill.
    obtain ⟨cell, hcell, -⟩ := h.founded name t hlisted
    obtain ⟨row, hrow, hc⟩ := mem_cellsOf.mp hcell
    have hh : (⟨name, t⟩ : Header) ∈ headersOf registry := mem_headersOf.mpr hlisted
    have hkept : cellUnder row ⟨name, t⟩ = .null → t = .null := by
      intro hnull
      by_contra ht
      exact (h.cellUnder_eq_null hrow hh ht).mp hnull cell hc
    exact ⟨cellUnder row ⟨name, t⟩,
      mem_cellsOf.mpr ⟨_, List.mem_map_of_mem hrow,
        .field (mem_fieldsOf_alignRow.mpr ⟨_, hh, rfl, rfl, hkept⟩)⟩,
      h.classify_kept hrow hh hkept⟩

end Describes

/-- Under a header that is not one of nulls, a null stands exactly for the rows that have
no cell there; and the rows that are made again without these nulls, one object for each
row of data, have the same table. -/
theorem infer_readBack {v : Structured} {t : Table} (h : infer v = .ok t) :
    (∀ (i : Nat) (row : Structured), v.rows[i]? = some row → ∃ cells, t.data[i]? = some cells ∧
      ∀ (k : Nat) (header : Header), t.headers[k]? = some header → header.type ≠ .null →
        ∃ cell, cells[k]? = some cell ∧
          (cell = .null ↔ ∀ c, ¬ row.Carries header.name c)) ∧
    infer t.readBack = .ok t := by
  obtain ⟨registry, hdescribes, hheaders, hdata⟩ := infer_eq_ok h
  refine ⟨fun i row hrow => ?_, ?_⟩
  · refine ⟨alignRow t.headers row, by rw [hdata, List.getElem?_map, hrow, Option.map_some],
      fun k header hk ht => ⟨cellUnder row header, ?_, ?_⟩⟩
    · rw [getElem?_alignRow, hk, Option.map_some, cellUnder]
    · have hh : header ∈ headersOf registry := hheaders ▸ List.mem_of_getElem? hk
      exact hdescribes.cellUnder_eq_null (List.mem_of_getElem? hrow) hh ht
  · have hrows : t.readBack.rows = v.rows.map fun row =>
        .object (fieldsOf (headersOf registry) (alignRow (headersOf registry) row)) := by
      unfold readBack Structured.rows
      rw [hdata, hheaders, List.map_map]
      rfl
    have hagain := hdescribes.readBack
    rw [← hrows] at hagain
    obtain ⟨t', ht'⟩ := (infer_isOk_iff t.readBack).mpr hagain.uniform
    obtain ⟨registry', hdescribes', hheaders', hdata'⟩ := infer_eq_ok ht'
    have hsame : t'.headers = t.headers := by
      rw [hheaders', hheaders, headersOf_eq hdescribes' hagain fun x => Iff.rfl]
    have hcells : t'.data = t.data := by
      rw [hdata', hdata, hsame, hheaders, hrows, List.map_map]
      exact List.map_congr_left fun row _ => alignRow_fieldsOf hdescribes.names_nodup
    have heq : t' = t := by
      cases t
      cases t'
      cases hsame
      cases hcells
      rfl
    rw [ht', heq]

/-- In the table of rows of all kinds a null fills the second column where its row has no
cell, and the rows are read back without it, but with the nulls of the last column. -/
theorem infer_readBack_mixed :
    infer mixedRows = .ok mixedTable ∧
      (∀ c, ¬ (Structured.object [("10", .bool true), ("0", .int 2), ("2", .null)]).Carries "1" c) ∧
      mixedTable.readBack = .array [.object [("0", .int 1), ("1", .string "x"), ("2", .null)],
        .object [("0", .int 2), ("10", .bool true), ("2", .null)],
        .object [("0", .int 3), ("2", .null)], .object [("2", .null)]] ∧
      infer mixedTable.readBack = .ok mixedTable := by
  have h : infer mixedRows = .ok mixedTable := by cbv
  obtain ⟨hfills, hback⟩ := infer_readBack h
  obtain ⟨cells, hcells, hunder⟩ := hfills 1 _ rfl
  obtain ⟨cell, hcell, hfill⟩ := hunder 1 ⟨"1", .string⟩ rfl (by decide)
  cases hcells
  cases hcell
  exact ⟨h, hfill.mp rfl, rfl, hback⟩

end Table

end LiveSession
