import LiveSession.Proofs.Structured.Classified
import LiveSession.Proofs.Structured.Plain
import LiveSession.Proofs.Table.Aligned

/-!
# Inferred tables can be encoded

A leaf without one of the eight shapes has no type, and neither has anything that it stands
in, at whatever depth. All that a value consists of lies in the cells of its rows, and a
table is inferred only if every cell has a type. So there is no such leaf in a value with a
table, none in the table either, and the table has a plain value: an entry for each header,
and for each row a list of the plain cells.
-/

namespace LiveSession

namespace Structured

/-- A value with a shape whose members have shapes at every node does. -/
theorem shaped_of_members {v : Structured} (hv : v.shape?.isSome = true)
    (hm : ∀ m ∈ v.members, m.Shaped) : v.Shaped := by
  intro node hnode
  cases hnode with
  | itself => exact hv
  | member hmem h => exact hm _ hmem node h

/-- A value with a type has a shape at every node. -/
theorem shaped_of_classify {v : Structured} {t : CanonicalType} (h : v.classify = .ok t) :
    v.Shaped :=
  (classify_eq_ok_iff_homogeneous.mp h).1.shaped

/-- Where every node has a shape there is a plain value. -/
theorem Shaped.exists_plain {v : Structured} (hv : v.Shaped) : ∃ w, v.plain = .ok w := by
  induction v using membersInduction with
  | step v ih =>
    have hmembers : ∀ m ∈ v.members, ∃ w, m.plain = .ok w := fun m hm => ih m hm (hv.member hm)
    have hroot := hv v (.itself v)
    cases v with
    | array items =>
      obtain ⟨ws, hws⟩ := mapM_of_forall hmembers
      exact ⟨_, plain_array.mpr ⟨ws, hws, rfl⟩⟩
    | object fields =>
      have hfields : ∀ field ∈ fields, ∃ w, plainField field = .ok w := by
        intro field hfield
        obtain ⟨w, hw⟩ := hmembers field.2 (List.mem_map_of_mem hfield)
        exact ⟨(field.1, w), plainField_eq_ok.mpr ⟨rfl, hw⟩⟩
      obtain ⟨ws, hws⟩ := mapM_of_forall hfields
      exact ⟨_, plain_object.mpr ⟨ws, hws, rfl⟩⟩
    | shapeless => cases hroot
    | foreign h => cases hroot
    | _ => exact ⟨_, by rw [plain]⟩

/-- A row has a shape at every node if its cells do: the members of a container are its
cells, and anything else is its own cell. -/
theorem shaped_of_cells {row : Structured}
    (h : ∀ name cell, row.Carries name cell → cell.Shaped) : row.Shaped := by
  by_cases ha : ∃ items, row = .array items
  · obtain ⟨items, rfl⟩ := ha
    refine shaped_of_members rfl fun m hm => ?_
    obtain ⟨i, hi⟩ := List.getElem?_of_mem hm
    exact h _ m (.item hi)
  · by_cases ho : ∃ fields, row = .object fields
    · obtain ⟨fields, rfl⟩ := ho
      refine shaped_of_members rfl fun m hm => ?_
      obtain ⟨field, hfield, rfl⟩ := List.mem_map.mp hm
      exact h field.1 field.2 (.field hfield)
    · have ha' : ∀ items, row ≠ .array items := fun items heq => ha ⟨items, heq⟩
      have ho' : ∀ fields, row ≠ .object fields := fun fields heq => ho ⟨fields, heq⟩
      exact h "0" row (.itself ha' ho')

/-- A value has a shape at every node if its rows do. -/
theorem shaped_of_rows {v : Structured} (h : ∀ row ∈ v.rows, row.Shaped) : v.Shaped := by
  cases v with
  | array items => exact shaped_of_members rfl h
  | _ => exact h _ List.mem_cons_self

end Structured

namespace Table

/-- Headers and rows encode a table: an entry with name and type for each header, and for
each row of data a list with the plain cells of the row, one for each header. -/
structure Encoded (t : Table) (headers rows : List Host) : Prop where
  width : headers.length = t.headers.length
  header : ∀ (k : Nat) (header : Header), t.headers[k]? = some header →
    headers[k]? = some (.object [("name", .string header.name), ("type", .string header.type.tag)])
  height : rows.length = t.data.length
  row : ∀ (i : Nat) (cells : List Structured), t.data[i]? = some cells →
    ∃ ws, rows[i]? = some (.list ws) ∧ ws.length = t.headers.length ∧
      ∀ (k : Nat) (cell : Structured), cells[k]? = some cell →
        ∃ w, ws[k]? = some w ∧ cell.plain = .ok w

/-- Every node of every cell of a table has a shape. -/
def IsShaped (t : Table) : Prop :=
  ∀ cells ∈ t.data, ∀ cell ∈ cells, cell.Shaped

/-- A table with a cell for each header in every row is encoded if its nodes have shapes. -/
theorem IsShaped.encoded {t : Table} (h : t.IsShaped)
    (hsize : ∀ cells ∈ t.data, cells.length = t.headers.length) :
    ∃ headers rows, t.plain = .ok (.object [("headers", .list headers), ("data", .list rows)]) ∧
      t.Encoded headers rows := by
  have hcells : ∀ cells ∈ t.data, ∃ ws, cells.mapM Structured.plain = .ok ws :=
    fun cells hmem => mapM_of_forall fun cell hcell => (h cells hmem cell hcell).exists_plain
  have hplain : ∀ cells ∈ t.data, ∃ w, plainRow cells = .ok w := by
    intro cells hmem
    obtain ⟨ws, hws⟩ := hcells cells hmem
    exact ⟨.list ws, plainRow_eq_ok.mpr ⟨ws, hws, rfl⟩⟩
  obtain ⟨rows, hrows⟩ := mapM_of_forall hplain
  refine ⟨t.headers.map Header.plain, rows, plain_eq_ok.mpr ⟨rows, hrows, rfl⟩, ?_⟩
  constructor
  case width => exact List.length_map _
  case header =>
    intro k header hk
    rw [List.getElem?_map, hk, Option.map_some, Header.plain]
  case height => exact length_of_mapM hrows
  case row =>
    intro i cells hi
    have hmem : cells ∈ t.data := List.mem_of_getElem? hi
    obtain ⟨ws, hws⟩ := hcells cells hmem
    refine ⟨ws, (getElem?_of_mapM hrows).mpr ⟨cells, hi, plainRow_eq_ok.mpr ⟨ws, hws, rfl⟩⟩,
      (length_of_mapM hws).trans (hsize cells hmem), fun k cell hk => ?_⟩
    obtain ⟨w, hw⟩ := (h cells hmem cell (List.mem_of_getElem? hk)).exists_plain
    exact ⟨w, (getElem?_of_mapM hws).mpr ⟨cell, hk, hw⟩, hw⟩

section Infer

variable {v : Structured} {t : Table}

/-- Every cell of the rows of a value with a table has a shape at every node. -/
theorem shaped_cells_of_infer (h : infer v = .ok t) {row : Structured} (hrow : row ∈ v.rows)
    {name : String} {cell : Structured} (hc : row.Carries name cell) : cell.Shaped := by
  obtain ⟨registry, hdescribes, -⟩ := infer_eq_ok h
  obtain ⟨type, -, hclassify⟩ := hdescribes.typed name cell (mem_cellsOf.mpr ⟨row, hrow, hc⟩)
  exact Structured.shaped_of_classify hclassify

/-- The cells of an inferred table have a shape at every node, as they are cells of rows or
nulls. -/
theorem isShaped_of_infer (h : infer v = .ok t) : t.IsShaped := by
  obtain ⟨-, -, -, hdata⟩ := infer_eq_ok h
  intro cells hcells cell hcell
  rw [hdata] at hcells
  obtain ⟨row, hrow, rfl⟩ := List.mem_map.mp hcells
  obtain ⟨header, -, rfl⟩ := List.mem_map.mp hcell
  change ((row.cell? header.name).getD .null).Shaped
  cases hc : row.cell? header.name with
  | none => exact Structured.shaped_of_members rfl nofun
  | some c => exact shaped_cells_of_infer h hrow (Structured.carries_of_cell? hc)

/-- A value with a table has a shape at every node, and so has the table. The table has a
plain value, with an entry for each header and, in each row, the plain value of each
cell. -/
theorem infer_encoded (h : infer v = .ok t) :
    v.Shaped ∧ t.IsShaped ∧
      ∃ headers rows,
        t.plain = .ok (.object [("headers", .list headers), ("data", .list rows)]) ∧
          t.Encoded headers rows := by
  have hshaped : t.IsShaped := isShaped_of_infer h
  refine ⟨?_, hshaped, hshaped.encoded fun cells hcells => ?_⟩
  · exact Structured.shaped_of_rows fun row hrow =>
      Structured.shaped_of_cells fun name cell hc => shaped_cells_of_infer h hrow hc
  · obtain ⟨-, -, -, hdata⟩ := infer_eq_ok h
    rw [hdata] at hcells
    obtain ⟨row, -, rfl⟩ := List.mem_map.mp hcells
    exact List.length_map _

end Infer

/-- Rows with containers in their cells, one of them without a cell in a column. -/
def nestedRows : Structured :=
  .array [.object [("b", .array [.array [.int 1], .array []]), ("a", .object [("k", .null)])],
    .object [("a", .object [])]]

/-- Their table. -/
def nestedTable : Table :=
  ⟨[⟨"a", .map⟩, ⟨"b", .array⟩],
    [[.object [("k", .null)], .array [.array [.int 1], .array []]], [.object [], .null]]⟩

/-- The table of rows with containers is encoded, with a null where there is no cell. -/
theorem infer_encoded_nested :
    infer nestedRows = .ok nestedTable ∧ nestedRows.Shaped ∧
      ∃ headers rows ws,
        nestedTable.plain = .ok (.object [("headers", .list headers), ("data", .list rows)]) ∧
          nestedTable.Encoded headers rows ∧ rows[1]? = some (.list ws) ∧ ws[1]? = some .null := by
  have h : infer nestedRows = .ok nestedTable := by cbv
  obtain ⟨hshaped, -, headers, rows, hplain, hencoded⟩ := infer_encoded h
  obtain ⟨ws, hrow, -, hcells⟩ := hencoded.row 1 [.object [], .null] rfl
  obtain ⟨w, hw, hnull⟩ := hcells 1 .null rfl
  rw [Structured.plain] at hnull
  cases hnull
  exact ⟨h, hshaped, headers, rows, ws, hplain, hencoded, hrow, hw⟩

example : infer (.array [.object [("a", .array [.array [.int 1], .array [.shapeless]])]]) =
    .error (.notStructured "StructuredValue") := by cbv

end Table

end LiveSession
