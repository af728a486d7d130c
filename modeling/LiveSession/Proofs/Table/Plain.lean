import LiveSession.Proofs.Structured.Plain
import LiveSession.Proofs.Table.Aligned
import LiveSession.Proofs.Table.Homogeneous

/-!
# Tables and documents on the client's side

A client that receives a value as a document and the same value as a table can
compare the two without knowing what they were made of. The rows of a document
are its items if it is a list, and the document alone if not; a row carries its
items under their positions, its fields under their keys, and anything else
under `0`. The table of a closed value shows its document: row by row, under
every header, stands what the row of the document carries there, or a null.
-/

namespace LiveSession

namespace Host

/-- The rows of a document. -/
def documentRows : Host → List Host
  | .sequence .list items => items
  | document => [document]

/-- A row of a document carries a cell under a name. -/
inductive Carries : Host → String → Host → Prop
  | item {items : List Host} {i : Nat} {cell : Host} (h : items[i]? = some cell) :
      Carries (list items) (Text.decimalText i) cell
  | field {fields : List (String × Host)} {name : String} {cell : Host}
      (h : (name, cell) ∈ fields) : Carries (object fields) name cell
  | itself {row : Host} (hl : ∀ items, row ≠ list items) (ho : ∀ fields, row ≠ object fields) :
      Carries row "0" row

section Carries

variable {name : String} {cell : Host}

/-- A list carries its items. -/
theorem carries_list {items : List Host} :
    Carries (list items) name cell ↔ ∃ i, items[i]? = some cell ∧ name = Text.decimalText i := by
  constructor
  · generalize hrow : list items = row
    intro h
    cases h with
    | item hi =>
      rw [list_inj] at hrow
      subst hrow
      exact ⟨_, hi, rfl⟩
    | field hf => exact absurd hrow (list_ne_object _ _)
    | itself hl _ => exact absurd hrow.symm (hl items)
  · rintro ⟨i, hi, rfl⟩
    exact .item hi

/-- A mapping carries its fields. -/
theorem carries_object {fields : List (String × Host)} :
    Carries (object fields) name cell ↔ (name, cell) ∈ fields := by
  constructor
  · generalize hrow : object fields = row
    intro h
    cases h with
    | item hi => exact absurd hrow.symm (list_ne_object _ _)
    | field hf =>
      rw [object_inj] at hrow
      subst hrow
      exact hf
    | itself _ ho => exact absurd hrow.symm (ho fields)
  · exact .field

/-- A row that is neither list nor mapping carries itself. -/
theorem carries_scalar {row : Host} (hl : ∀ items, row ≠ list items)
    (ho : ∀ fields, row ≠ object fields) : Carries row name cell ↔ name = "0" ∧ cell = row := by
  constructor
  · intro h
    cases h with
    | item hi => exact absurd rfl (hl _)
    | field hf => exact absurd rfl (ho _)
    | itself => exact ⟨rfl, rfl⟩
  · rintro ⟨rfl, rfl⟩
    exact .itself hl ho

end Carries

/-- Cells show a row of a document under headers: what the row carries under the
name of a header stands there, and a null where it carries nothing. -/
structure RowShown (row : Host) (headers cells : List Host) : Prop where
  size : cells.length = headers.length
  carried : ∀ (k : Nat) (header : Host) (name : String) (cell : Host), headers[k]? = some header →
    header.Carries "name" (.string name) → row.Carries name cell → cells[k]? = some cell
  missing : ∀ (k : Nat) (header : Host) (name : String), headers[k]? = some header →
    header.Carries "name" (.string name) → (∀ cell, ¬ row.Carries name cell) →
      cells[k]? = some .null

/-- Headers and rows show a document: every header has a name of its own, every
column of the document has a header, and each row shows the row of the document
that it stands for. -/
structure Shown (document : Host) (headers rows : List Host) : Prop where
  named : ∀ header ∈ headers, ∃ name, header.Carries "name" (.string name)
  once : ∀ (k l : Nat) (header header' : Host) (name : String), headers[k]? = some header →
    headers[l]? = some header' → header.Carries "name" (.string name) →
      header'.Carries "name" (.string name) → k = l
  listed : ∀ row ∈ document.documentRows, ∀ (name : String) (cell : Host),
    row.Carries name cell → ∃ header ∈ headers, header.Carries "name" (.string name)
  size : rows.length = document.documentRows.length
  row : ∀ (i : Nat) (row : Host), document.documentRows[i]? = some row →
    ∃ cells, rows[i]? = some (.list cells) ∧ row.RowShown headers cells

end Host

namespace Structured

/-- The rows of the plain value are the plain rows. -/
theorem rows_plain {v : Structured} {w : Host} (hv : v.isClosed = true) (h : v.plain = .ok w) :
    v.rows.mapM plain = .ok w.documentRows := by
  have hsingle : ∀ w', v.plain = .ok w' → [v].mapM plain = .ok [w'] :=
    fun w' hw => mapM_eq_ok_iff.mpr (.cons hw .nil)
  cases v with
  | array items =>
    obtain ⟨ws, hws, rfl⟩ := plain_array.mp h
    exact hws
  | object fields =>
    obtain ⟨ws, -, rfl⟩ := plain_object.mp h
    exact hsingle _ h
  | shapeless => cases hv
  | foreign value => cases hv
  | _ =>
    have hw := h
    rw [plain] at hw
    cases hw
    exact hsingle _ h

/-- A plain row carries the plain values of the cells of the row. -/
theorem carries_plain {row : Structured} {w : Host} (hrow : row.isClosed = true)
    (h : row.plain = .ok w) {name : String} {cell : Host} :
    w.Carries name cell ↔ ∃ c, row.Carries name c ∧ c.plain = .ok cell := by
  by_cases ha : ∃ items, row = .array items
  · obtain ⟨items, rfl⟩ := ha
    obtain ⟨ws, hws, rfl⟩ := plain_array.mp h
    rw [Host.carries_list]
    constructor
    · rintro ⟨i, hi, rfl⟩
      obtain ⟨c, hc, hplain⟩ := (getElem?_of_mapM hws).mp hi
      exact ⟨c, .item hc, hplain⟩
    · rintro ⟨c, hc, hplain⟩
      obtain ⟨i, hi, rfl⟩ := carries_array.mp hc
      exact ⟨i, (getElem?_of_mapM hws).mpr ⟨c, hi, hplain⟩, rfl⟩
  · by_cases ho : ∃ fields, row = .object fields
    · obtain ⟨fields, rfl⟩ := ho
      obtain ⟨ws, hws, rfl⟩ := plain_object.mp h
      rw [Host.carries_object, mem_of_mapM hws]
      constructor
      · rintro ⟨field, hfield, hplain⟩
        obtain ⟨rfl, hcell⟩ := plainField_eq_ok.mp hplain
        exact ⟨field.2, .field hfield, hcell⟩
      · rintro ⟨c, hc, hplain⟩
        exact ⟨(name, c), carries_object.mp hc, plainField_eq_ok.mpr ⟨rfl, hplain⟩⟩
    · have ha' : ∀ items, row ≠ .array items := fun items heq => ha ⟨items, heq⟩
      have ho' : ∀ fields, row ≠ .object fields := fun fields heq => ho ⟨fields, heq⟩
      obtain ⟨hl, hm⟩ := plain_scalar hrow ha' ho' h
      rw [Host.carries_scalar hl hm]
      constructor
      · rintro ⟨rfl, rfl⟩
        exact ⟨row, .itself ha' ho', h⟩
      · rintro ⟨c, hc, hplain⟩
        obtain ⟨rfl, rfl⟩ := (carries_scalar ha' ho').mp hc
        cases h.symm.trans hplain
        exact ⟨rfl, rfl⟩

end Structured

/-- A plain header has the name of the header. -/
theorem Header.plain_carries {header : Header} {name : String} :
    header.plain.Carries "name" (.string name) ↔ header.name = name := by
  unfold Header.plain
  rw [Host.carries_object]
  simp [eq_comm]

namespace Table

/-- The cells of an inferred table are closed if its value is. -/
theorem isClosed_of_infer {v : Structured} {t : Table} (hv : v.isClosed = true)
    (h : infer v = .ok t) : t.IsClosed := by
  obtain ⟨registry, -, -, hdata⟩ := infer_eq_ok h
  intro cells hcells cell hcell
  rw [hdata] at hcells
  obtain ⟨row, hrow, rfl⟩ := List.mem_map.mp hcells
  obtain ⟨header, -, rfl⟩ := List.mem_map.mp hcell
  have hclosed := Structured.isClosed_of_mem_rows hv hrow
  change ((row.cell? header.name).getD .null).isClosed = true
  cases hc : row.cell? header.name with
  | none => rfl
  | some c =>
    exact ((Structured.hasDistinctKeys_of_isClosed hclosed).cell?_eq_some.mp hc).isClosed hclosed

/-- The plain cells of an aligned row show its plain value. -/
theorem RowAligned.shown {headers : List Header} {row : Structured} {cells : List Structured}
    (h : RowAligned headers row cells) (hrow : row.isClosed = true) {w : Host} {ws : List Host}
    (hw : row.plain = .ok w) (hws : cells.mapM Structured.plain = .ok ws) :
    w.RowShown (headers.map Header.plain) ws := by
  have hheader : ∀ {k : Nat} {header : Host} {name : String},
      (headers.map Header.plain)[k]? = some header → header.Carries "name" (.string name) →
        ∃ origin, headers[k]? = some origin ∧ origin.name = name := by
    intro k header name hk hname
    rw [List.getElem?_map, Option.map_eq_some_iff] at hk
    obtain ⟨origin, hk, rfl⟩ := hk
    exact ⟨origin, hk, Header.plain_carries.mp hname⟩
  refine ⟨?_, fun k header name cell hk hname hcell => ?_, fun k header name hk hname hnone => ?_⟩
  · rw [length_of_mapM hws, h.size, List.length_map]
  · obtain ⟨origin, hk, rfl⟩ := hheader hk hname
    obtain ⟨c, hc, hplain⟩ := (Structured.carries_plain hrow hw).mp hcell
    exact (getElem?_of_mapM hws).mpr ⟨c, (h.carried k origin c hk hc).1, hplain⟩
  · obtain ⟨origin, hk, rfl⟩ := hheader hk hname
    refine (getElem?_of_mapM hws).mpr ⟨.null, h.missing k origin hk fun c hc => ?_, ?_⟩
    · -- A cell that the row carries would have a plain value, which the plain row carries.
      obtain ⟨cell, hplain⟩ := Structured.exists_plain (hc.isClosed hrow)
      exact hnone cell ((Structured.carries_plain hrow hw).mpr ⟨c, hc, hplain⟩)
    · rw [Structured.plain]

/-- Plain headers of distinct names stand in different places. -/
theorem plain_header_place_unique {headers : List Header}
    (hs : (headers.map Header.name).Pairwise (· < ·)) {k l : Nat} {header header' : Host}
    {name : String} (hk : (headers.map Header.plain)[k]? = some header)
    (hl : (headers.map Header.plain)[l]? = some header')
    (hname : header.Carries "name" (.string name))
    (hname' : header'.Carries "name" (.string name)) : k = l := by
  rw [List.getElem?_map, Option.map_eq_some_iff] at hk hl
  obtain ⟨origin, hk, rfl⟩ := hk
  obtain ⟨origin', hl, rfl⟩ := hl
  exact header_place_unique hs hk hl
    ((Header.plain_carries.mp hname).trans (Header.plain_carries.mp hname').symm)

section Infer

variable {v : Structured} {t : Table}

/-- A row of the plain table shows the plain row that it stands for. -/
theorem rowShown_of_infer (hv : v.isClosed = true) (h : infer v = .ok t) {rows : List Host}
    (hrows : t.data.mapM plainRow = .ok rows) {i : Nat} {row : Structured} {w : Host}
    (hrow : v.rows[i]? = some row) (hw : row.plain = .ok w) :
    ∃ cells, rows[i]? = some (.list cells) ∧ w.RowShown (t.headers.map Header.plain) cells := by
  obtain ⟨registry, hdescribes, hheaders, hdata⟩ := infer_eq_ok h
  have hmem : row ∈ v.rows := List.mem_of_getElem? hrow
  have hclosed := Structured.isClosed_of_mem_rows hv hmem
  have hcells : t.data[i]? = some (alignRow t.headers row) := by
    rw [hdata, List.getElem?_map, hrow, Option.map_some]
  have haligned : RowAligned t.headers row (alignRow t.headers row) := by
    rw [hheaders]
    exact hdescribes.rowAligned (Structured.hasDistinctKeys_of_isClosed hclosed)
      fun name cell hc => mem_cellsOf.mpr ⟨row, hmem, hc⟩
  obtain ⟨ws, hws⟩ := mapM_of_forall fun cell hcell =>
    Structured.exists_plain (isClosed_of_infer hv h _ (List.mem_of_getElem? hcells) cell hcell)
  exact ⟨ws, (getElem?_of_mapM hrows).mpr ⟨_, hcells, plainRow_eq_ok.mpr ⟨ws, hws, rfl⟩⟩,
    haligned.shown hclosed hw hws⟩

/-- The table of a closed value shows its document. -/
theorem shown_of_infer (hv : v.isClosed = true) (h : infer v = .ok t) {w : Host}
    (hw : v.plain = .ok w) :
    ∃ headers rows, t.plain = .ok (.object [("headers", .list headers), ("data", .list rows)]) ∧
      w.Shown headers rows := by
  obtain ⟨registry, hdescribes, hheaders, hdata⟩ := infer_eq_ok h
  obtain ⟨wt, hwt⟩ := exists_plain (isClosed_of_infer hv h)
  obtain ⟨rows, hrows, rfl⟩ := plain_eq_ok.mp hwt
  have hdocument := Structured.rows_plain hv hw
  have hsorted : (t.headers.map Header.name).Pairwise (· < ·) := by
    rw [hheaders, names_headersOf]
    exact keys_sortFields_sorted hdescribes.distinct
  refine ⟨t.headers.map Header.plain, rows, hwt, fun header hmem => ?_,
    fun k l header header' name hk hl hname hname' =>
      plain_header_place_unique hsorted hk hl hname hname',
    fun document hmem name cell hcell => ?_, ?_, fun i document hi => ?_⟩
  · obtain ⟨origin, -, rfl⟩ := List.mem_map.mp hmem
    exact ⟨origin.name, Header.plain_carries.mpr rfl⟩
  · obtain ⟨row, hrow, hplain⟩ := (mem_of_mapM hdocument).mp hmem
    obtain ⟨c, hc, -⟩ := (Structured.carries_plain
      (Structured.isClosed_of_mem_rows hv hrow) hplain).mp hcell
    have hname := (hdescribes.names name).mpr ⟨c, mem_cellsOf.mpr ⟨row, hrow, hc⟩⟩
    rw [← hheaders] at hname
    obtain ⟨header, hheader, rfl⟩ := List.mem_map.mp hname
    exact ⟨header.plain, List.mem_map_of_mem hheader, Header.plain_carries.mpr rfl⟩
  · rw [length_of_mapM hrows, length_of_mapM hdocument, hdata, List.length_map]
  · obtain ⟨row, hrow, hplain⟩ := (getElem?_of_mapM hdocument).mp hi
    exact rowShown_of_infer hv h hrows hrow hplain

end Infer

end Table

end LiveSession
