import LiveSession.Proofs.Structured.Closed
import LiveSession.Proofs.Table.Schema
import LiveSession.Response
import Mathlib.Data.List.Permutation

/-!
# The values that have a table

Rows are homogeneous when every cell that one of them carries has a type and
cells carried under one name have the same. A closed value has a table if and
only if its rows are homogeneous, and is refused for mixed types otherwise. As
this says nothing about an order, rearranging the rows, or the fields inside
them, changes neither whether there is a table nor its headers, and rearranges
its data with the rows.
-/

namespace LiveSession

namespace Structured

/-- The rows of a closed value are closed. -/
theorem isClosed_of_mem_rows {v row : Structured} (hv : v.isClosed = true) (hrow : row ∈ v.rows) :
    row.isClosed = true := by
  unfold rows at hrow
  split at hrow
  · exact isClosed_array.mp hv row hrow
  · cases List.mem_singleton.mp hrow
    exact hv

/-- The cells of a closed row are closed. -/
theorem Carries.isClosed {row cell : Structured} {name : String} (h : row.Carries name cell)
    (hrow : row.isClosed = true) : cell.isClosed = true := by
  cases h with
  | item hi => exact isClosed_array.mp hrow cell (List.mem_of_getElem? hi)
  | field hf => exact (isClosed_object.mp hrow).2 _ hf
  | itself => exact hrow

/-- A closed row has distinct keys. -/
theorem hasDistinctKeys_of_isClosed {row : Structured} (hrow : row.isClosed = true) :
    row.HasDistinctKeys := by
  rintro fields rfl
  exact (isClosed_object.mp hrow).1

/-- Rows that have the same fields, in whatever order. -/
inductive SameFields : Structured → Structured → Prop
  | refl (row : Structured) : SameFields row row
  | object {fields fields' : List (String × Structured)} (h : fields.Perm fields') :
      SameFields (.object fields) (.object fields')

section SameFields

variable {row row' : Structured} (h : row.SameFields row')

include h

/-- Rows with the same fields carry the same cells. -/
theorem SameFields.carries_iff {name : String} {cell : Structured} :
    row.Carries name cell ↔ row'.Carries name cell := by
  cases h with
  | refl => exact Iff.rfl
  | object hperm => rw [carries_object, carries_object, hperm.mem_iff]

/-- Rows with the same fields, under distinct keys, have the same columns. -/
theorem SameFields.rowColumns_eq (hd : row.HasDistinctKeys) : row.rowColumns = row'.rowColumns := by
  cases h with
  | refl => rfl
  | object hperm =>
    exact sortFields_eq_of_perm hperm ((distinctKeys_iff _).mp (hd _ rfl))

end SameFields

end Structured

namespace Table

/-- Every cell that rows carry has a type, and cells that they carry under one
name have the same. -/
structure Homogeneous (rows : List Structured) : Prop where
  classified : ∀ row ∈ rows, ∀ name cell, row.Carries name cell → ∃ t, cell.classify = .ok t
  agreeing : ∀ row ∈ rows, ∀ row' ∈ rows, ∀ name cell cell' t t', row.Carries name cell →
    row'.Carries name cell' → cell.classify = .ok t → cell'.classify = .ok t' → t = t'

/-- Rows are homogeneous where their cells are uniform. -/
theorem homogeneous_iff {rows : List Structured} : Homogeneous rows ↔ Uniform (cellsOf rows) := by
  constructor
  · intro h name cell cell' hc hc'
    obtain ⟨row, hrow, hcarries⟩ := mem_cellsOf.mp hc
    obtain ⟨row', hrow', hcarries'⟩ := mem_cellsOf.mp hc'
    obtain ⟨t, ht⟩ := h.classified row hrow name cell hcarries
    obtain ⟨t', ht'⟩ := h.classified row' hrow' name cell' hcarries'
    have hsame := h.agreeing row hrow row' hrow' name cell cell' t t' hcarries hcarries' ht ht'
    exact ⟨t, ht, hsame ▸ ht'⟩
  · intro h
    refine ⟨fun row hrow name cell hc => ?_,
      fun row hrow row' hrow' name cell cell' t t' hc hc' ht ht' => ?_⟩
    · have hmem := mem_cellsOf.mpr ⟨row, hrow, hc⟩
      obtain ⟨t, ht, -⟩ := h name cell cell hmem hmem
      exact ⟨t, ht⟩
    · obtain ⟨u, hu, hu'⟩ := h name cell cell' (mem_cellsOf.mpr ⟨row, hrow, hc⟩)
        (mem_cellsOf.mpr ⟨row', hrow', hc'⟩)
      rw [hu] at ht
      rw [hu'] at ht'
      exact (Except.ok.inj ht).symm.trans (Except.ok.inj ht')

/-- Cells are refused for a mixed column, or for what is wrong with one of them. -/
theorem registerRow_error_cases {registry : Registry} {cells : List (String × Structured)}
    {e : TypeMismatch} (h : registerRow registry cells = .error e) :
    e = .mixed ∨ ∃ name cell, (name, cell) ∈ cells ∧ cell.classify = .error e := by
  induction cells generalizing registry with
  | nil => cases h
  | cons entry rest ih =>
    rw [registerRow] at h
    cases hx : register registry entry.1 entry.2 with
    | error e' =>
      rw [hx] at h
      cases h
      have hrecorded := register_records registry entry.1 entry.2
      rw [hx] at hrecorded
      cases hrecorded with
      | refused he => exact .inr ⟨entry.1, entry.2, List.mem_cons_self, he⟩
      | mixed => exact .inl rfl
    | ok next =>
      rw [hx] at h
      rcases ih h with hmixed | ⟨name, cell, hmem, hclass⟩
      · exact .inl hmixed
      · exact .inr ⟨name, cell, List.mem_cons_of_mem entry hmem, hclass⟩

/-- The cells of the rows of a closed value are closed. -/
theorem isClosed_of_mem_cellsOf {v : Structured} (hv : v.isClosed = true)
    {x : String × Structured} (hx : x ∈ cellsOf v.rows) : x.2.isClosed = true := by
  obtain ⟨row, hrow, hc⟩ := mem_cellsOf.mp hx
  exact hc.isClosed (Structured.isClosed_of_mem_rows hv hrow)

/-- Rows of closed cells without a table are refused for mixed types. -/
theorem infer_error {v : Structured} {e : TypeMismatch}
    (hcells : ∀ x ∈ cellsOf v.rows, x.2.isClosed = true) (h : infer v = .error e) :
    e = .mixed := by
  unfold infer at h
  rw [registerRows_eq] at h
  cases hr : registerRow [] (cellsOf v.rows) with
  | ok registry =>
    rw [hr] at h
    cases h
  | error e' =>
    rw [hr] at h
    cases h
    rcases registerRow_error_cases hr with hmixed | ⟨name, cell, hmem, hclass⟩
    · exact hmixed
    · exact Structured.classify_error (hcells _ hmem) hclass

/-- Rows of closed cells that are not homogeneous are refused for mixed types. -/
theorem infer_of_not_homogeneous {v : Structured}
    (hcells : ∀ x ∈ cellsOf v.rows, x.2.isClosed = true) (h : ¬ Homogeneous v.rows) :
    infer v = .error .mixed := by
  cases hi : infer v with
  | error e => rw [infer_error hcells hi]
  | ok t => exact absurd (homogeneous_iff.mpr ((infer_isOk_iff v).mp ⟨t, hi⟩)) h

/-- Rows in another order, each with its fields in another order. -/
structure Rearrangement (rows rows' : List Structured) where
  /-- Where each row is put. -/
  place : Fin rows.length ≃ Fin rows'.length
  same : ∀ i, (rows.get i).SameFields (rows'.get (place i))

section Rearrangement

variable {rows rows' : List Structured} (r : Rearrangement rows rows')

include r

/-- Rearranged rows have the same cells. -/
theorem Rearrangement.mem_cellsOf_iff (x : String × Structured) :
    x ∈ cellsOf rows ↔ x ∈ cellsOf rows' := by
  obtain ⟨name, cell⟩ := x
  rw [mem_cellsOf, mem_cellsOf]
  constructor
  · rintro ⟨row, hrow, hc⟩
    obtain ⟨i, rfl⟩ := List.mem_iff_get.mp hrow
    exact ⟨rows'.get (r.place i), List.get_mem _ _, (r.same i).carries_iff.mp hc⟩
  · rintro ⟨row', hrow', hc⟩
    obtain ⟨j, rfl⟩ := List.mem_iff_get.mp hrow'
    -- Every place of the rearranged rows is that of some row.
    have hsame := r.same (r.place.symm j)
    rw [Equiv.apply_symm_apply] at hsame
    exact ⟨rows.get (r.place.symm j), List.get_mem _ _, hsame.carries_iff.mpr hc⟩

/-- Rearranged rows are homogeneous alike. -/
theorem Rearrangement.homogeneous_iff : Homogeneous rows ↔ Homogeneous rows' := by
  have hsub : cellsOf rows ⊆ cellsOf rows' := fun x hx => (r.mem_cellsOf_iff x).mp hx
  have hsub' : cellsOf rows' ⊆ cellsOf rows := fun x hx => (r.mem_cellsOf_iff x).mpr hx
  rw [Table.homogeneous_iff, Table.homogeneous_iff]
  exact ⟨fun h => h.mono hsub', fun h => h.mono hsub⟩

/-- Two tables of rearranged rows: the headers stay, and the data move with the
rows. -/
structure Rearrangement.Moves (t t' : Table) : Prop where
  headers : t'.headers = t.headers
  size : t.data.length = rows.length
  size' : t'.data.length = rows'.length
  data : ∀ i : Fin rows.length, t'.data[(r.place i).val]? = t.data[i.val]?

end Rearrangement

section Infer

variable {v v' : Structured} (r : Rearrangement v.rows v'.rows)

include r

/-- Where rows are rearranged whose fields have distinct keys, the table of the
one value is that of the other with its data moved. -/
theorem Rearrangement.moves (hd : ∀ row ∈ v.rows, row.HasDistinctKeys) {t t' : Table}
    (h : infer v = .ok t) (h' : infer v' = .ok t') : r.Moves t t' := by
  obtain ⟨registry, hdescribes, hheaders, hdata⟩ := infer_eq_ok h
  obtain ⟨registry', hdescribes', hheaders', hdata'⟩ := infer_eq_ok h'
  have hsame : t'.headers = t.headers := by
    rw [hheaders, hheaders', headersOf_eq hdescribes hdescribes' r.mem_cellsOf_iff]
  refine ⟨hsame, ?_, ?_, fun i => ?_⟩
  · rw [hdata, List.length_map]
  · rw [hdata', List.length_map]
  · have hcolumns := (r.same i).rowColumns_eq (hd _ (List.get_mem _ _))
    have hcells : alignRow t.headers (v'.rows.get (r.place i)) =
        alignRow t.headers (v.rows.get i) := by
      unfold alignRow
      rw [hcolumns]
    rw [hdata, hdata', hsame, List.getElem?_map, List.getElem?_map,
      List.getElem?_eq_getElem (r.place i).isLt, List.getElem?_eq_getElem i.isLt]
    exact congrArg some hcells

/-- Rearranging the rows of a closed value, and their fields, makes no difference
but to the order of the data. -/
theorem Rearrangement.infer_alike (hv : v.isClosed = true) :
    (infer v = .error .mixed ∧ infer v' = .error .mixed) ∨
      ∃ t t', infer v = .ok t ∧ infer v' = .ok t' ∧ r.Moves t t' := by
  have hcells : ∀ x ∈ cellsOf v.rows, x.2.isClosed = true :=
    fun _ hx => isClosed_of_mem_cellsOf hv hx
  have hcells' : ∀ x ∈ cellsOf v'.rows, x.2.isClosed = true :=
    fun x hx => hcells x ((r.mem_cellsOf_iff x).mpr hx)
  -- The criterion is the same for both values, and it decides both tables.
  by_cases h : Homogeneous v.rows
  · obtain ⟨t, ht⟩ := (infer_isOk_iff v).mpr (Table.homogeneous_iff.mp h)
    have h' := r.homogeneous_iff.mp h
    obtain ⟨t', ht'⟩ := (infer_isOk_iff v').mpr (Table.homogeneous_iff.mp h')
    have hd : ∀ row ∈ v.rows, row.HasDistinctKeys := fun _ hrow =>
      Structured.hasDistinctKeys_of_isClosed (Structured.isClosed_of_mem_rows hv hrow)
    exact .inr ⟨t, t', ht, ht', r.moves hd ht ht'⟩
  · have h' : ¬ Homogeneous v'.rows := fun h' => h (r.homogeneous_iff.mpr h')
    exact .inl ⟨infer_of_not_homogeneous hcells h, infer_of_not_homogeneous hcells' h'⟩

end Infer

/-- A closed value has a table if and only if its rows are homogeneous, and is
refused for mixed types otherwise; rearranging the rows and their fields changes
neither, and moves the data with the rows. -/
theorem infer_homogeneous {v : Structured} (hv : v.isClosed = true) :
    ((∃ t, infer v = .ok t) ↔ Homogeneous v.rows) ∧
      (¬ Homogeneous v.rows → infer v = .error .mixed ∧
        Response.ofTable v = .ok (.error "TypeError" "table rows have different types" [])) ∧
      ∀ (v' : Structured) (r : Rearrangement v.rows v'.rows),
        (infer v = .error .mixed ∧ infer v' = .error .mixed) ∨
          ∃ t t', infer v = .ok t ∧ infer v' = .ok t' ∧ r.Moves t t' := by
  refine ⟨?_, fun h => ?_, fun v' r => r.infer_alike hv⟩
  · rw [infer_isOk_iff, homogeneous_iff]
  · have hinfer : infer v = .error .mixed :=
      infer_of_not_homogeneous (fun _ hx => isClosed_of_mem_cellsOf hv hx) h
    refine ⟨hinfer, ?_⟩
    unfold Response.ofTable
    rw [hinfer]

/-- Two rows, the second without a column of the first. -/
def raggedRows : Structured :=
  .array [.object [("b", .string "x"), ("a", .int 1)], .object [("a", .int 2)]]

/-- The same rows the other way round, with their fields in order. -/
def raggedRows' : Structured :=
  .array [.object [("a", .int 2)], .object [("a", .int 1), ("b", .string "x")]]

/-- The second of the two values rearranges the first. -/
def raggedExchange : Rearrangement raggedRows.rows raggedRows'.rows where
  place := ⟨Fin.rev, Fin.rev, Fin.rev_rev, Fin.rev_rev⟩
  same
    | ⟨0, _⟩ => .object (List.Perm.swap _ _ _)
    | ⟨1, _⟩ => .refl _

/-- The rows have a table, and so have the rows the other way round. -/
theorem infer_homogeneous_ragged :
    raggedRows.isClosed = true ∧ Homogeneous raggedRows.rows ∧
      ∃ t t', infer raggedRows = .ok t ∧ infer raggedRows' = .ok t' ∧
        raggedExchange.Moves t t' := by
  have hv : raggedRows.isClosed = true := rfl
  obtain ⟨htable, -, halike⟩ := infer_homogeneous hv
  have h : infer raggedRows = .ok ⟨[⟨"a", .bigint⟩, ⟨"b", .string⟩],
      [[.int 1, .string "x"], [.int 2, .null]]⟩ := by cbv
  refine ⟨hv, htable.mp ⟨_, h⟩, ?_⟩
  rcases halike raggedRows' raggedExchange with ⟨herror, -⟩ | htables
  · rw [h] at herror
    cases herror
  · exact htables

end Table

end LiveSession
