import LiveSession.Plain
import LiveSession.Proofs.Decompose.Plain
import LiveSession.Proofs.Traversal

/-!
# Plain values part by part

The plain value of a container is made of those of its parts: an array becomes
the list of its plain items, an object the mapping of its plain fields, and
the data of a table the list of its plain rows. A value that is no container
becomes neither list nor mapping.
-/

namespace LiveSession

namespace Host

/-- Lists are equal with their items. -/
theorem list_inj {items items' : List Host} : list items = list items' ↔ items = items' := by
  unfold list
  rw [Host.sequence.injEq, and_iff_right rfl]

/-- Mappings from texts are equal with their fields. -/
theorem object_inj {fields fields' : List (String × Host)} :
    object fields = object fields' ↔ fields = fields' := by
  have hkey : Function.Injective fun f : String × Host => (Host.string f.1, f.2) := by
    rintro ⟨k, v⟩ ⟨k', v'⟩ h
    cases h
    rfl
  unfold object
  rw [Host.mapping.injEq, and_iff_right rfl]
  exact hkey.list_map.eq_iff

/-- A list is no mapping. -/
theorem list_ne_object (items : List Host) (fields : List (String × Host)) :
    list items ≠ object fields :=
  fun h => Host.noConfusion h

end Host

namespace Structured

/-- A closed value has a plain value. -/
theorem exists_plain {v : Structured} (hv : v.isClosed = true) : ∃ w, v.plain = .ok w := by
  obtain ⟨w, hw, -, -⟩ := survives_of_isClosed hv
  exact ⟨w, hw⟩

/-- The plain value of a field, under its key. -/
def plainField (field : String × Structured) : Except PlainError (String × Host) :=
  field.2.plain.map fun w => (field.1, w)

/-- A plain field has the key of the field and the plain value of its value. -/
theorem plainField_eq_ok {field : String × Structured} {w : String × Host} :
    plainField field = .ok w ↔ w.1 = field.1 ∧ field.2.plain = .ok w.2 := by
  obtain ⟨key, w⟩ := w
  unfold plainField
  rw [map_eq_ok_iff]
  constructor
  · rintro ⟨w', hw, heq⟩
    cases heq
    exact ⟨rfl, hw⟩
  · rintro ⟨rfl, hw⟩
    exact ⟨w, hw, rfl⟩

/-- Plain items are taken one after the other. -/
theorem plainItems_eq (items : List Structured) : plainItems items = items.mapM plain := by
  refine eq_mapM_of_run (by rw [plainItems]) (fun v rest => ?_) items
  rw [plainItems]
  cases v.plain with
  | error e => rfl
  | ok w => cases plainItems rest <;> rfl

/-- Plain fields are taken one after the other. -/
theorem plainFields_eq (fields : List (String × Structured)) :
    plainFields fields = fields.mapM plainField := by
  refine eq_mapM_of_run (by rw [plainFields]) (fun field rest => ?_) fields
  rw [plainFields]
  unfold plainField
  cases field.2.plain with
  | error e => rfl
  | ok w => cases plainFields rest <;> rfl

/-- An array is plainly the list of its plain items. -/
theorem plain_array {items : List Structured} {w : Host} :
    (array items).plain = .ok w ↔ ∃ ws, items.mapM plain = .ok ws ∧ w = .list ws := by
  have hmap : (array items).plain = (items.mapM plain).map .list := by
    rw [plain, plainItems_eq]
    cases items.mapM plain with
    | error e => rfl
    | ok ws => rfl
  rw [hmap, map_eq_ok_iff]

/-- An object is plainly the mapping of its plain fields. -/
theorem plain_object {fields : List (String × Structured)} {w : Host} :
    (object fields).plain = .ok w ↔ ∃ ws, fields.mapM plainField = .ok ws ∧ w = .object ws := by
  have hmap : (object fields).plain = (fields.mapM plainField).map .object := by
    rw [plain, plainFields_eq]
    cases fields.mapM plainField with
    | error e => rfl
    | ok ws => rfl
  rw [hmap, map_eq_ok_iff]

/-- A closed value that is no container is plainly neither list nor mapping. -/
theorem plain_scalar {v : Structured} {w : Host} (hv : v.isClosed = true)
    (ha : ∀ items, v ≠ .array items) (ho : ∀ fields, v ≠ .object fields) (h : v.plain = .ok w) :
    (∀ items, w ≠ .list items) ∧ ∀ fields, w ≠ .object fields := by
  cases v with
  | array items => exact absurd rfl (ha items)
  | object fields => exact absurd rfl (ho fields)
  | shapeless => cases hv
  | foreign value => cases hv
  | _ =>
    rw [plain] at h
    cases h
    exact ⟨fun _ h => Host.noConfusion h, fun _ h => Host.noConfusion h⟩

end Structured

namespace Table

/-- The plain value of a row is the list of its plain cells. -/
def plainRow (cells : List Structured) : Except PlainError Host :=
  (cells.mapM Structured.plain).map .list

/-- A plain row lists the plain values of its cells. -/
theorem plainRow_eq_ok {cells : List Structured} {w : Host} :
    plainRow cells = .ok w ↔ ∃ ws, cells.mapM Structured.plain = .ok ws ∧ w = .list ws :=
  map_eq_ok_iff

/-- Plain rows are taken one after the other. -/
theorem plainRows_eq (data : List (List Structured)) : plainRows data = data.mapM plainRow := by
  refine eq_mapM_of_run (by rw [plainRows]) (fun cells rest => ?_) data
  rw [plainRows, Structured.plainItems_eq]
  unfold plainRow
  cases cells.mapM Structured.plain with
  | error e => rfl
  | ok ws => cases plainRows rest <;> rfl

/-- A table is plainly the mapping of its plain headers and its plain rows. -/
theorem plain_eq_ok {t : Table} {w : Host} :
    t.plain = .ok w ↔ ∃ rows, t.data.mapM plainRow = .ok rows ∧
      w = .object [("headers", .list (t.headers.map Header.plain)), ("data", .list rows)] := by
  have hmap : t.plain = (t.data.mapM plainRow).map fun rows =>
      .object [("headers", .list (t.headers.map Header.plain)), ("data", .list rows)] := by
    unfold plain
    rw [plainRows_eq]
    cases t.data.mapM plainRow with
    | error e => rfl
    | ok rows => rfl
  rw [hmap, map_eq_ok_iff]

/-- Whether the cells of a table are closed. -/
def IsClosed (t : Table) : Prop :=
  ∀ cells ∈ t.data, ∀ cell ∈ cells, cell.isClosed = true

/-- A table of closed cells has a plain value. -/
theorem exists_plain {t : Table} (h : t.IsClosed) : ∃ w, t.plain = .ok w := by
  have hrow : ∀ cells ∈ t.data, ∃ w, plainRow cells = .ok w := by
    intro cells hcells
    obtain ⟨ws, hws⟩ := mapM_of_forall fun cell hcell =>
      Structured.exists_plain (h cells hcells cell hcell)
    exact ⟨.list ws, plainRow_eq_ok.mpr ⟨ws, hws, rfl⟩⟩
  obtain ⟨rows, hrows⟩ := mapM_of_forall hrow
  exact ⟨_, plain_eq_ok.mpr ⟨rows, hrows, rfl⟩⟩

end Table

end LiveSession
