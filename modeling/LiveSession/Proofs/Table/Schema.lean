import LiveSession.Proofs.Table.Carried

/-!
# The schema of the cells of rows

Cells are uniform when every one has a type and those of one column have the
same. A registry describes cells when its columns are theirs, each listed once
and with the type of its cells. Recording a cell in a registry that describes
the cells before it succeeds if all are uniform, and then the registry
describes them all; so rows have a table if and only if their cells are
uniform, and the headers depend on nothing but which cells there are.
-/

namespace LiveSession.Table

/-- The named cells of rows, in the order in which they are recorded. -/
def cellsOf (rows : List Structured) : List (String × Structured) :=
  rows.flatMap Structured.rowColumns

/-- A cell of rows is carried by one of them. -/
theorem mem_cellsOf {rows : List Structured} {name : String} {cell : Structured} :
    (name, cell) ∈ cellsOf rows ↔ ∃ row ∈ rows, row.Carries name cell := by
  unfold cellsOf
  rw [List.mem_flatMap]
  simp only [Structured.mem_rowColumns]

/-- Every cell has a type, and cells of one column have the same. -/
def Uniform (cells : List (String × Structured)) : Prop :=
  ∀ name cell cell', (name, cell) ∈ cells → (name, cell') ∈ cells →
    ∃ t, cell.classify = .ok t ∧ cell'.classify = .ok t

/-- Some cells of uniform ones are uniform. -/
theorem Uniform.mono {cells more : List (String × Structured)} (h : Uniform more)
    (hs : cells ⊆ more) : Uniform cells :=
  fun name cell cell' hc hc' => h name cell cell' (hs hc) (hs hc')

/-- What recording a cell comes to. -/
inductive Records (registry : Registry) (name : String) (cell : Structured) :
    Except TypeMismatch Registry → Prop
  /-- The cell has no type. -/
  | refused {e : TypeMismatch} (he : cell.classify = .error e) :
      Records registry name cell (.error e)
  /-- The cell is the first of its column. -/
  | opened {t : CanonicalType} (ht : cell.classify = .ok t) (hnew : name ∉ Assoc.keys registry) :
      Records registry name cell (.ok (registry ++ [(name, t)]))
  /-- The cell has the type of its column. -/
  | agreed {t : CanonicalType} (ht : cell.classify = .ok t) (hlisted : (name, t) ∈ registry) :
      Records registry name cell (.ok registry)
  /-- The cell has another type than its column. -/
  | mixed {t t' : CanonicalType} (ht : cell.classify = .ok t) (hlisted : (name, t') ∈ registry)
      (hne : t ≠ t') : Records registry name cell (.error .mixed)

/-- Recording a cell comes to one of the four. -/
theorem register_records (registry : Registry) (name : String) (cell : Structured) :
    Records registry name cell (register registry name cell) := by
  unfold register
  split
  · next he => exact .refused he
  · next t ht =>
    split
    · next hfound => exact .opened ht (Assoc.not_mem_keys_of_find? hfound)
    · next t' hfound =>
      have hlisted := Assoc.mem_of_find? hfound
      split
      · next hsame => exact .agreed ht (hsame ▸ hlisted)
      · next hne => exact .mixed ht hlisted hne

/-- A registry lists the columns of cells, each once and with the type of its
cells. -/
structure Describes (registry : Registry) (cells : List (String × Structured)) : Prop where
  distinct : (Assoc.keys registry).Nodup
  typed : ∀ name cell, (name, cell) ∈ cells → ∃ t, (name, t) ∈ registry ∧ cell.classify = .ok t
  founded : ∀ name t, (name, t) ∈ registry → ∃ cell, (name, cell) ∈ cells ∧ cell.classify = .ok t

/-- The empty registry describes no cells. -/
theorem describes_nil : Describes [] [] :=
  ⟨List.nodup_nil, (fun _ _ h => nomatch h), (fun _ _ h => nomatch h)⟩

section Describes

variable {registry registry' : Registry} {cells cells' : List (String × Structured)}

/-- Cells that are described are uniform. -/
theorem Describes.uniform (h : Describes registry cells) : Uniform cells := by
  intro name cell cell' hc hc'
  obtain ⟨t, ht, hcell⟩ := h.typed name cell hc
  obtain ⟨t', ht', hcell'⟩ := h.typed name cell' hc'
  cases eq_of_keys_nodup h.distinct ht ht' rfl
  exact ⟨t, hcell, hcell'⟩

/-- What a registry lists is determined by the cells that it describes. -/
theorem Describes.mem_iff (h : Describes registry cells) {name : String} {t : CanonicalType} :
    (name, t) ∈ registry ↔ ∃ cell, (name, cell) ∈ cells ∧ cell.classify = .ok t := by
  refine ⟨h.founded name t, fun ⟨cell, hcell, ht⟩ => ?_⟩
  obtain ⟨t', hlisted, ht'⟩ := h.typed name cell hcell
  rw [ht] at ht'
  cases ht'
  exact hlisted

/-- Recording a cell whose column is listed with its type changes nothing. -/
theorem Describes.snoc_known (h : Describes registry cells) {name : String} {cell : Structured}
    {t : CanonicalType} (ht : cell.classify = .ok t) (hlisted : (name, t) ∈ registry) :
    Describes registry (cells ++ [(name, cell)]) := by
  refine ⟨h.distinct, fun n c hc => ?_, fun n t' hn => ?_⟩
  · rcases List.mem_append.mp hc with hold | hnew
    · exact h.typed n c hold
    · cases List.mem_singleton.mp hnew
      exact ⟨t, hlisted, ht⟩
  · obtain ⟨c, hc, hct⟩ := h.founded n t' hn
    exact ⟨c, List.mem_append_left _ hc, hct⟩

/-- Recording a cell of a new column lists the column with its type. -/
theorem Describes.snoc_new (h : Describes registry cells) {name : String} {cell : Structured}
    {t : CanonicalType} (ht : cell.classify = .ok t) (hnew : name ∉ Assoc.keys registry) :
    Describes (registry ++ [(name, t)]) (cells ++ [(name, cell)]) := by
  refine ⟨?_, fun n c hc => ?_, fun n t' hn => ?_⟩
  · unfold Assoc.keys
    rw [List.map_append]
    refine List.nodup_append.mpr ⟨h.distinct, List.pairwise_singleton _ _, ?_⟩
    rintro a ha b hb rfl
    cases List.mem_singleton.mp hb
    exact hnew ha
  · rcases List.mem_append.mp hc with hold | hlast
    · obtain ⟨t', hlisted, hct⟩ := h.typed n c hold
      exact ⟨t', List.mem_append_left _ hlisted, hct⟩
    · cases List.mem_singleton.mp hlast
      exact ⟨t, List.mem_append_right _ List.mem_cons_self, ht⟩
  · rcases List.mem_append.mp hn with hold | hlast
    · obtain ⟨c, hc, hct⟩ := h.founded n t' hold
      exact ⟨c, List.mem_append_left _ hc, hct⟩
    · cases List.mem_singleton.mp hlast
      exact ⟨cell, List.mem_append_right _ List.mem_cons_self, ht⟩

/-- A registry that records a cell describes it with those before. -/
theorem register_describes (h : Describes registry cells) {name : String} {cell : Structured}
    (hr : register registry name cell = .ok registry') :
    Describes registry' (cells ++ [(name, cell)]) := by
  have hrecorded := register_records registry name cell
  rw [hr] at hrecorded
  cases hrecorded with
  | opened ht hnew => exact h.snoc_new ht hnew
  | agreed ht hlisted => exact h.snoc_known ht hlisted

/-- A cell that is refused has no type, or not that of its column. -/
theorem register_error (h : Describes registry cells) {name : String} {cell : Structured}
    {e : TypeMismatch} (hr : register registry name cell = .error e) :
    ¬ Uniform (cells ++ [(name, cell)]) := by
  intro hu
  have hcell : (name, cell) ∈ cells ++ [(name, cell)] :=
    List.mem_append_right _ List.mem_cons_self
  have hrecorded := register_records registry name cell
  rw [hr] at hrecorded
  cases hrecorded with
  | refused he =>
    obtain ⟨t, ht, -⟩ := hu name cell cell hcell hcell
    rw [ht] at he
    cases he
  | mixed ht hlisted hne =>
    obtain ⟨cell', hmem, ht'⟩ := h.founded name _ hlisted
    obtain ⟨u, hc, hc'⟩ := hu name cell cell' hcell (List.mem_append_left _ hmem)
    rw [ht] at hc
    rw [ht'] at hc'
    exact hne ((Except.ok.inj hc).trans (Except.ok.inj hc').symm)

/-- A registry that records cells describes them with those before. -/
theorem registerRow_describes {more : List (String × Structured)} (h : Describes registry cells)
    (hr : registerRow registry more = .ok registry') : Describes registry' (cells ++ more) := by
  -- The invariant is that the registry describes the cells recorded so far.
  induction more generalizing registry cells with
  | nil =>
    cases hr
    rw [List.append_nil]
    exact h
  | cons entry rest ih =>
    rw [registerRow] at hr
    cases hx : register registry entry.1 entry.2 with
    | error e =>
      rw [hx] at hr
      cases hr
    | ok next =>
      rw [hx] at hr
      have hnext := ih (register_describes h hx) hr
      rw [List.append_assoc, List.singleton_append] at hnext
      exact hnext

/-- Cells that are refused are not uniform with those before. -/
theorem registerRow_error {more : List (String × Structured)} {e : TypeMismatch}
    (h : Describes registry cells) (hr : registerRow registry more = .error e) :
    ¬ Uniform (cells ++ more) := by
  induction more generalizing registry cells with
  | nil => cases hr
  | cons entry rest ih =>
    rw [registerRow] at hr
    cases hx : register registry entry.1 entry.2 with
    | error e' =>
      -- The cells up to the refused one are not uniform, so no more of them are.
      have hsplit : cells ++ entry :: rest = cells ++ [(entry.1, entry.2)] ++ rest := by
        rw [List.append_assoc, List.singleton_append]
      intro hu
      rw [hsplit] at hu
      exact register_error h hx (hu.mono (List.subset_append_left _ _))
    | ok next =>
      rw [hx] at hr
      have hnext := ih (register_describes h hx) hr
      rw [List.append_assoc, List.singleton_append] at hnext
      exact hnext

end Describes

/-- Cells are recorded one part after the other. -/
theorem registerRow_append (registry : Registry) (cells more : List (String × Structured)) :
    registerRow registry (cells ++ more) =
      match registerRow registry cells with
      | .error e => .error e
      | .ok registry' => registerRow registry' more := by
  induction cells generalizing registry with
  | nil => rfl
  | cons entry rest ih =>
    rw [List.cons_append, registerRow, registerRow]
    cases register registry entry.1 entry.2 with
    | error e => rfl
    | ok next => exact ih next

/-- Recording rows is recording their cells. -/
theorem registerRows_eq (registry : Registry) (rows : List Structured) :
    registerRows registry rows = registerRow registry (cellsOf rows) := by
  induction rows generalizing registry with
  | nil => rfl
  | cons row rest ih =>
    unfold cellsOf at ih ⊢
    rw [registerRows, List.flatMap_cons, registerRow_append]
    cases registerRow registry row.rowColumns with
    | error e => rfl
    | ok next => exact ih next

/-- A table has the headers of a registry that describes the cells of its rows,
and its rows aligned to them. -/
theorem infer_eq_ok {v : Structured} {t : Table} (h : infer v = .ok t) :
    ∃ registry, Describes registry (cellsOf v.rows) ∧ t.headers = headersOf registry ∧
      t.data = v.rows.map (alignRow t.headers) := by
  unfold infer at h
  rw [registerRows_eq] at h
  cases hr : registerRow [] (cellsOf v.rows) with
  | error e =>
    rw [hr] at h
    cases h
  | ok registry =>
    rw [hr] at h
    cases h
    exact ⟨registry, registerRow_describes describes_nil hr, rfl, rfl⟩

/-- A value has a table if and only if the cells of its rows are uniform. -/
theorem infer_isOk_iff (v : Structured) : (∃ t, infer v = .ok t) ↔ Uniform (cellsOf v.rows) := by
  constructor
  · rintro ⟨t, h⟩
    obtain ⟨registry, hd, -⟩ := infer_eq_ok h
    exact hd.uniform
  · intro hu
    unfold infer
    rw [registerRows_eq]
    cases hr : registerRow [] (cellsOf v.rows) with
    | error e => exact absurd hu (registerRow_error describes_nil hr)
    | ok registry => exact ⟨_, rfl⟩

section Headers

variable {registry registry' : Registry} {cells cells' : List (String × Structured)}

/-- The names of the headers are those of the registry, sorted. -/
theorem names_headersOf (registry : Registry) :
    (headersOf registry).map Header.name = Assoc.keys (sortFields registry) := by
  unfold headersOf Assoc.keys
  rw [List.map_map]
  rfl

/-- A header stands for a column of the registry. -/
theorem mem_headersOf {h : Header} : h ∈ headersOf registry ↔ (h.name, h.type) ∈ registry := by
  unfold headersOf
  rw [List.mem_map]
  constructor
  · rintro ⟨column, hmem, rfl⟩
    exact (sortFields_perm registry).mem_iff.mp hmem
  · intro hmem
    exact ⟨(h.name, h.type), (sortFields_perm registry).mem_iff.mpr hmem, rfl⟩

/-- The headers are determined by which cells there are. -/
theorem headersOf_eq (h : Describes registry cells) (h' : Describes registry' cells')
    (hsame : ∀ x, x ∈ cells ↔ x ∈ cells') : headersOf registry = headersOf registry' := by
  have hnodup : ∀ {r : Registry}, (Assoc.keys r).Nodup → r.Nodup :=
    fun {r} hd => List.Pairwise.of_map Prod.fst (fun a b hne hab => hne (congrArg Prod.fst hab)) hd
  have hperm : registry.Perm registry' := by
    refine (List.perm_ext_iff_of_nodup (hnodup h.distinct) (hnodup h'.distinct)).mpr ?_
    rintro ⟨name, t⟩
    rw [h.mem_iff, h'.mem_iff]
    simp only [hsame]
  unfold headersOf
  rw [sortFields_eq_of_perm hperm h.distinct]

end Headers

end LiveSession.Table
