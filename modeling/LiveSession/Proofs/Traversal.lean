import Mathlib.Data.List.Forall2

/-!
# Traversals that stop at the first error

Going through a list with an operation that can fail gives one result for each
member, in order, or the first error. So what is known of the results of single
members is known of the results of the list.
-/

namespace LiveSession

variable {α β ε : Type} {f : α → Except ε β} {xs : List α} {ys : List β}

/-- A result is made from another where there is one. -/
theorem map_eq_ok_iff {x : Except ε α} {g : α → β} {y : β} :
    x.map g = .ok y ↔ ∃ a, x = .ok a ∧ y = g a := by
  cases x with
  | error err =>
    constructor
    · intro h
      cases h
    · rintro ⟨a, ha, -⟩
      cases ha
  | ok a =>
    constructor
    · intro h
      cases h
      exact ⟨a, rfl, rfl⟩
    · rintro ⟨a', ha, rfl⟩
      cases ha
      rfl

/-- No result is made where there is none. -/
theorem map_eq_error_iff {x : Except ε α} {g : α → β} {e : ε} :
    x.map g = .error e ↔ x = .error e := by
  cases x with
  | error err =>
    change Except.error err = Except.error e ↔ _
    rw [Except.error.injEq, Except.error.injEq]
  | ok a =>
    constructor
    · intro h
      cases h
    · intro h
      cases h

/-- A run that gives up at the first error goes through a list one by one. -/
theorem eq_mapM_of_run {run : List α → Except ε (List β)} (nil : run [] = .ok [])
    (cons : ∀ x rest, run (x :: rest) = (f x).bind fun y => (run rest).map (y :: ·))
    (xs : List α) : run xs = xs.mapM f := by
  induction xs with
  | nil => exact nil
  | cons x rest ih =>
    rw [cons, List.mapM_cons, ih]
    cases f x with
    | error e => rfl
    | ok y =>
      cases rest.mapM f with
      | error e => rfl
      | ok ys => rfl

/-- Going through a mapped list with a function that respects the maps. -/
theorem mapM_map {α' β' : Type} {g : α → α'} {k : β → β'} {f' : α' → Except ε β'}
    (h : ∀ x ∈ xs, f' (g x) = (f x).map k) :
    (xs.map g).mapM f' = (xs.mapM f).map (List.map k) := by
  induction xs with
  | nil => rfl
  | cons x rest ih =>
    obtain ⟨hx, hrest⟩ := List.forall_mem_cons.mp h
    rw [List.map_cons, List.mapM_cons, List.mapM_cons, hx, ih hrest]
    cases f x with
    | error e => rfl
    | ok y =>
      cases rest.mapM f with
      | error e => rfl
      | ok ys => rfl

/-- Going through a mapped list with a function that is on each member what another is on
what was mapped to it. -/
theorem mapM_map_of_eq {α' : Type} {g : α → α'} {f' : α' → Except ε β}
    (h : ∀ x ∈ xs, f' (g x) = f x) : (xs.map g).mapM f' = xs.mapM f := by
  induction xs with
  | nil => rfl
  | cons x rest ih =>
    obtain ⟨hx, hrest⟩ := List.forall_mem_cons.mp h
    rw [List.map_cons, List.mapM_cons, List.mapM_cons, hx, ih hrest]

/-- A list is gone through to its end with the results of its members, in order. -/
theorem mapM_eq_ok_iff : xs.mapM f = .ok ys ↔ List.Forall₂ (fun x y => f x = .ok y) xs ys := by
  induction xs generalizing ys with
  | nil =>
    rw [List.mapM_nil, List.forall₂_nil_left_iff]
    exact ⟨fun h => (Except.ok.inj h).symm, fun h => congrArg Except.ok h.symm⟩
  | cons x rest ih =>
    rw [List.mapM_cons, List.forall₂_cons_left_iff]
    cases hx : f x with
    | error err =>
      constructor
      · intro h
        cases h
      · rintro ⟨y, ys', hy, -⟩
        cases hy
    | ok y =>
      cases hrest : rest.mapM f with
      | error err =>
        constructor
        · intro h
          cases h
        · rintro ⟨_, ys', -, h, -⟩
          rw [ih.mpr h] at hrest
          cases hrest
      | ok ys' =>
        constructor
        · intro h
          cases h
          exact ⟨y, ys', rfl, ih.mp hrest, rfl⟩
        · rintro ⟨_, ys'', hy, h, rfl⟩
          cases hy
          cases hrest.symm.trans (ih.mpr h)
          rfl

/-- There is one result for each member. -/
theorem length_of_mapM (h : xs.mapM f = .ok ys) : ys.length = xs.length :=
  (mapM_eq_ok_iff.mp h).length_eq.symm

/-- The results stand in the places of their members. -/
theorem getElem?_of_mapM (h : xs.mapM f = .ok ys) {i : Nat} {y : β} :
    ys[i]? = some y ↔ ∃ x, xs[i]? = some x ∧ f x = .ok y := by
  induction mapM_eq_ok_iff.mp h generalizing i with
  | nil =>
    constructor
    · intro hy
      cases hy
    · rintro ⟨x, hx, -⟩
      cases hx
  | @cons x y' xs ys hx hrest ih =>
    cases i with
    | zero =>
      rw [List.getElem?_cons_zero, List.getElem?_cons_zero]
      constructor
      · intro hy
        cases hy
        exact ⟨x, rfl, hx⟩
      · rintro ⟨x', hx', hf⟩
        cases hx'
        cases hx.symm.trans hf
        rfl
    | succ i => exact ih (mapM_eq_ok_iff.mpr hrest)

/-- Whatever stands in a list has something related to it in a related list. -/
theorem exists_of_forall₂ {R : α → β → Prop} (h : List.Forall₂ R xs ys) {y : β} (hy : y ∈ ys) :
    ∃ x ∈ xs, R x y := by
  induction h with
  | nil => cases hy
  | cons hxy _ ih =>
    rcases List.mem_cons.mp hy with rfl | hlater
    · exact ⟨_, List.mem_cons_self, hxy⟩
    · obtain ⟨x, hx, hrelated⟩ := ih hlater
      exact ⟨x, List.mem_cons_of_mem _ hx, hrelated⟩

/-- Every result is that of a member. -/
theorem mem_of_mapM (h : xs.mapM f = .ok ys) {y : β} : y ∈ ys ↔ ∃ x ∈ xs, f x = .ok y := by
  constructor
  · intro hy
    obtain ⟨i, hi⟩ := List.getElem?_of_mem hy
    obtain ⟨x, hx, hf⟩ := (getElem?_of_mapM h).mp hi
    exact ⟨x, List.mem_of_getElem? hx, hf⟩
  · rintro ⟨x, hx, hf⟩
    obtain ⟨i, hi⟩ := List.getElem?_of_mem hx
    exact List.mem_of_getElem? ((getElem?_of_mapM h).mpr ⟨x, hi, hf⟩)

/-- Every member has a result. -/
theorem ok_of_mapM (h : xs.mapM f = .ok ys) : ∀ x ∈ xs, ∃ y ∈ ys, f x = .ok y := by
  intro x hx
  induction mapM_eq_ok_iff.mp h with
  | nil => cases hx
  | cons hy hrest ih =>
    rcases List.mem_cons.mp hx with rfl | hlater
    · exact ⟨_, List.mem_cons_self, hy⟩
    · obtain ⟨y, hmem, hy⟩ := ih (mapM_eq_ok_iff.mpr hrest) hlater
      exact ⟨y, List.mem_cons_of_mem _ hmem, hy⟩

/-- Lists with the same results are the same where members with the same result are. -/
theorem eq_of_mapM {zs : List α} (h : xs.mapM f = .ok ys) (h' : zs.mapM f = .ok ys)
    (hf : ∀ x ∈ xs, ∀ z ∈ zs, ∀ y, f x = .ok y → f z = .ok y → x = z) : xs = zs := by
  induction mapM_eq_ok_iff.mp h generalizing zs with
  | nil => exact (List.forall₂_nil_right_iff.mp (mapM_eq_ok_iff.mp h')).symm
  | @cons x y xs ys hx hrest ih =>
    obtain ⟨z, zs', hz, hzs, rfl⟩ := List.forall₂_cons_right_iff.mp (mapM_eq_ok_iff.mp h')
    have hhead : x = z := hf x List.mem_cons_self z List.mem_cons_self y hx hz
    have htail : xs = zs' := ih (mapM_eq_ok_iff.mpr hrest) (mapM_eq_ok_iff.mpr hzs)
      fun x hmem z hmem' =>
        hf x (List.mem_cons_of_mem _ hmem) z (List.mem_cons_of_mem _ hmem')
    rw [hhead, htail]

/-- Going through the first of a list gives the first of what going through all of it
gives. -/
theorem mapM_take (h : xs.mapM f = .ok ys) (n : Nat) : (xs.take n).mapM f = .ok (ys.take n) :=
  mapM_eq_ok_iff.mpr (List.forall₂_take n (mapM_eq_ok_iff.mp h))

/-- Going through a list ends at the first member that fails. -/
theorem mapM_eq_error_iff {e : ε} :
    xs.mapM f = .error e ↔ ∃ before x after, xs = before ++ x :: after ∧
      (∀ y ∈ before, ∃ z, f y = .ok z) ∧ f x = .error e := by
  induction xs with
  | nil =>
    constructor
    · intro h
      cases h
    · rintro ⟨before, x, after, h, -⟩
      exact absurd h.symm (List.append_ne_nil_of_right_ne_nil before (List.cons_ne_nil x after))
  | cons x rest ih =>
    rw [List.mapM_cons]
    cases hx : f x with
    | error err =>
      constructor
      · intro h
        cases h
        exact ⟨[], x, rest, rfl, fun y hy => absurd hy List.not_mem_nil, hx⟩
      · rintro ⟨before, y, after, hsplit, hbefore, hy⟩
        cases before with
        | nil =>
          cases hsplit
          cases hx.symm.trans hy
          rfl
        | cons first before =>
          cases hsplit
          obtain ⟨z, hz⟩ := hbefore x List.mem_cons_self
          cases hx.symm.trans hz
    | ok z =>
      have hrest : (Except.ok z >>= fun y => rest.mapM f >>= fun ys => pure (y :: ys)) =
          (rest.mapM f).map (z :: ·) := by
        cases rest.mapM f <;> rfl
      rw [hrest, map_eq_error_iff, ih]
      constructor
      · rintro ⟨before, y, after, rfl, hbefore, hy⟩
        exact ⟨x :: before, y, after, rfl, List.forall_mem_cons.mpr ⟨⟨z, hx⟩, hbefore⟩, hy⟩
      · rintro ⟨before, y, after, hsplit, hbefore, hy⟩
        cases before with
        | nil =>
          cases hsplit
          cases hx.symm.trans hy
        | cons first before =>
          cases hsplit
          exact ⟨before, y, after, rfl, (List.forall_mem_cons.mp hbefore).2, hy⟩

/-- Where a mapped list is split at a member, the list is. -/
theorem exists_split_map {g : α → β} {P Q : β → Prop} :
    (∃ before y after, xs.map g = before ++ y :: after ∧ (∀ z ∈ before, P z) ∧ Q y) ↔
      ∃ before x after, xs = before ++ x :: after ∧ (∀ z ∈ before, P (g z)) ∧ Q (g x) := by
  constructor
  · rintro ⟨before, y, after, hsplit, hbefore, hy⟩
    obtain ⟨before', rest, rfl, rfl, hrest⟩ := List.map_eq_append_iff.mp hsplit
    obtain ⟨x, after', rfl, rfl, rfl⟩ := List.map_eq_cons_iff.mp hrest
    exact ⟨before', x, after', rfl, List.forall_mem_map.mp hbefore, hy⟩
  · rintro ⟨before, x, after, rfl, hbefore, hx⟩
    exact ⟨before.map g, g x, after.map g, List.map_append, List.forall_mem_map.mpr hbefore, hx⟩

/-- A list is gone through to its end where no member fails. -/
theorem mapM_of_forall (h : ∀ x ∈ xs, ∃ y, f x = .ok y) : ∃ ys, xs.mapM f = .ok ys := by
  induction xs with
  | nil => exact ⟨[], rfl⟩
  | cons x rest ih =>
    obtain ⟨⟨y, hy⟩, hrest⟩ := List.forall_mem_cons.mp h
    obtain ⟨ys, hys⟩ := ih hrest
    exact ⟨y :: ys, mapM_eq_ok_iff.mpr (.cons hy (mapM_eq_ok_iff.mp hys))⟩

end LiveSession
