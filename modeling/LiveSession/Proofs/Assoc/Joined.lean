import LiveSession.Assoc

/-!
# Joining equal keys and equal members

Of entries with equal keys one is left, and of equal members the first. What is left
brings in nothing new, and a map that keeps which keys are equal can be made before or
after.
-/

namespace LiveSession.Assoc

section Entries

variable {α β γ : Type} {same : α → α → Bool} {key : α} {value : β} {entries : List (α × β)}

/-- Putting an entry brings in no other value. -/
theorem value_of_mem_put {e : α × β} (h : e ∈ put same key value entries) :
    e.2 = value ∨ ∃ e' ∈ entries, e'.2 = e.2 := by
  induction entries with
  | nil =>
    cases List.mem_singleton.mp h
    exact .inl rfl
  | cons first rest ih =>
    rw [put] at h
    split at h
    · rcases List.mem_cons.mp h with rfl | hmem
      · exact .inl rfl
      · exact .inr ⟨e, List.mem_cons_of_mem _ hmem, rfl⟩
    · rcases List.mem_cons.mp h with rfl | hmem
      · exact .inr ⟨_, List.mem_cons_self, rfl⟩
      · rcases ih hmem with hvalue | ⟨e', hmem', hvalue⟩
        · exact .inl hvalue
        · exact .inr ⟨e', List.mem_cons_of_mem _ hmem', hvalue⟩

/-- Joining entries brings in no other value. -/
theorem value_of_mem_ofList {e : α × β} (h : e ∈ ofList same entries) :
    ∃ e' ∈ entries, e'.2 = e.2 := by
  have hfold : ∀ acc : List (α × β),
      e ∈ entries.foldl (fun acc e => put same e.1 e.2 acc) acc →
        (∃ e' ∈ acc, e'.2 = e.2) ∨ ∃ e' ∈ entries, e'.2 = e.2 := by
    clear h
    induction entries with
    | nil => exact fun acc h => .inl ⟨e, h, rfl⟩
    | cons first rest ih =>
      intro acc h
      rcases ih _ h with ⟨e', hmem, hvalue⟩ | ⟨e', hmem, hvalue⟩
      · rcases value_of_mem_put hmem with hfirst | ⟨e'', hmem', hvalue'⟩
        · exact .inr ⟨first, List.mem_cons_self, hfirst.symm.trans hvalue⟩
        · exact .inl ⟨e'', hmem', hvalue'.trans hvalue⟩
      · exact .inr ⟨e', List.mem_cons_of_mem _ hmem, hvalue⟩
  rcases hfold [] h with ⟨e', hmem, -⟩ | hfound
  · cases hmem
  · exact hfound

/-- Putting an entry under a key that is compared as before, in a mapped list. -/
theorem put_map {g : α → α} {k : β → γ} (hg : ∀ a b, same (g a) (g b) = same a b) (key : α)
    (value : β) (entries : List (α × β)) :
    put same (g key) (k value) (entries.map fun e => (g e.1, k e.2)) =
      (put same key value entries).map fun e => (g e.1, k e.2) := by
  induction entries with
  | nil => rfl
  | cons e rest ih =>
    rw [List.map_cons, put, put, hg]
    by_cases hs : same e.1 key = true
    · rw [if_pos hs, if_pos hs, List.map_cons]
    · rw [if_neg hs, if_neg hs, List.map_cons, ih]

/-- Entries under keys that are compared as before are joined as before. -/
theorem ofList_map {g : α → α} {k : β → γ} (hg : ∀ a b, same (g a) (g b) = same a b)
    (entries : List (α × β)) :
    ofList same (entries.map fun e => (g e.1, k e.2)) =
      (ofList same entries).map fun e => (g e.1, k e.2) := by
  have hfold : ∀ acc : List (α × β),
      (entries.map fun e => (g e.1, k e.2)).foldl (fun acc e => put same e.1 e.2 acc)
          (acc.map fun e => (g e.1, k e.2)) =
        (entries.foldl (fun acc e => put same e.1 e.2 acc) acc).map
          fun e => (g e.1, k e.2) := by
    induction entries with
    | nil => exact fun acc => rfl
    | cons e rest ih =>
      intro acc
      rw [List.map_cons, List.foldl_cons, List.foldl_cons]
      dsimp only
      rw [put_map hg, ih]
  exact hfold []

/-- Entries with mapped values are joined as before. -/
theorem ofList_map_values (k : β → γ) (entries : List (α × β)) :
    ofList same (entries.map fun e => (e.1, k e.2)) =
      (ofList same entries).map fun e => (e.1, k e.2) :=
  ofList_map (g := fun key => key) (fun _ _ => rfl) entries

end Entries

section Members

variable {α : Type} {same : α → α → Bool}

/-- The members that are left of a list when some were seen before. -/
def unseen (same : α → α → Bool) (seen : List α) : List α → List α
  | [] => []
  | m :: rest =>
    if seen.any (same · m) then unseen same seen rest else m :: unseen same (seen ++ [m]) rest

/-- The distinct members are those that were not seen before. -/
theorem distinct_eq_unseen (members : List α) : distinct same members = unseen same [] members := by
  have hfold : ∀ seen : List α,
      members.foldl (fun acc m => if acc.any (same · m) then acc else acc ++ [m]) seen =
        seen ++ unseen same seen members := by
    induction members with
    | nil => exact fun seen => (List.append_nil seen).symm
    | cons m rest ih =>
      intro seen
      rw [List.foldl_cons, unseen]
      split
      · exact ih seen
      · rw [ih, List.append_assoc, List.singleton_append]
  exact hfold []

/-- Members that are compared as before are left as before. -/
theorem unseen_map {g : α → α} (hg : ∀ a b, same (g a) (g b) = same a b) (seen members : List α) :
    unseen same (seen.map g) (members.map g) = (unseen same seen members).map g := by
  induction members generalizing seen with
  | nil => rfl
  | cons m rest ih =>
    have hany : (seen.map g).any (same · (g m)) = seen.any (same · m) := by
      rw [List.any_map]
      simp only [Function.comp_def, hg]
    have hnext := ih (seen ++ [m])
    rw [List.map_append, List.map_singleton] at hnext
    rw [List.map_cons, unseen, unseen, hany]
    split
    · exact ih seen
    · rw [List.map_cons, hnext]

/-- Members that are compared as before are distinct as before. -/
theorem distinct_map {g : α → α} (hg : ∀ a b, same (g a) (g b) = same a b) (members : List α) :
    distinct same (members.map g) = (distinct same members).map g := by
  rw [distinct_eq_unseen, distinct_eq_unseen]
  exact unseen_map hg [] members

/-- A member that is left is one of the list. -/
theorem mem_of_mem_unseen {seen members : List α} {m : α} (h : m ∈ unseen same seen members) :
    m ∈ members := by
  induction members generalizing seen with
  | nil => exact h
  | cons first rest ih =>
    rw [unseen] at h
    split at h
    · exact List.mem_cons_of_mem _ (ih h)
    · rcases List.mem_cons.mp h with rfl | hlater
      · exact List.mem_cons_self
      · exact List.mem_cons_of_mem _ (ih hlater)

end Members

end LiveSession.Assoc
