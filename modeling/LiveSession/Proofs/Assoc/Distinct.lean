import LiveSession.Assoc
import LiveSession.Structured

/-!
# Entries with distinct keys

Where no key is listed twice, looking a key up gives the value of the one entry
that has it.
-/

namespace LiveSession

/-- Keys are distinct where none is listed twice. -/
theorem distinctKeys_iff {β : Type} (fields : List (String × β)) :
    distinctKeys fields = true ↔ (Assoc.keys fields).Nodup := by
  induction fields with
  | nil => exact ⟨fun _ => List.nodup_nil, fun _ => rfl⟩
  | cons field rest ih =>
    have hany : (rest.any fun f => f.1 == field.1) = false ↔ field.1 ∉ Assoc.keys rest := by
      rw [List.any_eq_false]
      constructor
      · intro h hmem
        obtain ⟨f, hf, hkey⟩ := List.mem_map.mp hmem
        exact h f hf (beq_iff_eq.mpr hkey)
      · intro h f hf hkey
        exact h (List.mem_map.mpr ⟨f, hf, beq_iff_eq.mp hkey⟩)
    unfold distinctKeys
    rw [Bool.and_eq_true, Bool.not_eq_true', hany, ih]
    exact List.nodup_cons.symm

namespace Assoc

variable {α β : Type} [BEq α] [LawfulBEq α] {key : α} {value : β} {entries : List (α × β)}

/-- A value that is found is that of an entry. -/
theorem mem_of_find? (h : find? (· == ·) key entries = some value) : (key, value) ∈ entries := by
  induction entries with
  | nil => cases h
  | cons entry rest ih =>
    rw [find?] at h
    split at h
    · next hkey =>
      cases h
      rw [← beq_iff_eq.mp hkey]
      exact List.mem_cons_self
    · exact List.mem_cons_of_mem _ (ih h)

/-- Nothing is found of a key that is not listed. -/
theorem not_mem_keys_of_find? (h : find? (· == ·) key entries = none) : key ∉ keys entries := by
  induction entries with
  | nil => exact List.not_mem_nil
  | cons entry rest ih =>
    rw [find?] at h
    split at h
    · cases h
    · next hkey =>
      intro hmem
      rcases List.mem_cons.mp hmem with hhere | hlater
      · exact hkey (beq_iff_eq.mpr hhere.symm)
      · exact ih h hlater

/-- The value of an entry is found where no key is listed twice. -/
theorem find?_of_mem (hd : (keys entries).Nodup) (h : (key, value) ∈ entries) :
    find? (· == ·) key entries = some value := by
  induction entries with
  | nil => cases h
  | cons entry rest ih =>
    obtain ⟨hnew, hrest⟩ := List.nodup_cons.mp hd
    rw [find?]
    rcases List.mem_cons.mp h with hhere | hlater
    · rw [← hhere, if_pos (beq_self_eq_true key)]
    · rw [if_neg, ih hrest hlater]
      intro hkey
      rw [beq_iff_eq.mp hkey] at hnew
      exact hnew (List.mem_map.mpr ⟨_, hlater, rfl⟩)

end Assoc

end LiveSession
