import LiveSession.Proofs.Assoc.Distinct
import LiveSession.Table

/-!
# Fields in the order of their keys

Sorting fields by their keys loses none and repeats none. Fields with distinct
keys are strictly sorted afterwards, so that their order before does not
matter.
-/

namespace LiveSession

variable {β : Type} {fields fields' : List (String × β)}

/-- Sorting rearranges fields. -/
theorem sortFields_perm (fields : List (String × β)) : (sortFields fields).Perm fields :=
  List.mergeSort_perm fields _

/-- Sorted fields are in the order of their keys. -/
theorem sortFields_pairwise (fields : List (String × β)) :
    (sortFields fields).Pairwise fun a b => a.1 ≤ b.1 := by
  have htrans : ∀ a b c : String × β, decide (a.1 ≤ b.1) = true → decide (b.1 ≤ c.1) = true →
      decide (a.1 ≤ c.1) = true := fun a b c hab hbc =>
    decide_eq_true (String.le_trans (of_decide_eq_true hab) (of_decide_eq_true hbc))
  have htotal : ∀ a b : String × β, (decide (a.1 ≤ b.1) || decide (b.1 ≤ a.1)) = true := by
    intro a b
    rw [Bool.or_eq_true, decide_eq_true_eq, decide_eq_true_eq]
    exact String.le_total a.1 b.1
  have h := List.pairwise_mergeSort htrans htotal fields
  exact h.imp of_decide_eq_true

/-- Sorting keeps keys distinct. -/
theorem keys_sortFields_nodup (hd : (Assoc.keys fields).Nodup) :
    (Assoc.keys (sortFields fields)).Nodup :=
  ((sortFields_perm fields).map Prod.fst).nodup_iff.mpr hd

/-- Distinct keys are strictly sorted afterwards. -/
theorem keys_sortFields_sorted (hd : (Assoc.keys fields).Nodup) :
    (Assoc.keys (sortFields fields)).Pairwise (· < ·) := by
  have hle : (Assoc.keys (sortFields fields)).Pairwise (· ≤ ·) :=
    List.pairwise_map.mpr (sortFields_pairwise fields)
  have hne : (Assoc.keys (sortFields fields)).Pairwise (· ≠ ·) := keys_sortFields_nodup hd
  refine List.Pairwise.imp₂ (fun a b hab hne => ?_) hle hne
  exact String.not_le.mp fun hba => hne (String.le_antisymm hab hba)

/-- Two entries of one key are the same where keys are distinct. -/
theorem eq_of_keys_nodup (hd : (Assoc.keys fields).Nodup) {a b : String × β} (ha : a ∈ fields)
    (hb : b ∈ fields) (h : a.1 = b.1) : a = b := by
  have hfound : Assoc.find? (· == ·) a.1 fields = some a.2 := Assoc.find?_of_mem hd ha
  rw [h, Assoc.find?_of_mem hd hb] at hfound
  exact Prod.ext h (Option.some.inj hfound).symm

/-- Fields with distinct keys are sorted alike however they were arranged. -/
theorem sortFields_eq_of_perm (h : fields.Perm fields') (hd : (Assoc.keys fields).Nodup) :
    sortFields fields = sortFields fields' := by
  have hperm : (sortFields fields).Perm (sortFields fields') :=
    (sortFields_perm fields).trans (h.trans (sortFields_perm fields').symm)
  refine List.Perm.eq_of_pairwise (fun a b ha hb hab hba => ?_) (sortFields_pairwise fields)
    (sortFields_pairwise fields') hperm
  exact eq_of_keys_nodup (keys_sortFields_nodup hd) ha (hperm.mem_iff.mpr hb)
    (String.le_antisymm hab hba)

end LiveSession
