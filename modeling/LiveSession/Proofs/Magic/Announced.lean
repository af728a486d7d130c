import LiveSession.Magic
import LiveSession.Submission
import Mathlib.Data.List.Basic

/-!
# Announced magics

A magic line begins with a percent sign and a word character, and a single
line that begins so is a magic line. Whether a text begins so is settled by its
first line: a line feed is no word character, so lines that are joined to a
text make no difference. Text in braces never begins so.
-/

namespace LiveSession.Magic

/-- Whether characters begin with a percent sign and a word character. -/
def announcesChars : List Char → Bool
  | mark :: c :: _ => mark == '%' && Text.isWord c
  | _ => false

/-- Whether a text begins as a magic line does. -/
def announces (text : String) : Bool :=
  announcesChars text.toList

/-- Only what begins as a magic line does is a magic. -/
theorem announcesChars_of_ofChars? {cs : List Char} {m : List Char × List Char}
    (h : ofChars? cs = some m) : announcesChars cs = true := by
  unfold ofChars? at h
  split at h
  · next cs =>
    unfold split? at h
    dsimp only at h
    split at h
    · cases h
    · next hname =>
      cases cs with
      | nil => exact absurd rfl hname
      | cons c cs =>
        by_cases hc : Text.isWord c = true
        · exact hc
        · rw [List.takeWhile_cons_of_neg hc] at hname
          exact absurd rfl hname
  · cases h

/-- What begins as a magic line does is one, if it has no line feed. -/
theorem ofChars?_isSome {cs : List Char} (h : announcesChars cs = true) (hn : '\n' ∉ cs) :
    (ofChars? cs).isSome = true := by
  match cs, h with
  | mark :: c :: cs, h =>
    obtain ⟨hmark, hc⟩ := Bool.and_eq_true_iff.mp h
    cases beq_iff_eq.mp hmark
    -- The argument is a part of the line, so it has no line feed either.
    have hargument : (((c :: cs).dropWhile Text.isWord).dropWhile
        (!Text.isWord ·)).contains '\n' = false := by
      rw [Bool.eq_false_iff, ne_eq, List.contains_iff_mem]
      exact fun hmem => hn (List.mem_cons_of_mem _
        ((List.dropWhile_sublist _).mem ((List.dropWhile_sublist _).mem hmem)))
    change (split? (c :: cs)).isSome = true
    unfold split?
    dsimp only
    rw [List.takeWhile_cons_of_pos hc, hargument]
    rfl

/-- A line feed and what comes after it make no difference to how a text
begins. -/
theorem announcesChars_append (cs ds : List Char) :
    announcesChars (cs ++ '\n' :: ds) = announcesChars cs := by
  have hword : Text.isWord '\n' = false := by decide
  match cs with
  | [] =>
    cases ds with
    | nil => rfl
    | cons d ds => rfl
  | [mark] =>
    change (mark == '%' && Text.isWord '\n') = false
    rw [hword, Bool.and_false]
  | mark :: c :: cs => rfl

/-- A text that does not begin as a magic line does is ordinary source. -/
theorem ofLine?_of_not_announces {text : String} (h : announces text = false) :
    ofLine? text = none := by
  unfold ofLine?
  cases hm : ofChars? text.toList with
  | none => rfl
  | some m =>
    rw [announces, announcesChars_of_ofChars? hm] at h
    cases h

/-- A single line is a magic if and only if it begins as one. -/
theorem ofLine?_isSome {line : String} (hn : '\n' ∉ line.toList) :
    (ofLine? line).isSome = announces line := by
  cases h : announces line with
  | false => rw [ofLine?_of_not_announces h, Option.isSome_none]
  | true => rw [ofLine?, Option.isSome_map, ofChars?_isSome h hn]

/-- A text that is joined to another makes no difference to how that begins. -/
theorem announces_join (a b : String) : announces (Submission.join a b) = announces a := by
  unfold announces Submission.join
  rw [String.toList_append, String.toList_append, List.append_assoc]
  exact announcesChars_append _ _

/-- Joined lines begin as the first of them does. -/
theorem announces_intercalate (line : String) (rest : List String) :
    announces (String.intercalate "\n" (line :: rest)) = announces line := by
  cases rest with
  | nil => rw [String.intercalate_singleton]
  | cons next rest =>
    rw [String.intercalate_cons_cons, ← Submission.join, announces_join]

/-- Text in braces does not begin as a magic line does. -/
theorem announces_braced (block : String) :
    announces ("\x7b\n" ++ block ++ "\n\x7d") = false := by
  unfold announces
  rw [String.toList_append, String.toList_append]
  rfl

end LiveSession.Magic
