import LiveSession.Submission

/-!
# Lines and blanks of a submission

The lines of a text have no line feeds; joined with line feeds again they are
the text. Where a text is put after another with a line feed between them, its
lines come after those of the other. A text without blanks at its ends keeps
them out when it is joined with another such text.
-/

namespace LiveSession

namespace Text

/-- The lines of a text, joined with line feeds, are the text. -/
theorem intercalate_splitLines (cs : List Char) :
    List.intercalate ['\n'] (splitLines cs) = cs := by
  induction cs with
  | nil => rfl
  | cons c cs ih =>
    obtain ⟨line, rest, hl⟩ := List.exists_cons_of_ne_nil (splitLines_ne_nil cs)
    by_cases hc : c = '\n'
    · simp only [splitLines, if_pos hc]
      rw [List.intercalate_cons_of_ne_nil (splitLines_ne_nil cs), ih, hc]
      rfl
    · simp only [splitLines, if_neg hc, hl] at ih ⊢
      cases rest with
      | nil =>
        rw [List.intercalate_singleton] at ih ⊢
        rw [ih]
      | cons next rest =>
        rw [List.intercalate_cons_cons] at ih ⊢
        rw [List.cons_append, List.cons_append, ih]

/-- A line feed between two texts separates the lines of the first from those
of the second. -/
theorem splitLines_append (a b : List Char) :
    splitLines (a ++ '\n' :: b) = splitLines a ++ splitLines b := by
  induction a with
  | nil => simp only [List.nil_append, splitLines, if_true, List.cons_append]
  | cons c cs ih =>
    obtain ⟨line, rest, hl⟩ := List.exists_cons_of_ne_nil (splitLines_ne_nil cs)
    by_cases hc : c = '\n'
    · simp only [List.cons_append, splitLines, if_pos hc, ih]
    · simp only [List.cons_append, splitLines, if_neg hc, ih, hl]

/-- The lines of a text have no line feeds. -/
theorem not_mem_of_mem_splitLines {line cs : List Char} (h : line ∈ splitLines cs) :
    '\n' ∉ line := by
  induction cs generalizing line with
  | nil =>
    rw [List.mem_singleton.mp h]
    exact List.not_mem_nil
  | cons c cs ih =>
    obtain ⟨first, rest, hl⟩ := List.exists_cons_of_ne_nil (splitLines_ne_nil cs)
    rw [hl] at ih
    by_cases hc : c = '\n'
    · simp only [splitLines, if_pos hc, hl] at h
      rcases List.mem_cons.mp h with rfl | h
      · exact List.not_mem_nil
      · exact ih h
    · simp only [splitLines, if_neg hc, hl] at h
      rcases List.mem_cons.mp h with rfl | h
      · exact List.not_mem_cons_of_ne_of_not_mem (Ne.symm hc) (ih List.mem_cons_self)
      · exact ih (List.mem_cons_of_mem first h)

section Trim

variable {p : Char → Bool} {c d : Char} {cs ds : List Char}

/-- Trimming takes away a character of the class at the start. -/
theorem head_of_trimBoth (h : trimBoth p (c :: cs) = c :: cs) : p c = false := by
  refine Bool.eq_false_iff.mpr fun hp => ?_
  have hd : (trimBoth p (c :: cs)).length ≤ cs.length := by
    unfold trimBoth
    rw [List.dropWhile_cons_of_pos hp, List.length_reverse]
    have hl := (List.dropWhile_sublist p (l := (cs.dropWhile p).reverse)).length_le
    rw [List.length_reverse] at hl
    exact Nat.le_trans hl (List.dropWhile_sublist p).length_le
  rw [h, List.length_cons] at hd
  omega

/-- Where the first character is not of the class, trimming is done at the end. -/
theorem trimBoth_of_head (hc : p c = false) :
    trimBoth p (c :: cs) = ((c :: cs).reverse.dropWhile p).reverse := by
  unfold trimBoth
  rw [List.dropWhile_cons_of_neg (by simp only [hc, Bool.false_eq_true, not_false_eq_true])]

/-- Trimming takes away a character of the class at the end. -/
theorem last_of_trimBoth (h : trimBoth p (c :: cs) = c :: cs) (hd : c :: cs = ds ++ [d]) :
    p d = false := by
  refine Bool.eq_false_iff.mpr fun hp => ?_
  rw [trimBoth_of_head (head_of_trimBoth h), hd, List.reverse_concat,
    List.dropWhile_cons_of_pos hp] at h
  have hl := (List.dropWhile_sublist p (l := ds.reverse)).length_le
  rw [List.length_reverse] at hl
  have he := congrArg List.length h
  rw [List.length_reverse, List.length_append, List.length_singleton] at he
  omega

/-- A text whose ends are not of the class is left alone. -/
theorem trimBoth_of_ends (hc : p c = false) (hd : p d = false) (he : c :: cs = ds ++ [d]) :
    trimBoth p (c :: cs) = c :: cs := by
  rw [trimBoth_of_head hc, he, List.reverse_concat,
    List.dropWhile_cons_of_neg (by simp only [hd, Bool.false_eq_true, not_false_eq_true]),
    List.reverse_cons, List.reverse_reverse]

end Trim

/-- Two texts without blanks at their ends, with a line feed between them, have
no blanks at their ends. -/
theorem strip_append {a b : List Char} (ha : a ≠ []) (hb : b ≠ []) (hsa : strip a = a)
    (hsb : strip b = b) : strip (a ++ '\n' :: b) = a ++ '\n' :: b := by
  obtain ⟨c, cs, rfl⟩ := List.exists_cons_of_ne_nil ha
  obtain ⟨x, xs, rfl⟩ := List.exists_cons_of_ne_nil hb
  obtain ⟨ds, d, hd⟩ := (List.eq_nil_or_concat (x :: xs)).resolve_left hb
  rw [List.concat_eq_append] at hd
  have hlast : isBlank d = false := last_of_trimBoth hsb hd
  have he : c :: (cs ++ '\n' :: x :: xs) = (c :: cs ++ '\n' :: ds) ++ [d] := by
    rw [hd, List.append_assoc, List.cons_append]
    rfl
  exact trimBoth_of_ends (head_of_trimBoth hsa) hlast he

end Text

namespace Submission

/-- A submission has a line. -/
theorem lines_ne_nil (code : String) : lines code ≠ [] := by
  unfold lines
  rw [ne_eq, List.map_eq_nil_iff]
  exact Text.splitLines_ne_nil _

/-- The lines of a submission have no line feeds. -/
theorem not_mem_of_mem_lines {code line : String} (h : line ∈ lines code) :
    '\n' ∉ line.toList := by
  obtain ⟨cs, hcs, rfl⟩ := List.mem_map.mp h
  rw [String.toList_ofList]
  exact Text.not_mem_of_mem_splitLines hcs

/-- The lines of a submission, joined with line feeds, are the submission
without the blanks at its ends. -/
theorem intercalate_lines (code : String) :
    String.intercalate "\n" (lines code) = Text.stripString code := by
  apply String.toList_inj.mp
  have hid : (String.toList ∘ String.ofList) = id := by
    funext cs
    exact String.toList_ofList
  have hstrip : (Text.stripString code).toList = Text.strip code.toList := String.toList_ofList
  rw [String.toList_intercalate, lines, List.map_map, hid, List.map_id, hstrip]
  exact Text.intercalate_splitLines _

/-- The lines of two submissions, put together with a line feed between them,
are the lines of one and then those of the other. -/
theorem lines_append {a b : String} (ha : a ≠ "") (hb : b ≠ "") (hsa : Text.stripString a = a)
    (hsb : Text.stripString b = b) : lines (a ++ "\n" ++ b) = lines a ++ lines b := by
  have htoList : ∀ {t : String}, t ≠ "" → t.toList ≠ [] := fun ht h =>
    ht (String.toList_eq_nil_iff.mp h)
  have hstrip : ∀ {t : String}, Text.stripString t = t → Text.strip t.toList = t.toList := by
    intro t ht
    have h := congrArg String.toList ht
    rwa [Text.stripString, String.toList_ofList] at h
  have hjoined : (a ++ "\n" ++ b).toList = a.toList ++ '\n' :: b.toList := by
    simp only [String.toList_append, List.append_assoc]
    rfl
  unfold lines
  rw [hjoined, Text.strip_append (htoList ha) (htoList hb) (hstrip hsa) (hstrip hsb),
    Text.splitLines_append, hstrip hsa, hstrip hsb, List.map_append]

end Submission

end LiveSession
