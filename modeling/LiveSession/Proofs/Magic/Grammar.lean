import LiveSession.Proofs.Magic.Announced
import LiveSession.Proofs.Text.Lines
import LiveSession.Proofs.Text.Pattern

/-!
# The grammar of magic lines

As a pattern, a magic line is a percent sign, a run of word characters, any run of
other characters and a run without line feeds up to the end. The classes overlap,
so a text can match in several ways: the name can be cut short, and so can the run
after it. None of them is of any use, since a rest with a line feed in it keeps it
when it is made longer; reading the text once from the left, with the longest run
each time, comes to the same result as trying them all.
-/

namespace LiveSession

namespace Text

/-- The codes of the blank characters. -/
def blankCodes : List Nat :=
  [0x09, 0x0A, 0x0B, 0x0C, 0x0D, 0x1C, 0x1D, 0x1E, 0x1F, 0x20, 0x85, 0xA0, 0x1680,
    0x2000, 0x2001, 0x2002, 0x2003, 0x2004, 0x2005, 0x2006, 0x2007, 0x2008, 0x2009, 0x200A,
    0x2028, 0x2029, 0x202F, 0x205F, 0x3000]

/-- A blank character has one of the codes. -/
theorem toNat_mem_blankCodes {c : Char} (h : isBlank c = true) : c.toNat ∈ blankCodes := by
  simp only [isBlank, isWhiteSpace, isInformationSeparator, Bool.or_eq_true, Bool.and_eq_true,
    decide_eq_true_eq, beq_iff_eq] at h
  simp only [blankCodes, List.mem_cons, List.not_mem_nil, or_false]
  omega

/-- No blank is a word character. -/
theorem isWord_of_isBlank {c : Char} (h : isBlank c = true) : isWord c = false := by
  have hcodes : ∀ n ∈ blankCodes, isWord (Char.ofNat n) = false := by
    -- The table of letters is gone through as a list, which is evaluated faster.
    simp only [isWord, isAlphanumeric, inRanges, ← Array.any_toList]
    decide +kernel
  have hc := hcodes c.toNat (toNat_mem_blankCodes h)
  rwa [Char.ofNat_toNat] at hc

/-- A text that does not begin with a blank is trimmed at its end only. -/
theorem strip_eq_trimEnd {cs : List Char} (h : ∀ c, cs.head? = some c → isBlank c = false) :
    strip cs = trimEnd isBlank cs := by
  cases cs with
  | nil => rfl
  | cons c cs => exact trimBoth_of_head (h c rfl)

/-- What is trimmed at its end begins as it did, or it is empty. -/
theorem head?_trimEnd {p : Char → Bool} {c : Char} {cs : List Char}
    (h : (trimEnd p cs).head? = some c) : cs.head? = some c := by
  have hprefix : trimEnd p cs <+: cs :=
    List.reverse_suffix.mp (by
      unfold trimEnd
      rw [List.reverse_reverse]
      exact List.dropWhile_suffix p)
  obtain ⟨t, ht⟩ := hprefix
  rw [← ht, List.head?_append, h, Option.some_or]

end Text

namespace Magic

open Text

/-- A magic line as a pattern. -/
def pattern : List Segment :=
  [.one (· == '%'), .oneOrMore isWord, .zeroOrMore (!isWord ·), .zeroOrMore (· != '\n')]

/-- The magic that a match of the pattern stands for. -/
def ofMatch? : List (List Char) → Option Magic
  | [_, name, _, argument] => some ⟨String.ofList name, String.ofList (strip argument)⟩
  | _ => none

/-- A text is read from the left: a percent sign, the longest run of word
characters, the longest run of others and what is left over. -/
structure Scans (text name gap rest : List Char) : Prop where
  text_eq : text = '%' :: (name ++ (gap ++ rest))
  name_ne_nil : name ≠ []
  name_word : ∀ c ∈ name, isWord c = true
  name_ends : ∀ c, (gap ++ rest).head? = some c → isWord c = false
  gap_plain : ∀ c ∈ gap, isWord c = false
  rest_word : ∀ c, rest.head? = some c → isWord c = true

/-- The longest runs are found one after the other. -/
theorem scans_longest {cs : List Char} (h : cs.takeWhile isWord ≠ []) :
    Scans ('%' :: cs) (cs.takeWhile isWord) ((cs.dropWhile isWord).takeWhile (!isWord ·))
      ((cs.dropWhile isWord).dropWhile (!isWord ·)) where
  text_eq := by rw [List.takeWhile_append_dropWhile, List.takeWhile_append_dropWhile]
  name_ne_nil := h
  name_word _ hc := List.mem_takeWhile_imp hc
  name_ends c hc := by
    rw [List.takeWhile_append_dropWhile] at hc
    exact head?_dropWhile hc
  gap_plain c hc := by
    have h : (!isWord c) = true := List.mem_takeWhile_imp (p := (!isWord ·)) hc
    rwa [Bool.not_eq_true'] at h
  rest_word c hc := by
    have h : (!isWord c) = false := head?_dropWhile (p := (!isWord ·)) hc
    rwa [Bool.not_eq_false'] at h

section Scans

variable {cs name gap rest : List Char}

/-- The name is the longest run of word characters after the percent sign. -/
theorem Scans.takeWhile_eq (h : Scans ('%' :: cs) name gap rest) :
    cs.takeWhile isWord = name := by
  rw [(List.cons.inj h.text_eq).2]
  exact takeWhile_append_of_ends h.name_word h.name_ends

/-- What is left over is what comes after the longest runs. -/
theorem Scans.dropWhile_eq (h : Scans ('%' :: cs) name gap rest) :
    (cs.dropWhile isWord).dropWhile (!isWord ·) = rest := by
  rw [(List.cons.inj h.text_eq).2, dropWhile_append_of_ends h.name_word h.name_ends]
  refine dropWhile_append_of_ends (fun c hc => ?_) fun c hc => ?_
  · rw [h.gap_plain c hc]
    rfl
  · rw [h.rest_word c hc]
    rfl

/-- What is left over is trimmed at its end only. -/
theorem Scans.strip_eq {text : List Char} (h : Scans text name gap rest) :
    strip rest = trimEnd isBlank rest :=
  strip_eq_trimEnd fun c hc => Bool.eq_false_iff.mpr fun hblank => by
    have hword := h.rest_word c hc
    rw [isWord_of_isBlank hblank] at hword
    cases hword

end Scans

/-- A magic line is one that is read so without a line feed being left over; the
name is the run of word characters, and the argument is what is left over. -/
theorem ofChars?_eq_some_iff {text : List Char} {m : List Char × List Char} :
    ofChars? text = some m ↔
      ∃ name gap rest, Scans text name gap rest ∧ '\n' ∉ rest ∧
        m = (name, trimEnd isBlank rest) := by
  constructor
  · intro h
    unfold ofChars? at h
    split at h
    · next cs =>
      unfold split? at h
      dsimp only at h
      split at h
      · cases h
      · next hcond =>
        rw [Bool.or_eq_true, not_or, List.isEmpty_iff, List.contains_iff_mem] at hcond
        have hscans := scans_longest hcond.1
        cases h
        exact ⟨_, _, _, hscans, hcond.2, by rw [hscans.strip_eq]⟩
    · cases h
  · rintro ⟨name, gap, rest, h, hfeed, rfl⟩
    obtain ⟨cs, rfl⟩ : ∃ cs, text = '%' :: cs := ⟨_, h.text_eq⟩
    change split? cs = _
    have hcond : (name.isEmpty || rest.contains '\n') = false := by
      rw [Bool.or_eq_false_iff, List.isEmpty_eq_false_iff, Bool.eq_false_iff]
      exact ⟨h.name_ne_nil, fun hmem => hfeed (List.contains_iff_mem.mp hmem)⟩
    unfold split?
    dsimp only
    rw [h.takeWhile_eq, h.dropWhile_eq, hcond, h.strip_eq]
    rfl

/-- A run without line feeds up to the end is found where there is no line feed. -/
theorem matchWhole_line (rest : List Char) :
    matchWhole [.zeroOrMore (· != '\n')] rest =
      if rest.contains '\n' then none else some [rest] := by
  rw [matchWhole_zeroOrMore _ failsLonger_nil]
  cases hfeed : rest.contains '\n' with
  | true =>
    have hleft : rest.dropWhile (· != '\n') ≠ [] := by
      rw [ne_eq, List.dropWhile_eq_nil_iff]
      intro hall
      exact bne_iff_ne.mp (hall '\n' (List.contains_iff_mem.mp hfeed)) rfl
    rw [matchWhole, List.isEmpty_eq_false_iff.mpr hleft]
    rfl
  | false =>
    have hall : ∀ c ∈ rest, (c != '\n') = true := fun c hc => bne_iff_ne.mpr fun heq => by
      rw [heq] at hc
      rw [List.contains_iff_mem.mpr hc] at hfeed
      cases hfeed
    rw [List.dropWhile_eq_nil_iff.mpr hall, List.takeWhile_eq_self_iff.mpr hall]
    rfl

/-- The first match of the pattern that is found is the one with the longest runs. -/
theorem ofLine?_eq_matchWhole (line : String) :
    ofLine? line = (matchWhole pattern line.toList).bind ofMatch? := by
  have hrest : FailsLonger [.zeroOrMore (· != '\n')] := failsLonger_zeroOrMore _ failsLonger_nil
  have hgap : FailsLonger [.zeroOrMore (!isWord ·), .zeroOrMore (· != '\n')] :=
    failsLonger_zeroOrMore _ hrest
  unfold ofLine? pattern
  rw [matchWhole_one]
  cases line.toList with
  | nil => rfl
  | cons mark cs =>
    dsimp only
    by_cases hmark : mark = '%'
    · subst hmark
      rw [if_pos (beq_self_eq_true '%'), matchWhole_longest rfl hgap,
        matchWhole_zeroOrMore _ hrest, matchWhole_line]
      change (split? cs).map _ = _
      unfold split? Segment.oneOrMore
      dsimp only
      cases hname : cs.takeWhile isWord with
      | nil => rfl
      | cons c name =>
        have hlength : 1 ≤ (c :: name).length := Nat.succ_pos _
        rw [if_pos hlength, List.isEmpty_cons, Bool.false_or]
        cases ((cs.dropWhile isWord).dropWhile (!isWord ·)).contains '\n' with
        | true => rfl
        | false => rfl
    · rw [if_neg fun h => hmark (beq_iff_eq.mp h)]
      unfold ofChars?
      split
      · next heq => exact absurd (List.cons.inj heq).1 hmark
      · rfl

/-- Where the pattern matches in some way, the line is a magic. -/
theorem ofLine?_isSome_of_matches {line : String} {runs : List (List Char)}
    (h : Matches pattern line.toList runs) : (ofLine? line).isSome = true := by
  obtain ⟨found, hfound⟩ := Option.isSome_iff_exists.mp h.matchWhole_isSome
  have hlength : found.length = 4 := (matches_of_matchWhole hfound).length_eq
  rw [ofLine?_eq_matchWhole, hfound]
  match found, hlength with
  | [_, _, _, _], _ => rfl

/-- What begins as a magic line does begins with a percent sign and a word
character. -/
theorem announcesChars_iff {text : List Char} :
    announcesChars text = true ↔ ∃ c rest, text = '%' :: c :: rest ∧ isWord c = true := by
  constructor
  · intro h
    match text, h with
    | mark :: c :: rest, h =>
      obtain ⟨hmark, hc⟩ := Bool.and_eq_true_iff.mp h
      cases beq_iff_eq.mp hmark
      exact ⟨c, rest, rfl, hc⟩
  · rintro ⟨c, rest, rfl, hc⟩
    exact Bool.and_eq_true_iff.mpr ⟨beq_self_eq_true '%', hc⟩

/-- A line is a magic if and only if the longest run of word characters after a
percent sign, the longest run of other characters after it and what is left over
without a line feed make up the line; then the first are the name and the last,
without the blanks at its end, is the argument, which begins with a word character
unless it is empty. That is the first match of the pattern that is found by giving
characters back, and where there is any match of it the line is a magic. Without
line feeds a line is a magic if it begins as one. -/
theorem ofLine?_grammar (line : String) :
    (∀ m, ofLine? line = some m ↔
      ∃ name gap rest, Scans line.toList name gap rest ∧ '\n' ∉ rest ∧
        m = ⟨String.ofList name, String.ofList (trimEnd isBlank rest)⟩) ∧
    (∀ m, ofLine? line = some m →
      ∀ c, m.argument.toList.head? = some c → isWord c = true) ∧
    ofLine? line = (matchWhole pattern line.toList).bind ofMatch? ∧
    (∀ runs, Matches pattern line.toList runs → (ofLine? line).isSome = true) ∧
    ('\n' ∉ line.toList → ((ofLine? line).isSome = true ↔
      ∃ c rest, line.toList = '%' :: c :: rest ∧ isWord c = true)) := by
  have hgrammar : ∀ m, ofLine? line = some m ↔
      ∃ name gap rest, Scans line.toList name gap rest ∧ '\n' ∉ rest ∧
        m = ⟨String.ofList name, String.ofList (trimEnd isBlank rest)⟩ := by
    intro m
    unfold ofLine?
    rw [Option.map_eq_some_iff]
    constructor
    · rintro ⟨parts, hparts, rfl⟩
      obtain ⟨name, gap, rest, hscans, hfeed, rfl⟩ := ofChars?_eq_some_iff.mp hparts
      exact ⟨name, gap, rest, hscans, hfeed, rfl⟩
    · rintro ⟨name, gap, rest, hscans, hfeed, rfl⟩
      exact ⟨_, ofChars?_eq_some_iff.mpr ⟨name, gap, rest, hscans, hfeed, rfl⟩, rfl⟩
  refine ⟨hgrammar, fun m hm c hc => ?_, ofLine?_eq_matchWhole line,
    fun runs => ofLine?_isSome_of_matches, fun hfeed => ?_⟩
  · obtain ⟨name, gap, rest, hscans, -, rfl⟩ := (hgrammar m).mp hm
    rw [String.toList_ofList] at hc
    exact hscans.rest_word c (head?_trimEnd hc)
  · rw [ofLine?_isSome hfeed]
    exact announcesChars_iff

example : ofLine? "%table\n total" = some ⟨"table", "total"⟩ := by decide

example : ofLine? "%table total\n" = none := by decide

end Magic

end LiveSession
