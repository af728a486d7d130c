import LiveSession.Proofs.Magic.Grammar

/-!
# The spelling of magics

A magic is spelled as a percent sign, its name, a separator and its argument. The magics
that lines ask for are the canonical ones: the name is a run of word characters, and the
argument begins with a word character and ends with no blank, unless it is empty. A
canonical magic is read back from its spelling with any separator that holds no word
character, since word characters end where the separator begins and the separator ends
where the argument begins. A line can be spelled in many ways; the one with a single
space is common to all lines that ask for the same.
-/

namespace LiveSession

namespace Text

variable {p : Char → Bool} {cs : List Char}

/-- A text that does not end with a character of a class is not trimmed at its end. -/
theorem trimEnd_eq_self (h : ∀ c, cs.getLast? = some c → p c = false) : trimEnd p cs = cs := by
  have hrun : cs.reverse.dropWhile p = cs.reverse := by
    cases hcs : cs.reverse with
    | nil => rfl
    | cons c rest =>
      have hlast : cs.getLast? = some c := by rw [← List.head?_reverse, hcs, List.head?_cons]
      rw [List.dropWhile_cons_of_neg (by rw [h c hlast]; exact Bool.false_ne_true)]
  unfold trimEnd
  rw [hrun, List.reverse_reverse]

/-- What is trimmed at its end does not end with a character of the class. -/
theorem getLast?_trimEnd {c : Char} (h : (trimEnd p cs).getLast? = some c) : p c = false := by
  unfold trimEnd at h
  rw [List.getLast?_reverse] at h
  exact head?_dropWhile h

/-- What is trimmed at its end is a part of the text. -/
theorem mem_of_mem_trimEnd {c : Char} (h : c ∈ trimEnd p cs) : c ∈ cs := by
  unfold trimEnd at h
  exact List.mem_reverse.mp ((List.dropWhile_sublist p).mem (List.mem_reverse.mp h))

end Text

namespace Magic

open Text

/-- A magic that a line can ask for. -/
structure Canonical (m : Magic) : Prop where
  /-- There is a name. -/
  named : m.name ≠ ""
  name_word : ∀ c ∈ m.name.toList, isWord c = true
  /-- The argument stays on the line. -/
  unbroken : '\n' ∉ m.argument.toList
  begins : ∀ c, m.argument.toList.head? = some c → isWord c = true
  ends : ∀ c, m.argument.toList.getLast? = some c → isBlank c = false

/-- A separator keeps the argument of a magic apart from its name. -/
structure Separates (separator : String) (m : Magic) : Prop where
  plain : ∀ c ∈ separator.toList, isWord c = false
  /-- Only a magic without argument needs none. -/
  parts : m.argument ≠ "" → separator ≠ ""

/-- A line that asks for a magic, with a separator between name and argument. -/
def spelled (m : Magic) (separator : String) : String :=
  "%" ++ m.name ++ separator ++ m.argument

section Spelled

variable {m : Magic} {separator line : String}

/-- The characters of a spelled magic. -/
theorem toList_spelled (m : Magic) (separator : String) :
    (m.spelled separator).toList =
      '%' :: (m.name.toList ++ (separator.toList ++ m.argument.toList)) := by
  have hmark : "%".toList = ['%'] := rfl
  unfold spelled
  rw [String.toList_append, String.toList_append, String.toList_append, hmark,
    List.singleton_append, List.cons_append, List.cons_append, List.append_assoc]

/-- A space separates the parts of every magic. -/
theorem separates_space (m : Magic) : Separates " " m where
  plain c hc := by
    have hlist : " ".toList = [' '] := rfl
    rw [hlist, List.mem_singleton] at hc
    rw [hc]
    exact isWord_of_isBlank rfl
  parts _ := by decide

/-- The spelling of a canonical magic is read from the left part by part: the name ends
where the separator begins, or at the end of the line if there is neither separator nor
argument. -/
theorem Canonical.scans (hm : m.Canonical) (hs : Separates separator m) :
    Scans (m.spelled separator).toList m.name.toList separator.toList m.argument.toList where
  text_eq := m.toList_spelled separator
  name_ne_nil h := hm.named (String.toList_eq_nil_iff.mp h)
  name_word := hm.name_word
  name_ends c hc := by
    cases hsep : separator.toList with
    | nil =>
      have hempty : m.argument = "" := by
        by_contra harg
        exact hs.parts harg (String.toList_eq_nil_iff.mp hsep)
      rw [hsep, hempty] at hc
      cases hc
    | cons d rest =>
      rw [hsep, List.cons_append, List.head?_cons, Option.some_inj] at hc
      have hd : d ∈ separator.toList := hsep ▸ List.mem_cons_self
      exact hc ▸ hs.plain d hd
  gap_plain := hs.plain
  rest_word := hm.begins

/-- A canonical magic is read back from its spelling. -/
theorem Canonical.ofLine?_spelled (hm : m.Canonical) (hs : Separates separator m) :
    ofLine? (m.spelled separator) = some m := by
  have hparts : ofChars? (m.spelled separator).toList =
      some (m.name.toList, m.argument.toList) :=
    ofChars?_eq_some_iff.mpr ⟨_, _, _, hm.scans hs, hm.unbroken, by rw [trimEnd_eq_self hm.ends]⟩
  unfold ofLine?
  rw [hparts, Option.map_some, String.ofList_toList, String.ofList_toList]

/-- What a line asks for is canonical. -/
theorem canonical_of_ofLine? (h : ofLine? line = some m) : m.Canonical := by
  obtain ⟨parts, hparts, rfl⟩ := Option.map_eq_some_iff.mp h
  obtain ⟨name, gap, rest, hscans, hfeed, rfl⟩ := ofChars?_eq_some_iff.mp hparts
  constructor <;> simp only [String.toList_ofList]
  case named =>
    intro hempty
    exact hscans.name_ne_nil (String.ofList_eq_empty_iff.mp hempty)
  case name_word => exact hscans.name_word
  case unbroken => exact fun hmem => hfeed (mem_of_mem_trimEnd hmem)
  case begins => exact fun c hc => hscans.rest_word c (head?_trimEnd hc)
  case ends => exact fun c hc => getLast?_trimEnd hc

/-- The argument of a canonical magic has no blanks at its ends, as a word character is
none. -/
theorem Canonical.strip_argument (hm : m.Canonical) :
    strip m.argument.toList = m.argument.toList := by
  have hbegins : ∀ c, m.argument.toList.head? = some c → isBlank c = false := by
    intro c hc
    rw [Bool.eq_false_iff]
    intro hblank
    have hword := hm.begins c hc
    rw [isWord_of_isBlank hblank] at hword
    cases hword
  rw [strip_eq_trimEnd hbegins, trimEnd_eq_self hm.ends]

end Spelled

/-- What a line asks for is canonical, its argument has no blanks at its ends, and it is
read back from its spelling with a space. In turn every canonical magic is read back from
its spelling with any separator. -/
theorem ofLine?_canonical (m : Magic) :
    (∀ line, ofLine? line = some m →
      m.Canonical ∧ strip m.argument.toList = m.argument.toList ∧
        ofLine? (m.spelled " ") = some m) ∧
    (m.Canonical → ∀ separator, Separates separator m →
      ofLine? (m.spelled separator) = some m) := by
  refine ⟨fun line h => ?_, fun hm separator hs => hm.ofLine?_spelled hs⟩
  have hm := canonical_of_ofLine? h
  exact ⟨hm, hm.strip_argument, hm.ofLine?_spelled m.separates_space⟩

/-- A colon, a line feed and a space separate a name from its argument as well as a single
space does. -/
theorem ofLine?_canonical_table :
    Canonical ⟨"table", "rows (2)"⟩ ∧ Separates ":\n " ⟨"table", "rows (2)"⟩ ∧
      ofLine? "%table rows (2)" = some ⟨"table", "rows (2)"⟩ ∧
      ofLine? "%table:\n rows (2)" = some ⟨"table", "rows (2)"⟩ := by
  have hline : ofLine? "%table\t\trows (2) " = some ⟨"table", "rows (2)"⟩ := by decide
  obtain ⟨hread, hspelled⟩ := ofLine?_canonical ⟨"table", "rows (2)"⟩
  obtain ⟨hm, -, hspace⟩ := hread _ hline
  have hplain : ∀ c ∈ [':', '\n', ' '], isWord c = false :=
    List.forall_mem_cons.mpr ⟨by decide,
      List.forall_mem_cons.mpr ⟨by decide, List.forall_mem_singleton.mpr (by decide)⟩⟩
  have hsep : Separates ":\n " ⟨"table", "rows (2)"⟩ := ⟨hplain, fun _ => by decide⟩
  exact ⟨hm, hsep, hspace, hspelled hm _ hsep⟩

end Magic

end LiveSession
