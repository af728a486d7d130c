import LiveSession.Transcript
import Mathlib.Data.List.Basic

/-!
# The lines of a transcript

A transcript is split after each of its line feeds and nowhere else. No character of it is
lost, apart from the blanks around the first line: the first line and the traceback, one
after the other, are the text. And the lines that are written one after the other are the
lines that are read, each with its line feed; only the last one can be without.
-/

namespace LiveSession

namespace Text

/-- The characters up to the first line feed and with it, or all of them where there is
none. -/
def firstLine (cs : List Char) : List Char :=
  cs.take (cs.idxOf '\n' + 1)

/-- Lines, each with the line feed that ends it. -/
structure Kept (ls : List (List Char)) : Prop where
  /-- No line is empty. -/
  nonempty : ∀ l ∈ ls, l ≠ []
  /-- A line feed stands at the end of a line, if at all. -/
  unbroken : ∀ l ∈ ls, '\n' ∉ l.dropLast
  /-- There is one at the end of every line but the last. -/
  ended : ∀ l ∈ ls.dropLast, l.getLast? = some '\n'

section Lines

variable {l cs : List Char} {ls : List (List Char)}

/-- A line has a line feed at its end or none in it. -/
theorem line_cases (hne : l ≠ []) (hu : '\n' ∉ l.dropLast) :
    (∃ h, '\n' ∉ h ∧ l = h ++ ['\n']) ∨ '\n' ∉ l := by
  have hl : l.dropLast ++ [l.getLast hne] = l := List.dropLast_append_getLast hne
  by_cases hlast : l.getLast hne = '\n'
  · rw [hlast] at hl
    exact .inl ⟨l.dropLast, hu, hl.symm⟩
  · refine .inr fun hmem => ?_
    rw [← hl] at hmem
    rcases List.mem_append.mp hmem with hmem | hmem
    · exact hu hmem
    · exact hlast (List.mem_singleton.mp hmem).symm

/-- A line feed ends the first line. -/
theorem keepLines_ended {h : List Char} (hh : '\n' ∉ h) (cs : List Char) :
    keepLines (h ++ '\n' :: cs) = (h ++ ['\n']) :: keepLines cs := by
  induction h with
  | nil => simp only [List.nil_append, keepLines, if_true]
  | cons c h ih =>
    obtain ⟨hc, hrest⟩ := not_or.mp (List.mem_cons.not.mp hh)
    simp only [List.cons_append, keepLines, if_neg (Ne.symm hc), ih hrest]

/-- Characters without a line feed are one line. -/
theorem keepLines_unbroken (hne : cs ≠ []) (hcs : '\n' ∉ cs) : keepLines cs = [cs] := by
  induction cs with
  | nil => exact absurd rfl hne
  | cons c cs ih =>
    obtain ⟨hc, hrest⟩ := not_or.mp (List.mem_cons.not.mp hcs)
    cases cs with
    | nil => simp only [keepLines, if_neg (Ne.symm hc)]
    | cons d ds =>
      have hlast : keepLines (d :: ds) = [d :: ds] := ih (List.cons_ne_nil d ds) hrest
      rw [keepLines, if_neg (Ne.symm hc), hlast]

/-- Without a first line that has its line feed the others are left. -/
theorem Kept.tail (hk : Kept (l :: ls)) : Kept ls where
  nonempty m hm := hk.nonempty m (List.mem_cons_of_mem l hm)
  unbroken m hm := hk.unbroken m (List.mem_cons_of_mem l hm)
  ended m hm := by
    have hls : ls ≠ [] := fun hnil => by simp [hnil] at hm
    refine hk.ended m ?_
    rw [List.dropLast_cons_of_ne_nil hls]
    exact List.mem_cons_of_mem l hm

/-- A line with its line feed can stand before others. -/
theorem Kept.cons {h : List Char} (hh : '\n' ∉ h) (hk : Kept ls) :
    Kept ((h ++ ['\n']) :: ls) where
  nonempty :=
    List.forall_mem_cons.mpr
      ⟨List.append_ne_nil_of_right_ne_nil h (List.cons_ne_nil _ _), hk.nonempty⟩
  unbroken := by
    refine List.forall_mem_cons.mpr ⟨?_, hk.unbroken⟩
    rw [List.dropLast_concat]
    exact hh
  ended := by
    by_cases hls : ls = []
    · subst hls
      exact fun m hm => absurd hm List.not_mem_nil
    · rw [List.dropLast_cons_of_ne_nil hls]
      exact List.forall_mem_cons.mpr ⟨List.getLast?_concat, hk.ended⟩

/-- Lines that are joined are read again. -/
theorem keepLines_flatten (hk : Kept ls) : keepLines ls.flatten = ls := by
  induction ls with
  | nil => rfl
  | cons l rest ih =>
    have hrest : keepLines rest.flatten = rest := ih hk.tail
    rw [List.flatten_cons]
    rcases line_cases (hk.nonempty l List.mem_cons_self) (hk.unbroken l List.mem_cons_self) with
      ⟨h, hh, rfl⟩ | hl
    · rw [List.append_assoc, List.singleton_append, keepLines_ended hh, hrest]
    · -- A line without a line feed is the last one.
      have hlast : rest = [] := by
        by_contra hne
        have hend : l.getLast? = some '\n' := by
          refine hk.ended l ?_
          rw [List.dropLast_cons_of_ne_nil hne]
          exact List.mem_cons_self
        exact hl (List.mem_of_getLast? hend)
      subst hlast
      rw [List.flatten_nil, List.append_nil]
      exact keepLines_unbroken (hk.nonempty l List.mem_cons_self) hl

/-- The lines that are read are kept with their line feeds. -/
theorem kept_keepLines (cs : List Char) : Kept (keepLines cs) := by
  -- The first line is taken off, so the induction is on the length.
  induction hn : cs.length using Nat.strongRecOn generalizing cs with
  | _ n ih =>
    by_cases hm : '\n' ∈ cs
    · obtain ⟨h, rest, rfl, hh⟩ := List.eq_append_cons_of_mem hm
      have hshorter : rest.length < n := by
        rw [← hn, List.length_append, List.length_cons]
        omega
      rw [keepLines_ended hh]
      exact (ih rest.length hshorter rest rfl).cons hh
    · by_cases hne : cs = []
      · subst hne
        exact ⟨nofun, nofun, nofun⟩
      · rw [keepLines_unbroken hne hm]
        refine ⟨List.forall_mem_singleton.mpr hne, List.forall_mem_singleton.mpr fun h => ?_, nofun⟩
        exact hm (List.dropLast_subset cs h)

/-- The first of the lines that are read is the first line. -/
theorem keepLines_firstLine (hne : cs ≠ []) : ∃ rest, keepLines cs = firstLine cs :: rest := by
  unfold firstLine
  by_cases hm : '\n' ∈ cs
  · obtain ⟨h, rest, rfl, hh⟩ := List.eq_append_cons_of_mem hm
    have hplace : (h ++ '\n' :: rest).idxOf '\n' = h.length := by
      rw [List.idxOf_append, if_neg hh, List.idxOf_cons_self, Nat.zero_add]
    have hfirst : (h ++ '\n' :: rest).take (h.length + 1) = h ++ ['\n'] := by
      rw [List.take_length_add_append]
      rfl
    rw [hplace, hfirst]
    exact ⟨keepLines rest, keepLines_ended hh rest⟩
  · have hall : cs.take (cs.idxOf '\n' + 1) = cs := by
      rw [List.idxOf_of_notMem hm]
      exact List.take_of_length_le (Nat.le_succ _)
    rw [hall]
    exact ⟨[], keepLines_unbroken hne hm⟩

/-- Where a text is split depends on its line feeds and on no other character. -/
theorem keepLines_map {g : Char → Char} (hg : ∀ c, g c = '\n' ↔ c = '\n') (cs : List Char) :
    keepLines (cs.map g) = (keepLines cs).map (List.map g) := by
  induction cs with
  | nil => rfl
  | cons c cs ih =>
    rw [List.map_cons, keepLines, keepLines, ih]
    by_cases hc : c = '\n'
    · have hfeed : g '\n' = '\n' := (hg '\n').mpr rfl
      rw [hc, if_pos hfeed, if_pos rfl, List.map_cons, List.map_singleton, hfeed]
    · have hgc : g c ≠ '\n' := fun h => hc ((hg c).mp h)
      rw [if_neg hgc, if_neg hc]
      cases keepLines cs with
      | nil => rfl
      | cons line rest => rfl

end Lines

/-- A character of the class at the end is trimmed away. -/
theorem trimBoth_concat {p : Char → Bool} {c : Char} (hc : p c = true) (cs : List Char) :
    trimBoth p (cs ++ [c]) = trimBoth p cs := by
  unfold trimBoth
  rw [List.dropWhile_append]
  split
  · next hempty =>
    rw [List.isEmpty_iff.mp hempty, List.dropWhile_cons_of_pos hc]
    rfl
  · rw [List.reverse_concat, List.dropWhile_cons_of_pos hc]

end Text

namespace Transcript

/-- A transcript with text in it is read from its lines. -/
theorem ofText_of_lines {o : String} {first : List Char} {rest : List (List Char)}
    (h : Text.keepLines o.toList = first :: rest) :
    ofText o = ⟨String.ofList (Text.strip first), rest.map String.ofList⟩ := by
  unfold ofText
  rw [h]

/-- Strings of characters have these characters. -/
theorem map_toList_ofList (ls : List (List Char)) :
    (ls.map String.ofList).map String.toList = ls := by
  rw [List.map_map]
  exact List.map_id'' (fun l => String.toList_ofList) ls

/-- Joined strings have the characters of one after the other. -/
theorem toList_join (ls : List String) :
    (String.join ls).toList = (ls.map String.toList).flatten := by
  rw [String.toList_join, List.flatMap_def]

/-- A transcript is split after its line feeds, without loss. The name is the first line
without the blanks around it, and the first line and the traceback are the text; a name and
lines that are written one after the other are read again; and a text in which other
characters stand between the same line feeds is split at the same places. -/
theorem ofText_splits :
    (∀ o : String, o ≠ "" →
      (ofText o).name = String.ofList (Text.strip (Text.firstLine o.toList)) ∧
      o = String.ofList (Text.firstLine o.toList) ++ String.join (ofText o).traceback ∧
      Text.Kept ((ofText o).traceback.map String.toList)) ∧
    (∀ (h : String) (ls : List String), '\n' ∉ h.toList → Text.Kept (ls.map String.toList) →
      ofText (h ++ "\n" ++ String.join ls) = ⟨Text.stripString h, ls⟩) ∧
    ∀ (o : String) (g : Char → Char), (∀ c, g c = '\n' ↔ c = '\n') →
      (ofText (o.map g)).traceback = (ofText o).traceback.map (String.map g) := by
  refine ⟨fun o ho => ?_, fun h ls hh hls => ?_, fun o g hg => ?_⟩
  · have hne : o.toList ≠ [] := fun hnil => ho (String.toList_inj.mp hnil)
    obtain ⟨rest, hlines⟩ := Text.keepLines_firstLine hne
    have hread := ofText_of_lines hlines
    have hjoined : Text.firstLine o.toList ++ rest.flatten = o.toList := by
      rw [← List.flatten_cons, ← hlines]
      exact Text.flatten_keepLines o.toList
    have hkept : Text.Kept (Text.firstLine o.toList :: rest) :=
      hlines ▸ Text.kept_keepLines o.toList
    rw [hread]
    refine ⟨rfl, String.toList_inj.mp ?_, ?_⟩
    · rw [String.toList_append, String.toList_ofList, toList_join, map_toList_ofList]
      exact hjoined.symm
    · rw [map_toList_ofList]
      exact hkept.tail
  · have hlines : Text.keepLines (h ++ "\n" ++ String.join ls).toList =
        (h.toList ++ ['\n']) :: ls.map String.toList := by
      rw [String.toList_append, String.toList_append, toList_join, List.append_assoc]
      exact (Text.keepLines_ended hh _).trans (congrArg _ (Text.keepLines_flatten hls))
    have hnamed : Text.strip (h.toList ++ ['\n']) = Text.strip h.toList :=
      Text.trimBoth_concat (by decide) h.toList
    rw [ofText_of_lines hlines, hnamed, List.map_map]
    exact congrArg _ (List.map_id'' (fun l => String.ofList_toList) ls)
  · unfold ofText
    rw [String.toList_map, Text.keepLines_map hg]
    cases Text.keepLines o.toList with
    | nil => rfl
    | cons first rest =>
      simp only [List.map_cons, List.map_map]
      refine List.map_congr_left fun l _ => ?_
      rw [Function.comp_apply, Function.comp_apply, ← String.toList_inj, String.toList_map,
        String.toList_ofList, String.toList_ofList]

/-- A first line, and three lines of which the first is blank and the last has no line feed,
with other separators in them. -/
def foreignBreaks : String × List String :=
  ("Boom: x\r", ["\n", "  at\x0c 1\u2028\n", "\u0085end"])

/-- A carriage return made into a blank. -/
def unreturned (c : Char) : Char :=
  if c = '\r' then ' ' else c

/-- The first line and the lines are read again, and nothing but the line feeds decides
where they end. -/
theorem ofText_splits_foreignBreaks :
    '\n' ∉ foreignBreaks.1.toList ∧ Text.Kept (foreignBreaks.2.map String.toList) ∧
      ofText (foreignBreaks.1 ++ "\n" ++ String.join foreignBreaks.2) =
        ⟨"Boom: x", foreignBreaks.2⟩ ∧
      "a\rb" ≠ "" ∧
      "a\rb" = String.ofList (Text.firstLine "a\rb".toList) ++
        String.join (ofText "a\rb").traceback ∧
      (∀ c, unreturned c = '\n' ↔ c = '\n') ∧
      (ofText ("a\rb".map unreturned)).traceback =
        (ofText "a\rb").traceback.map (String.map unreturned) := by
  obtain ⟨hread, hwritten, hmapped⟩ := ofText_splits
  have hfirst : '\n' ∉ foreignBreaks.1.toList := by decide
  have hkept : Text.Kept (foreignBreaks.2.map String.toList) :=
    ⟨by decide, by decide, by decide⟩
  have hname : Text.stripString foreignBreaks.1 = "Boom: x" := by decide
  have hne : "a\rb" ≠ "" := by decide
  have hfeeds : ∀ c, unreturned c = '\n' ↔ c = '\n' := by
    intro c
    unfold unreturned
    split
    · next hc => simp [hc]
    · rfl
  exact ⟨hfirst, hkept, hname ▸ hwritten _ _ hfirst hkept, hne, (hread _ hne).2.1, hfeeds,
    hmapped _ _ hfeeds⟩

end Transcript

end LiveSession
