import Mathlib.Data.List.TakeWhile

/-!
# Patterns with backtracking

A pattern is a sequence of segments, each of which stands for a run of characters
of one class. A text is matched whole and from the left: a segment takes the
longest run that it can and gives characters back, one at a time, until the rest
of the pattern matches what is left over. This finds a match whenever there is
one.

Giving back is of no use where a rest of the pattern that fails on a text fails
on every longer text with the same end: then the longest run is the only one to
be tried.
-/

namespace LiveSession.Text

/-- A segment of a pattern: a run of characters of a class, of bounded length. -/
structure Segment where
  accepts : Char → Bool
  least : Nat
  /-- How long a run can be, if that is limited. -/
  most : Option Nat

namespace Segment

/-- One character of a class. -/
def one (p : Char → Bool) : Segment := ⟨p, 1, some 1⟩

/-- At least one character of a class. -/
def oneOrMore (p : Char → Bool) : Segment := ⟨p, 1, none⟩

/-- Any number of characters of a class. -/
def zeroOrMore (p : Char → Bool) : Segment := ⟨p, 0, none⟩

/-- The length of the longest run at the start of a text. -/
def longest (g : Segment) (cs : List Char) : Nat :=
  match g.most with
  | none => (cs.takeWhile g.accepts).length
  | some n => min n (cs.takeWhile g.accepts).length

/-- The lengths of the runs at the start of a text, in the order in which they are
tried. -/
def takes (g : Segment) (cs : List Char) : List Nat :=
  ((List.range (g.longest cs + 1)).filter (decide <| g.least ≤ ·)).reverse

/-- A run that a segment stands for. -/
structure Fits (g : Segment) (run : List Char) : Prop where
  accepted : ∀ c ∈ run, g.accepts c = true
  least : g.least ≤ run.length
  most : ∀ n, g.most = some n → run.length ≤ n

end Segment

/-- The runs of the first match of a whole text, if there is one. -/
def matchWhole : List Segment → List Char → Option (List (List Char))
  | [], cs => if cs.isEmpty then some [] else none
  | g :: rest, cs =>
    (g.takes cs).findSome? fun n => (matchWhole rest (cs.drop n)).map (cs.take n :: ·)

/-- The runs into which a pattern divides a text, in whatever way. -/
inductive Matches : List Segment → List Char → List (List Char) → Prop
  | nil : Matches [] [] []
  | cons {g : Segment} {rest : List Segment} {run cs : List Char} {runs : List (List Char)}
      (hr : g.Fits run) (h : Matches rest cs runs) :
      Matches (g :: rest) (run ++ cs) (run :: runs)

section Longest

variable {p : Char → Bool} {run rest : List Char}

/-- The longest run of characters of a class ends where one of another comes. -/
theorem takeWhile_append_of_ends (hr : ∀ c ∈ run, p c = true)
    (he : ∀ c, rest.head? = some c → p c = false) : (run ++ rest).takeWhile p = run := by
  rw [List.takeWhile_append_of_pos hr]
  cases rest with
  | nil => rw [List.takeWhile_nil, List.append_nil]
  | cons c cs =>
    rw [List.takeWhile_cons_of_neg (by rw [he c rfl]; exact Bool.false_ne_true), List.append_nil]

/-- What is left over after the longest run begins with a character of another
class. -/
theorem dropWhile_append_of_ends (hr : ∀ c ∈ run, p c = true)
    (he : ∀ c, rest.head? = some c → p c = false) : (run ++ rest).dropWhile p = rest := by
  rw [List.dropWhile_append_of_pos hr]
  cases rest with
  | nil => rfl
  | cons c cs =>
    rw [List.dropWhile_cons_of_neg (by rw [he c rfl]; exact Bool.false_ne_true)]

/-- What is left over after the longest run does not begin with a character of the
class. -/
theorem head?_dropWhile {c : Char} (h : (rest.dropWhile p).head? = some c) : p c = false := by
  have hd := List.head?_dropWhile_not p rest
  rw [h] at hd
  exact hd

/-- The longest run at the start of a text is the start of that length. -/
theorem take_length_takeWhile (p : Char → Bool) (cs : List Char) :
    cs.take (cs.takeWhile p).length = cs.takeWhile p := by
  have h : (cs.takeWhile p ++ cs.dropWhile p).take (cs.takeWhile p).length = cs.takeWhile p :=
    List.take_left
  rwa [List.takeWhile_append_dropWhile] at h

/-- What is left over after the longest run is what is left over after its length. -/
theorem drop_length_takeWhile (p : Char → Bool) (cs : List Char) :
    cs.drop (cs.takeWhile p).length = cs.dropWhile p := by
  have h : (cs.takeWhile p ++ cs.dropWhile p).drop (cs.takeWhile p).length = cs.dropWhile p :=
    List.drop_left
  rwa [List.takeWhile_append_dropWhile] at h

/-- Of two texts with the same end the longer leaves over the longer one. -/
theorem dropWhile_suffix_dropWhile (p : Char → Bool) {s cs : List Char} (h : s <:+ cs) :
    s.dropWhile p <:+ cs.dropWhile p := by
  induction cs with
  | nil =>
    obtain rfl := List.suffix_nil.mp h
    exact List.suffix_rfl
  | cons c cs ih =>
    rcases List.suffix_cons_iff.mp h with rfl | hs
    · exact List.suffix_rfl
    · by_cases hc : p c = true
      · rw [List.dropWhile_cons_of_pos hc]
        exact ih hs
      · rw [List.dropWhile_cons_of_neg hc]
        exact (List.dropWhile_suffix p).trans h

end Longest

namespace Segment

variable {g : Segment} {cs : List Char} {n : Nat}

/-- The runs that are tried are those that are long enough and not too long. -/
theorem mem_takes : n ∈ g.takes cs ↔ g.least ≤ n ∧ n ≤ g.longest cs := by
  unfold takes
  rw [List.mem_reverse, List.mem_filter, List.mem_range, decide_eq_true_iff, Nat.lt_succ_iff,
    and_comm]

/-- A run that is tried is one that the segment stands for. -/
theorem fits_of_mem_takes (h : n ∈ g.takes cs) : g.Fits (cs.take n) := by
  obtain ⟨hleast, hlongest⟩ := mem_takes.mp h
  have hn : n ≤ (cs.takeWhile g.accepts).length ∧ ∀ m, g.most = some m → n ≤ m := by
    unfold longest at hlongest
    cases hm : g.most with
    | none =>
      rw [hm] at hlongest
      exact ⟨hlongest, fun m h => nomatch h⟩
    | some k =>
      rw [hm] at hlongest
      refine ⟨Nat.le_trans hlongest (Nat.min_le_right _ _), fun m h => ?_⟩
      cases h
      exact Nat.le_trans hlongest (Nat.min_le_left _ _)
  -- The run lies within the longest one, and so it is as long as was asked.
  have hrun : cs.take n = (cs.takeWhile g.accepts).take n := by
    have h : (cs.takeWhile g.accepts ++ cs.dropWhile g.accepts).take n =
        (cs.takeWhile g.accepts).take n := List.take_append_of_le_length hn.1
    rwa [List.takeWhile_append_dropWhile] at h
  have hlength : (cs.take n).length = n := by
    rw [hrun, List.length_take]
    omega
  refine ⟨fun c hc => ?_, by omega, fun m hm => ?_⟩
  · rw [hrun] at hc
    exact List.mem_takeWhile_imp (List.mem_of_mem_take hc)
  · rw [hlength]
    exact hn.2 m hm

/-- A run that a segment stands for is tried. -/
theorem Fits.mem_takes {run : List Char} (h : g.Fits run) (cs : List Char) :
    run.length ∈ g.takes (run ++ cs) := by
  refine Segment.mem_takes.mpr ⟨h.least, ?_⟩
  have hle : run.length ≤ ((run ++ cs).takeWhile g.accepts).length := by
    rw [List.takeWhile_append_of_pos h.accepted, List.length_append]
    exact Nat.le_add_right _ _
  unfold longest
  cases hm : g.most with
  | none => exact hle
  | some k => exact Nat.le_min.mpr ⟨h.most k hm, hle⟩

end Segment

/-- What is found is a match. -/
theorem matches_of_matchWhole {pattern : List Segment} {cs : List Char} {runs : List (List Char)}
    (h : matchWhole pattern cs = some runs) : Matches pattern cs runs := by
  induction pattern generalizing cs runs with
  | nil =>
    unfold matchWhole at h
    split at h
    · next hempty =>
      cases h
      rw [List.isEmpty_iff.mp hempty]
      exact .nil
    · cases h
  | cons g rest ih =>
    obtain ⟨n, hn, hrest⟩ := List.exists_of_findSome?_eq_some h
    obtain ⟨runs, hruns, rfl⟩ := Option.map_eq_some_iff.mp hrest
    have hmatch := Matches.cons (g.fits_of_mem_takes hn) (ih hruns)
    rwa [List.take_append_drop] at hmatch

/-- Where there is a match, one is found. -/
theorem Matches.matchWhole_isSome {pattern : List Segment} {cs : List Char}
    {runs : List (List Char)} (h : Matches pattern cs runs) :
    (matchWhole pattern cs).isSome = true := by
  induction h with
  | nil => rfl
  | @cons g rest run cs runs hr _ ih =>
    refine List.findSome?_isSome_iff.mpr ⟨run.length, hr.mem_takes cs, ?_⟩
    rw [List.drop_left, Option.isSome_map]
    exact ih

/-- A match has as many runs as its pattern has segments. -/
theorem Matches.length_eq {pattern : List Segment} {cs : List Char} {runs : List (List Char)}
    (h : Matches pattern cs runs) : runs.length = pattern.length := by
  induction h with
  | nil => rfl
  | cons _ _ ih => rw [List.length_cons, List.length_cons, ih]

/-- A pattern that fails on every longer text with the same end as one on which it
fails. -/
def FailsLonger (pattern : List Segment) : Prop :=
  ∀ {s cs : List Char}, s <:+ cs → matchWhole pattern s = none → matchWhole pattern cs = none

section Greedy

variable {g : Segment} {rest : List Segment} {cs : List Char}

/-- Where failing on a text means failing on longer ones, only the longest run of a
segment without limit is tried. -/
theorem matchWhole_longest (hm : g.most = none) (hf : FailsLonger rest) (cs : List Char) :
    matchWhole (g :: rest) cs =
      if g.least ≤ (cs.takeWhile g.accepts).length then
        (matchWhole rest (cs.dropWhile g.accepts)).map (cs.takeWhile g.accepts :: ·)
      else none := by
  have hlongest : g.longest cs = (cs.takeWhile g.accepts).length := by
    unfold Segment.longest
    rw [hm]
  rw [matchWhole]
  split
  · next hle =>
    -- The longest run comes first; the others are of no use where it fails.
    have htakes : g.takes cs = (cs.takeWhile g.accepts).length ::
        ((List.range (g.longest cs)).filter (decide <| g.least ≤ ·)).reverse := by
      have hlast : [(cs.takeWhile g.accepts).length].filter (decide <| g.least ≤ ·) =
          [(cs.takeWhile g.accepts).length] :=
        List.filter_eq_self.mpr fun n hn => by
          rw [List.mem_singleton.mp hn]
          exact decide_eq_true hle
      unfold Segment.takes
      rw [List.range_succ, List.filter_append, List.reverse_append, hlongest, hlast]
      rfl
    rw [htakes, List.findSome?_cons, take_length_takeWhile, drop_length_takeWhile]
    cases hrest : matchWhole rest (cs.dropWhile g.accepts) with
    | some runs => rfl
    | none =>
      refine List.findSome?_eq_none_iff.mpr fun n hn => ?_
      rw [List.mem_reverse, List.mem_filter, List.mem_range, hlongest] at hn
      have hsuffix : cs.dropWhile g.accepts <:+ cs.drop n := by
        rw [← drop_length_takeWhile]
        exact List.drop_suffix_drop_left cs (Nat.le_of_lt hn.1)
      rw [hf hsuffix hrest]
      rfl
  · next hle =>
    refine List.findSome?_eq_none_iff.mpr fun n hn => ?_
    obtain ⟨hleast, hn⟩ := Segment.mem_takes.mp hn
    omega

/-- The empty pattern fails on every text but the empty one. -/
theorem failsLonger_nil : FailsLonger [] := by
  intro s cs h hs
  cases cs with
  | nil =>
    rw [List.suffix_nil.mp h] at hs
    cases hs
  | cons c cs => rfl

/-- Of any number of characters as many are taken as there are. -/
theorem matchWhole_zeroOrMore (p : Char → Bool) (hf : FailsLonger rest) (cs : List Char) :
    matchWhole (.zeroOrMore p :: rest) cs =
      (matchWhole rest (cs.dropWhile p)).map (cs.takeWhile p :: ·) :=
  (matchWhole_longest rfl hf cs).trans (if_pos (Nat.zero_le _))

/-- Any number of characters before a pattern make no difference to whether it
fails on longer texts. -/
theorem failsLonger_zeroOrMore (p : Char → Bool) (hf : FailsLonger rest) :
    FailsLonger (.zeroOrMore p :: rest) := by
  intro s cs h hs
  rw [matchWhole_zeroOrMore p hf, Option.map_eq_none_iff] at hs ⊢
  exact hf (dropWhile_suffix_dropWhile p h) hs

/-- A single character is taken off the start. -/
theorem matchWhole_one (p : Char → Bool) (cs : List Char) :
    matchWhole (.one p :: rest) cs =
      match cs with
      | [] => none
      | c :: cs => if p c then (matchWhole rest cs).map ([c] :: ·) else none := by
  cases cs with
  | nil => rfl
  | cons c cs =>
    have hlongest : (Segment.one p).longest (c :: cs) = if p c then 1 else 0 := by
      unfold Segment.one Segment.longest
      dsimp only
      by_cases hc : p c = true
      · rw [if_pos hc, List.takeWhile_cons_of_pos hc, List.length_cons]
        omega
      · rw [if_neg hc, List.takeWhile_cons_of_neg hc]
        rfl
    rw [matchWhole, Segment.takes, hlongest]
    by_cases hc : p c = true
    · rw [if_pos hc]
      simp only [if_pos hc]
      change List.findSome? _ [1] = _
      rw [List.findSome?_singleton]
      rfl
    · rw [if_neg hc]
      simp only [if_neg hc]
      rfl

end Greedy

end LiveSession.Text
