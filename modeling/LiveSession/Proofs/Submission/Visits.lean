import LiveSession.Proofs.Submission.Notes

/-!
# Visits of blocks of lines

What a walk attempts are blocks of consecutive lines. It visits the first line,
then a block that is longer by one line where more is needed, and the next
line alone after a completed block. The completed blocks and the last one are
put together from every line that is reached, each line once and in order.
-/

namespace LiveSession.Submission

variable {S E : Type}

/-- The lines from one number to another, both included. -/
def linesBetween (lines : List String) (first last : Nat) : List String :=
  (lines.drop first).take (last + 1 - first)

/-- The text of the lines from one number to another. -/
def blockText (lines : List String) (first last : Nat) : String :=
  String.intercalate "\n" (linesBetween lines first last)

/-- A visit of a walk. -/
structure Visit (S E : Type) where
  /-- The number of the first line of the block. -/
  first : Nat
  /-- The number of its last line. -/
  last : Nat
  /-- The attempt at the block. -/
  attempt : Attempt S E

namespace Visit

/-- The block that is visited after this one, in a walk through so many lines. -/
def next? (count : Nat) (v : Visit S E) : Option (Nat × Nat) :=
  if v.last + 1 < count then
    match v.attempt.outcome with
    | .ok .incomplete => some (v.first, v.last + 1)
    | .ok (.success _) => some (v.last + 1, v.last + 1)
    | _ => none
  else none

/-- Whether the block is completed. -/
def completes (v : Visit S E) : Bool :=
  match v.attempt.outcome with
  | .ok (.success _) => true
  | _ => false

/-- The numbers of the lines of the block. -/
def lineNumbers (v : Visit S E) : List Nat :=
  List.range' v.first (v.last + 1 - v.first)

variable {v : Visit S E} {count : Nat}

/-- More is needed: the block grows by one line. -/
theorem next?_of_incomplete (hc : v.last + 1 < count) (h : v.attempt.outcome = .ok .incomplete) :
    v.next? count = some (v.first, v.last + 1) := by
  unfold next?
  rw [if_pos hc, h]

/-- After a completed block the next line is visited. -/
theorem next?_of_success {payload : List (String × Entry)} (hc : v.last + 1 < count)
    (h : v.attempt.outcome = .ok (.success payload)) :
    v.next? count = some (v.last + 1, v.last + 1) := by
  unfold next?
  rw [if_pos hc, h]

/-- Nothing is visited after a halting outcome. -/
theorem next?_of_halts (h : halts v.attempt.outcome = true) : v.next? count = none := by
  unfold next?
  split
  · split
    · next hi => rw [hi] at h; cases h
    · next hs => rw [hs] at h; cases h
    · rfl
  · rfl

/-- Nothing is visited after the last line. -/
theorem next?_of_last (h : count ≤ v.last + 1) : v.next? count = none := by
  unfold next?
  rw [if_neg (Nat.not_lt.mpr h)]

/-- A visit leads on only from an incomplete or a completed block, to a block
that ends one line later. -/
theorem next?_eq_some {first last : Nat} (h : v.next? count = some (first, last)) :
    last = v.last + 1 ∧ last < count ∧ halts v.attempt.outcome = false ∧
      (v.completes = false ∧ first = v.first ∨ v.completes = true ∧ first = last) := by
  unfold next? at h
  split at h
  · next hc =>
    split at h
    · next ho =>
      cases h
      exact ⟨rfl, hc, by rw [ho]; rfl, .inl ⟨by rw [completes, ho], rfl⟩⟩
    · next ho =>
      cases h
      exact ⟨rfl, hc, by rw [ho]; rfl, .inr ⟨by rw [completes, ho], rfl⟩⟩
    · cases h
  · cases h

/-- A block that neither halts nor is completed asks for more. -/
theorem incomplete_of_not_completes (hh : halts v.attempt.outcome = false)
    (hc : v.completes = false) : v.attempt.outcome = .ok .incomplete := by
  rcases outcome_cases v.attempt.outcome with hi | ⟨payload, hs⟩ | hh'
  · exact hi
  · rw [completes, hs] at hc
    cases hc
  · rw [hh] at hh'
    cases hh'

/-- A visit that leads nowhere halted, or it was at the last line. -/
theorem last_of_next?_eq_none (h : v.next? count = none)
    (ho : halts v.attempt.outcome = false) : count ≤ v.last + 1 := by
  refine Nat.not_lt.mp fun hc => ?_
  rcases outcome_cases v.attempt.outcome with hi | ⟨payload, hs⟩ | hh
  · rw [next?_of_incomplete hc hi] at h
    cases h
  · rw [next?_of_success hc hs] at h
    cases h
  · rw [ho] at hh
    cases hh

end Visit

/-- The visits of a walk through so many lines, from a block on: every visit is
where the one before it leads, and the last one leads nowhere. -/
inductive Route (count : Nat) : Nat → Nat → List (Visit S E) → Prop
  | finish {v : Visit S E} (h : v.next? count = none) : Route count v.first v.last [v]
  | go {v : Visit S E} {first last : Nat} {rest : List (Visit S E)}
      (h : v.next? count = some (first, last)) (hr : Route count first last rest) :
      Route count v.first v.last (v :: rest)

/-- The visits of completed blocks, and the last visit. -/
def blocks : List (Visit S E) → List (Visit S E)
  | [] => []
  | v :: rest => if v.completes || rest.isEmpty then v :: blocks rest else blocks rest

section Lines

variable {lines rest : List String} {first last : Nat} {next : String}

/-- With one more line a block grows by that line. -/
theorem linesBetween_succ (hf : first ≤ last) (hl : lines.drop (last + 1) = next :: rest) :
    linesBetween lines first (last + 1) = linesBetween lines first last ++ [next] := by
  have hn : lines[last + 1]? = some next := by
    rw [← List.head?_drop, hl, List.head?_cons]
  have hk : last + 1 + 1 - first = (last + 1 - first) + 1 := by omega
  have hi : first + (last + 1 - first) = last + 1 := by omega
  unfold linesBetween
  rw [hk, List.take_add_one, List.getElem?_drop, hi, hn]
  rfl

/-- A block that lies within the lines has lines. -/
theorem linesBetween_ne_nil (hf : first ≤ last) (hl : last < lines.length) :
    linesBetween lines first last ≠ [] := by
  intro h
  have hc := congrArg List.length h
  rw [linesBetween, List.length_take, List.length_drop, List.length_nil] at hc
  omega

/-- With one more line the text of a block is joined with that line. -/
theorem blockText_succ (hf : first ≤ last) (hl : lines.drop (last + 1) = next :: rest)
    (hlast : last < lines.length) :
    blockText lines first (last + 1) = join (blockText lines first last) next := by
  unfold blockText join
  rw [linesBetween_succ hf hl,
    String.intercalate_append_of_ne_nil (linesBetween_ne_nil hf hlast) (List.cons_ne_nil _ _),
    String.intercalate_singleton]

/-- The text of a block of one line is the line. -/
theorem blockText_self (hl : lines.drop last = next :: rest) :
    blockText lines last last = next := by
  have hk : last + 1 - last = 1 := by omega
  rw [blockText, linesBetween, hk, hl, List.take_succ_cons, List.take_zero,
    String.intercalate_singleton]

/-- The lines of a block by their numbers. -/
theorem filterMap_range' (lines : List String) (first count : Nat) :
    (List.range' first count).filterMap (fun i => lines[i]?) =
      (lines.drop first).take count := by
  induction count generalizing first with
  | zero => rw [List.range'_zero, List.filterMap_nil, List.take_zero]
  | succ count ih =>
    rw [List.range'_succ, List.filterMap_cons, ih]
    by_cases hf : first < lines.length
    · rw [List.getElem?_eq_getElem hf, List.drop_eq_getElem_cons hf, List.take_succ_cons]
    · rw [List.getElem?_eq_none (by omega), List.drop_eq_nil_of_le (by omega),
        List.drop_eq_nil_of_le (by omega), List.take_nil, List.take_nil]

/-- Joining joined pieces is joining all of them. -/
theorem intercalate_flatten {pieces : List (List String)} (sep : String)
    (hp : ∀ p ∈ pieces, p ≠ []) :
    String.intercalate sep (pieces.map (String.intercalate sep)) =
      String.intercalate sep pieces.flatten := by
  induction pieces with
  | nil => rfl
  | cons p rest ih =>
    have hr : ∀ q ∈ rest, q ≠ [] := fun q hq => hp q (List.mem_cons_of_mem p hq)
    cases rest with
    | nil => simp only [List.map_cons, List.map_nil, List.flatten_cons, List.flatten_nil,
        List.append_nil, String.intercalate_singleton]
    | cons q rest =>
      have hq : q ≠ [] := hr q List.mem_cons_self
      have hne : (q :: rest).flatten ≠ [] := by
        rw [List.flatten_cons]
        exact List.append_ne_nil_of_left_ne_nil hq _
      rw [List.flatten_cons,
        String.intercalate_append_of_ne_nil (hp p List.mem_cons_self) hne, ← ih hr,
        List.map_cons, String.intercalate_cons_of_ne_nil (by simp only [List.map_cons, ne_eq,
          List.cons_ne_nil, not_false_eq_true])]

end Lines

/-- A walk from a block on is a route of visits whose texts are the texts of
their blocks. -/
theorem walk_route (attempt : Operation S E Response) {lines rest : List String}
    {first last : Nat} (s : S) (hf : first ≤ last) (hlast : last < lines.length)
    (hl : lines.drop (last + 1) = rest) :
    ∃ visits : List (Visit S E),
      visits.map Visit.attempt = (walk attempt (blockText lines first last) rest s).1 ∧
      (∀ v ∈ visits, v.attempt.text = blockText lines v.first v.last) ∧
      Route lines.length first last visits := by
  induction rest generalizing first last s with
  | nil =>
    have hend : lines.length ≤ last + 1 := List.drop_eq_nil_iff.mp hl
    let here : Visit S E :=
      ⟨first, last, s, blockText lines first last, (attempt (blockText lines first last) s).1⟩
    refine ⟨[here], rfl, ?_, Route.finish (v := here) ?_⟩
    · intro v hv
      rw [List.mem_singleton.mp hv]
    · exact Visit.next?_of_last hend
  | cons next rest ih =>
    have hcount : last + 1 < lines.length := by
      have hlen := congrArg List.length hl
      rw [List.length_drop, List.length_cons] at hlen
      omega
    have hrest : lines.drop (last + 1 + 1) = rest := by
      rw [← List.tail_drop, hl, List.tail_cons]
    rcases outcome_cases (attempt (blockText lines first last) s).1 with hi | ⟨payload, hs⟩ | hh
    · obtain ⟨visits, hv, ht, hr⟩ :=
        ih (attempt (blockText lines first last) s).2 (Nat.le_succ_of_le hf) hcount hrest
      rw [blockText_succ hf hl hlast] at hv
      let here : Visit S E := ⟨first, last, s, blockText lines first last, .ok .incomplete⟩
      refine ⟨here :: visits, ?_, ?_, Route.go (v := here) ?_ hr⟩
      · rw [walk_incomplete hi, List.map_cons, hv]
      · exact List.forall_mem_cons.mpr ⟨rfl, ht⟩
      · exact Visit.next?_of_incomplete hcount rfl
    · obtain ⟨visits, hv, ht, hr⟩ :=
        ih (attempt (blockText lines first last) s).2 (Nat.le_refl (last + 1)) hcount hrest
      rw [blockText_self hl] at hv
      let here : Visit S E :=
        ⟨first, last, s, blockText lines first last, .ok (.success payload)⟩
      refine ⟨here :: visits, ?_, ?_, Route.go (v := here) ?_ hr⟩
      · rw [walk_success hs, List.map_cons, hv]
      · exact List.forall_mem_cons.mpr ⟨rfl, ht⟩
      · exact Visit.next?_of_success hcount rfl
    · let here : Visit S E :=
        ⟨first, last, s, blockText lines first last, (attempt (blockText lines first last) s).1⟩
      refine ⟨[here], ?_, ?_, Route.finish (v := here) ?_⟩
      · rw [walk_halts hh]
        rfl
      · intro v hv
        rw [List.mem_singleton.mp hv]
      · exact Visit.next?_of_halts hh

/-- A noted run visits blocks of lines on a route from the first line on. After
an incomplete last block there is the retry of it, and nothing otherwise. -/
theorem runNoted_route {attempt : Operation S E Response} (ha : EndsLines attempt)
    (wrap : Operation S E String) (unmerged : MergeError → E) {lines : List String}
    (hl : lines ≠ []) (s : S) :
    ∃ (visits : List (Visit S E)) (retry : List (Event S E)),
      (runNoted attempt wrap unmerged lines s).2.2 =
        visits.map (fun v => .attempted v.attempt) ++ retry ∧
      Route lines.length 0 0 visits ∧
      (∀ v ∈ visits, v.attempt.text = blockText lines v.first v.last) ∧
      ∃ v ∈ visits, visits.getLast? = some v ∧
        (v.attempt.outcome = .ok .incomplete →
          ∃ s', retry = blockEvents attempt wrap v.attempt.text s') ∧
        (v.attempt.outcome ≠ .ok .incomplete → retry = []) := by
  obtain ⟨first, rest, rfl⟩ := List.exists_cons_of_ne_nil hl
  have hfirst : blockText (first :: rest) 0 0 = first := blockText_self List.drop_zero
  have hpos : 0 < (first :: rest).length := Nat.succ_pos rest.length
  have hrest : (first :: rest).drop (0 + 1) = rest := rfl
  obtain ⟨visits, hv, ht, hr⟩ := walk_route attempt s (Nat.le_refl 0) hpos hrest
  rw [hfirst] at hv
  have hne : visits ≠ [] := fun h => by
    rw [h] at hv
    exact walk_ne_nil attempt first rest s hv.symm
  have hlast : visits.getLast? = some (visits.getLast hne) := List.getLast?_eq_some_getLast hne
  have hend : (walk attempt first rest s).1.getLast? = some (visits.getLast hne).attempt := by
    rw [← hv, List.getLast?_map, hlast, Option.map_some]
  refine ⟨visits, retryEvents attempt wrap (walk attempt first rest s), ?_, hr, ht, _,
    List.getLast_mem hne, hlast, fun hi => ⟨_, retryEvents_of_incomplete hend hi⟩,
    retryEvents_of_ne_incomplete hend⟩
  rw [runNoted_cons ha, ← hv, List.map_map]
  rfl

namespace Route

variable {count i j : Nat} {visits : List (Visit S E)}

/-- What is true of the block that a route starts with and of single lines, and stays
true of an incomplete block that grows, is true of every block of the route. -/
theorem forall_blocks {P : Nat → Nat → Prop} (h : Route count i j visits) (start : P i j)
    (single : ∀ k, P k k)
    (grow : ∀ v ∈ visits, v.attempt.outcome = .ok .incomplete → P v.first v.last →
      P v.first (v.last + 1)) : ∀ v ∈ visits, P v.first v.last := by
  induction h with
  | finish h =>
    intro v hv
    rw [List.mem_singleton.mp hv]
    exact start
  | go h hr ih =>
    obtain ⟨rfl, -, hh, hf⟩ := Visit.next?_eq_some h
    refine List.forall_mem_cons.mpr
      ⟨start, ih ?_ fun w hw => grow w (List.mem_cons_of_mem _ hw)⟩
    rcases hf with ⟨hc, rfl⟩ | ⟨-, rfl⟩
    · exact grow _ List.mem_cons_self (Visit.incomplete_of_not_completes hh hc) start
    · exact single _

/-- A route has visits. -/
theorem ne_nil (h : Route count i j visits) : visits ≠ [] := by
  cases h with
  | finish h => exact List.cons_ne_nil _ _
  | go h hr => exact List.cons_ne_nil _ _

/-- One visit ends at each line from the first block's last line on. -/
theorem map_last (h : Route count i j visits) :
    visits.map Visit.last = List.range' j visits.length := by
  induction h with
  | finish h => rfl
  | go h hr ih =>
    obtain ⟨rfl, -, -, -⟩ := Visit.next?_eq_some h
    rw [List.map_cons, ih, List.length_cons, List.range'_succ]

/-- No visit reaches past the lines, and blocks run forwards. -/
theorem bounds (h : Route count i j visits) (hij : i ≤ j) (hj : j < count) :
    ∀ v ∈ visits, v.first ≤ v.last ∧ v.last < count := by
  induction h with
  | finish h =>
    intro v hv
    rw [List.mem_singleton.mp hv]
    exact ⟨hij, hj⟩
  | go h hr ih =>
    obtain ⟨rfl, hc, -, hf⟩ := Visit.next?_eq_some h
    refine List.forall_mem_cons.mpr ⟨⟨hij, hj⟩, ih ?_ hc⟩
    rcases hf with ⟨-, rfl⟩ | ⟨-, rfl⟩
    · exact Nat.le_succ_of_le hij
    · exact Nat.le_refl _

/-- There are no more visits than lines. -/
theorem length_le (h : Route count i j visits) (hj : j < count) :
    j + visits.length ≤ count := by
  induction h with
  | finish h =>
    rw [List.length_singleton]
    omega
  | go h hr ih =>
    obtain ⟨rfl, hc, -, -⟩ := Visit.next?_eq_some h
    have hle := ih hc
    rw [List.length_cons]
    omega

/-- Where no visit halts, a visit ends at each line up to the last. -/
theorem length_eq (h : Route count i j visits) (hj : j < count)
    (hv : ∀ v ∈ visits, halts v.attempt.outcome = false) : j + visits.length = count := by
  induction h with
  | finish h =>
    have hend := Visit.last_of_next?_eq_none h (hv _ List.mem_cons_self)
    rw [List.length_singleton]
    omega
  | go h hr ih =>
    obtain ⟨rfl, hc, -, -⟩ := Visit.next?_eq_some h
    have he := ih hc fun w hw => hv w (List.mem_cons_of_mem _ hw)
    rw [List.length_cons]
    omega

/-- The blocks take every line that is reached once, in order. -/
theorem flatMap_blocks (h : Route count i j visits) (hij : i ≤ j) :
    (blocks visits).flatMap Visit.lineNumbers = List.range' i (j + visits.length - i) := by
  induction h with
  | finish h =>
    simp only [blocks, List.isEmpty_nil, Bool.or_true, if_true, List.flatMap_cons,
      List.flatMap_nil, List.append_nil, Visit.lineNumbers, List.length_singleton]
  | go h hr ih =>
    rename_i v first last rest
    obtain ⟨rfl, -, -, hf⟩ := Visit.next?_eq_some h
    have he : rest.isEmpty = false := List.isEmpty_eq_false_iff.mpr hr.ne_nil
    rw [blocks, he, Bool.or_false, List.length_cons]
    rcases hf with ⟨hc, rfl⟩ | ⟨hc, rfl⟩
    · rw [hc, if_neg Bool.false_ne_true, ih (Nat.le_succ_of_le hij)]
      congr 1
      omega
    · rw [hc, if_pos rfl, List.flatMap_cons, ih (Nat.le_refl _), Visit.lineNumbers]
      have hstart : v.first + (v.last + 1 - v.first) = v.last + 1 := by omega
      have hrest : v.last + 1 + rest.length - (v.last + 1) = rest.length := by omega
      have hcount : v.last + (rest.length + 1) - v.first =
          v.last + 1 - v.first + rest.length := by omega
      rw [hcount, hrest, ← List.range'_append_1, hstart]

/-- A block is visited. -/
theorem mem_of_mem_blocks {v : Visit S E} (h : v ∈ blocks visits) : v ∈ visits := by
  induction visits with
  | nil => exact h
  | cons w rest ih =>
    unfold blocks at h
    split at h
    · rcases List.mem_cons.mp h with rfl | h
      · exact List.mem_cons_self
      · exact List.mem_cons_of_mem w (ih h)
    · exact List.mem_cons_of_mem w (ih h)

/-- The blocks of a route from the first line on, joined again, are the lines
that are reached. -/
theorem intercalate_blocks {lines : List String} (h : Route lines.length 0 0 visits)
    (hl : lines ≠ []) :
    String.intercalate "\n" ((blocks visits).map fun v => blockText lines v.first v.last) =
      String.intercalate "\n" (lines.take visits.length) := by
  have hlen : 0 < lines.length := List.length_pos_iff.mpr hl
  have hmap : ((blocks visits).map fun v => blockText lines v.first v.last) =
      ((blocks visits).map fun v => linesBetween lines v.first v.last).map
        (String.intercalate "\n") := by
    rw [List.map_map]
    rfl
  have hlines : ((blocks visits).map fun v => linesBetween lines v.first v.last).flatten =
      lines.take visits.length := by
    have hn := congrArg (List.filterMap fun n => lines[n]?) (h.flatMap_blocks (Nat.le_refl 0))
    rw [filterMap_range', List.drop_zero, Nat.zero_add, Nat.sub_zero, List.filterMap_flatMap] at hn
    rw [← hn, ← List.flatMap_def]
    congr 1
    funext v
    exact (filterMap_range' lines v.first _).symm
  rw [hmap, intercalate_flatten, hlines]
  intro p hp
  obtain ⟨v, hv, rfl⟩ := List.mem_map.mp hp
  obtain ⟨hf, hlast⟩ := h.bounds (Nat.le_refl 0) hlen v (mem_of_mem_blocks hv)
  exact linesBetween_ne_nil hf hlast

end Route

end LiveSession.Submission
