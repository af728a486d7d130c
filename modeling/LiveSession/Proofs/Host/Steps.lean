import LiveSession.Host.Equal

/-!
# Values and their parts

A value is made of its parts, down to the values without any, and a structured value of
its own. So what is passed on from the parts to what they make is true of all of them.
Only values whose parts are kept in the same way can be equal.
-/

namespace LiveSession

/-- The first component of a member is smaller than the list. -/
theorem sizeOf_fst_lt_of_mem {α β : Type} [SizeOf α] [SizeOf β] {e : α × β} {entries : List (α × β)}
    (h : e ∈ entries) : sizeOf e.1 < sizeOf entries := by
  have hlt := List.sizeOf_lt_of_mem h
  have hpair : sizeOf e = 1 + sizeOf e.1 + sizeOf e.2 := rfl
  omega

/-- The second component of a member is smaller than the list. -/
theorem sizeOf_snd_lt_of_mem {α β : Type} [SizeOf α] [SizeOf β] {e : α × β} {entries : List (α × β)}
    (h : e ∈ entries) : sizeOf e.2 < sizeOf entries := by
  have hlt := List.sizeOf_lt_of_mem h
  have hpair : sizeOf e = 1 + sizeOf e.1 + sizeOf e.2 := rfl
  omega

/-- How the parts of a value are kept, as far as equality goes by them. -/
inductive Layout where
  /-- There are no parts. -/
  | atom
  | items
  | tree
  /-- Values with such parts are never equal. -/
  | other
  deriving DecidableEq

/-- The layout of a value. -/
def Host.layout : Host → Layout
  | .sequence _ _ => .items
  | .mapping _ _ => .other
  | .record _ _ => .other
  | .envelope _ => .other
  | .handle _ _ => .other
  | .structured _ => .tree
  | _ => .atom

/-- The layout of a structured value. -/
def Structured.layout : Structured → Layout
  | .array _ => .items
  | .object _ => .tree
  | .foreign _ => .other
  | _ => .atom

/-- What is needed to show something of every value and of every structured value:
it is true of those without parts, and of any other if it is true of its parts. -/
structure Host.Steps (P : Host → Prop) (Q : Structured → Prop) : Prop where
  atom : ∀ h, h.layout = .atom → P h
  sequence : ∀ kind items, (∀ h ∈ items, P h) → P (.sequence kind items)
  mapping : ∀ kind entries, (∀ e ∈ entries, P e.1 ∧ P e.2) → P (.mapping kind entries)
  record : ∀ kind fields, (∀ f ∈ fields, P f.2) → P (.record kind fields)
  envelope : ∀ root, P root → P (.envelope root)
  handle : ∀ take attributes, (∀ f ∈ attributes, P f.2) → P (.handle take attributes)
  structured : ∀ v, Q v → P (.structured v)
  leaf : ∀ v, v.layout = .atom → Q v
  array : ∀ items, (∀ v ∈ items, Q v) → Q (.array items)
  object : ∀ fields, (∀ f ∈ fields, Q f.2) → Q (.object fields)
  foreign : ∀ h, P h → Q (.foreign h)

namespace Host.Steps

variable {P : Host → Prop} {Q : Structured → Prop}

mutual

/-- What the steps show is true of every value. -/
theorem value (steps : Steps P Q) (h : Host) : P h := by
  cases h with
  | sequence kind items => exact steps.sequence kind items fun h hmem => value steps h
  | mapping kind entries =>
    exact steps.mapping kind entries fun e hmem => ⟨value steps e.1, value steps e.2⟩
  | record kind fields => exact steps.record kind fields fun f hmem => value steps f.2
  | envelope root => exact steps.envelope root (value steps root)
  | handle take attributes =>
    exact steps.handle take attributes fun f hmem => value steps f.2
  | structured v => exact steps.structured v (tree steps v)
  | _ => exact steps.atom _ rfl
termination_by sizeOf h
decreasing_by
  · have hlt := List.sizeOf_lt_of_mem hmem
    rw [Host.sequence.sizeOf_spec]
    omega
  · have hlt := sizeOf_fst_lt_of_mem hmem
    rw [Host.mapping.sizeOf_spec]
    omega
  · have hlt := sizeOf_snd_lt_of_mem hmem
    rw [Host.mapping.sizeOf_spec]
    omega
  · have hlt := sizeOf_snd_lt_of_mem hmem
    rw [Host.record.sizeOf_spec]
    omega
  · rw [Host.envelope.sizeOf_spec]
    omega
  · have hlt := sizeOf_snd_lt_of_mem hmem
    rw [Host.handle.sizeOf_spec]
    omega
  · rw [Host.structured.sizeOf_spec]
    omega

/-- What the steps show is true of every structured value. -/
theorem tree (steps : Steps P Q) (v : Structured) : Q v := by
  cases v with
  | array items => exact steps.array items fun v hmem => tree steps v
  | object fields => exact steps.object fields fun f hmem => tree steps f.2
  | foreign h => exact steps.foreign h (value steps h)
  | _ => exact steps.leaf _ rfl
termination_by sizeOf v
decreasing_by
  · have hlt := List.sizeOf_lt_of_mem hmem
    rw [Structured.array.sizeOf_spec]
    omega
  · have hlt := sizeOf_snd_lt_of_mem hmem
    rw [Structured.object.sizeOf_spec]
    omega
  · rw [Structured.foreign.sizeOf_spec]
    omega

end

end Host.Steps

namespace Host

/-- A number has no parts. -/
theorem layout_of_numeral? {h : Host} {n : Numeral} (hn : h.numeral? = some n) :
    h.layout = .atom := by
  cases h <;> first | rfl | cases hn

/-- A text has no parts. -/
theorem layout_of_text? {h : Host} {s : String} (hs : h.text? = some s) : h.layout = .atom := by
  cases h <;> first | rfl | cases hs

/-- Values that are compared as numbers have no parts. -/
theorem layout_of_numberSame? {a b : Host} {answer : Bool} (h : numberSame? a b = some answer) :
    a.layout = .atom ∧ b.layout = .atom := by
  revert h
  fun_cases numberSame? a b with
  | case1 p q => exact fun _ => ⟨rfl, rfl⟩
  | case2 x y z w => exact fun _ => ⟨rfl, rfl⟩
  | case3 p b _ =>
    intro h
    obtain ⟨n, hn, -⟩ := Option.map_eq_some_iff.mp h
    exact ⟨rfl, layout_of_numeral? hn⟩
  | case4 a q _ =>
    intro h
    obtain ⟨n, hn, -⟩ := Option.map_eq_some_iff.mp h
    exact ⟨layout_of_numeral? hn, rfl⟩
  | case5 =>
    have ha : a.layout = .atom := layout_of_numeral? ‹a.numeral? = some _›
    have hb : b.layout = .atom := layout_of_numeral? ‹b.numeral? = some _›
    exact fun _ => ⟨ha, hb⟩
  | case6 => exact fun h => nomatch h

/-- Values of different layouts, or of a layout without equality, are told apart. -/
theorem same_of_layout {a b : Host} (h : a.layout ≠ b.layout ∨ a.layout = .other) :
    same a b = false := by
  have hatoms : ¬ (a.layout = .atom ∧ b.layout = .atom) := by
    rintro ⟨ha, hb⟩
    rcases h with h | h
    · exact h (ha.trans hb.symm)
    · rw [ha] at h
      cases h
  -- Equal values have parts of one layout, or they are numbers or texts.
  fun_cases same a b
  case case15 hn => exact absurd (layout_of_numberSame? hn) hatoms
  case case16 =>
    have ha : a.layout = .atom := layout_of_text? ‹a.text? = some _›
    have hb : b.layout = .atom := layout_of_text? ‹b.text? = some _›
    exact absurd ⟨ha, hb⟩ hatoms
  case case17 => rfl
  all_goals exact h.elim (fun hne => (hne rfl).elim) fun ho => nomatch ho

/-- Structured values of different layouts are told apart. -/
theorem sameStructured_of_layout {v w : Structured} (h : v.layout ≠ w.layout) :
    sameStructured v w = false := by
  fun_cases sameStructured v w
  case case10 => rfl
  all_goals exact (h rfl).elim

end Host

end LiveSession
