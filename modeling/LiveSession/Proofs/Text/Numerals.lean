import LiveSession.Text.Digits
import Mathlib.Data.List.Basic

/-!
# The numbers that digits stand for

A number that is read from a text is the one that its digits stand for in their order, and
besides digits there are only underscores in the text. So what is read does not depend on
underscores, and zeros in front of a text make no difference to it. Readers that know the
digits of more scripts read a text in ASCII alike.
-/

namespace LiveSession.Text

/-- The number that the digits of a text stand for, after a number that has been read. -/
def digitsValue (digit? : Char → Option Nat) (start : Nat) (cs : List Char) : Nat :=
  (cs.filterMap digit?).foldl (fun value d => value * 10 + d) start

/-- A number with its sign. -/
def signed (negative : Bool) (n : Nat) : Int :=
  if negative then -(n : Int) else n

/-- A text is a sign, or none, and a body. -/
inductive Signed : List Char → Bool → List Char → Prop
  | minus (body : List Char) : Signed ('-' :: body) true body
  | plus (body : List Char) : Signed ('+' :: body) false body
  | bare {body : List Char} (hm : body.head? ≠ some '-') (hp : body.head? ≠ some '+') :
      Signed body false body

/-- A reader of digits that takes the digits of ASCII for what they are, and no other
character of ASCII for a digit. -/
def AsciiDigits (digit? : Char → Option Nat) : Prop :=
  ∀ c : Char, c.toNat < 0x80 → digit? c = asciiDigit? c

/-- The digits of ASCII are read by one that knows no others. -/
theorem asciiDigits_asciiDigit? : AsciiDigits asciiDigit? :=
  fun _ _ => rfl

/-- The digits of ASCII are read by one that knows those of all scripts. -/
theorem asciiDigits_decimalDigit? : AsciiDigits decimalDigit? :=
  fun _ hc => if_pos hc

/-- The digits of ASCII are the characters from 48 to 57. -/
theorem toNat_of_isDigit {c : Char} (h : c.isDigit = true) : 48 ≤ c.toNat ∧ c.toNat ≤ 57 := by
  simp only [Char.isDigit, Bool.and_eq_true, decide_eq_true_eq] at h
  exact h

/-- The characters of a number with a sign are those of its body and its sign. -/
theorem Signed.mem {cs body : List Char} {negative : Bool} {c : Char}
    (h : Signed cs negative body) (hc : c ∈ cs) : c = '-' ∨ c = '+' ∨ c ∈ body := by
  cases h with
  | minus => exact (List.mem_cons.mp hc).imp_right .inr
  | plus => exact .inr (List.mem_cons.mp hc)
  | bare => exact .inr (.inr hc)

section Digits

variable {digit? : Char → Option Nat} {cs : List Char}

/-- Digits after a number, and nothing else but underscores, are read. -/
theorem moreDigits?_eq_some {value n : Nat} (hmark : digit? '_' = none)
    (h : moreDigits? digit? value cs = some n) :
    n = digitsValue digit? value cs ∧ ∀ c ∈ cs, c = '_' ∨ (digit? c).isSome = true := by
  unfold digitsValue
  fun_induction moreDigits? digit? value cs with
  | case1 value =>
    cases h
    exact ⟨rfl, fun c hc => absurd hc List.not_mem_nil⟩
  | case2 value c cs d hd ih =>
    obtain ⟨hn, hall⟩ := ih h
    refine ⟨by rw [hn, List.filterMap_cons_some hd, List.foldl_cons], ?_⟩
    exact List.forall_mem_cons.mpr ⟨.inr (by rw [hd, Option.isSome_some]), hall⟩
  | case3 => cases h
  | case4 value c cs d hd _ ih =>
    obtain ⟨hn, hall⟩ := ih h
    refine ⟨by rw [hn, List.filterMap_cons_none hmark, List.filterMap_cons_some hd,
      List.foldl_cons], ?_⟩
    exact List.forall_mem_cons.mpr ⟨.inl rfl,
      List.forall_mem_cons.mpr ⟨.inr (by rw [hd, Option.isSome_some]), hall⟩⟩
  | case5 => cases h
  | case6 => cases h

/-- A natural number is read from digits and underscores, as what the digits stand for. -/
theorem natural?_eq_some {n : Nat} (hmark : digit? '_' = none)
    (h : natural? digit? cs = some n) :
    n = digitsValue digit? 0 cs ∧ ∀ c ∈ cs, c = '_' ∨ (digit? c).isSome = true := by
  cases cs with
  | nil => cases h
  | cons c rest =>
    obtain ⟨d, hd, hmore⟩ := Option.bind_eq_some_iff.mp h
    obtain ⟨hn, hall⟩ := moreDigits?_eq_some hmark hmore
    unfold digitsValue at hn ⊢
    refine ⟨by rw [hn, List.filterMap_cons_some hd, List.foldl_cons, Nat.zero_mul, Nat.zero_add],
      List.forall_mem_cons.mpr ⟨.inr (by rw [hd, Option.isSome_some]), hall⟩⟩

/-- An integer is read from a sign, or none, and a natural number. -/
theorem integer?_eq_some {i : Int} (h : integer? digit? cs = some i) :
    ∃ negative body n, Signed cs negative body ∧ natural? digit? body = some n ∧
      i = signed negative n := by
  have hread : ∀ {body : List Char} {value : Int},
      ((natural? digit? body).bind fun n => some (n : Int)) = some value →
        ∃ n : Nat, natural? digit? body = some n ∧ value = n := by
    intro body value hvalue
    obtain ⟨n, hn, hsome⟩ := Option.bind_eq_some_iff.mp hvalue
    exact ⟨n, hn, (Option.some.inj hsome).symm⟩
  unfold integer? at h
  split at h
  · obtain ⟨value, hvalue, rfl⟩ := Option.map_eq_some_iff.mp h
    obtain ⟨n, hn, rfl⟩ := hread hvalue
    exact ⟨true, _, n, .minus _, hn, rfl⟩
  · obtain ⟨value, hvalue, rfl⟩ := Option.map_eq_some_iff.mp h
    obtain ⟨n, hn, rfl⟩ := hread hvalue
    exact ⟨false, _, n, .plus _, hn, rfl⟩
  · next hm hp =>
    obtain ⟨value, hvalue, rfl⟩ := Option.map_eq_some_iff.mp h
    obtain ⟨n, hn, rfl⟩ := hread hvalue
    refine ⟨false, cs, n, .bare (fun hhead => ?_) fun hhead => ?_, hn, rfl⟩
    · obtain ⟨rest, hrest⟩ := List.head?_eq_some_iff.mp hhead
      exact hm rest hrest
    · obtain ⟨rest, hrest⟩ := List.head?_eq_some_iff.mp hhead
      exact hp rest hrest

/-- An integer that is read with the digits of ASCII is written in ASCII, without the null
character. -/
theorem toNat_of_integer? {i : Int} (h : integer? asciiDigit? cs = some i) {c : Char}
    (hc : c ∈ cs) : c.toNat ≠ 0 ∧ c.toNat < 0x80 := by
  obtain ⟨negative, body, n, hsigned, hn, -⟩ := integer?_eq_some h
  obtain ⟨-, hbody⟩ := natural?_eq_some rfl hn
  rcases hsigned.mem hc with rfl | rfl | hmem
  · decide
  · decide
  · rcases hbody c hmem with rfl | hdigit
    · decide
    · unfold asciiDigit? at hdigit
      split at hdigit
      · next hd =>
        obtain ⟨hge, hle⟩ := toNat_of_isDigit hd
        omega
      · cases hdigit

/-- Underscores make no difference to what digits stand for. -/
theorem digitsValue_filter (hmark : digit? '_' = none) (start : Nat) (cs : List Char) :
    digitsValue digit? start (cs.filter (· != '_')) = digitsValue digit? start cs := by
  unfold digitsValue
  rw [List.filterMap_filter]
  congr 1
  refine List.filterMap_congr fun c _ => ?_
  split
  · rfl
  · next hc =>
    have heq : c = '_' := by simpa using hc
    rw [heq, hmark]

/-- Zeros and underscores in front make no difference to what digits stand for. -/
theorem digitsValue_zeros (hmark : digit? '_' = none) (hzero : digit? '0' = some 0)
    {zeros : List Char} (hz : ∀ c ∈ zeros, c = '0' ∨ c = '_') (cs : List Char) :
    digitsValue digit? 0 (zeros ++ cs) = digitsValue digit? 0 cs := by
  unfold digitsValue
  induction zeros with
  | nil => rfl
  | cons c rest ih =>
    obtain ⟨hc, hrest⟩ := List.forall_mem_cons.mp hz
    rw [List.cons_append]
    rcases hc with rfl | rfl
    · rw [List.filterMap_cons_some hzero, List.foldl_cons]
      exact ih hrest
    · rw [List.filterMap_cons_none hmark]
      exact ih hrest

/-- Digits of ASCII stand for the same number whatever other digits a reader knows. -/
theorem AsciiDigits.digitsValue_eq (hd : AsciiDigits digit?) (hcs : ∀ c ∈ cs, c.isDigit = true)
    (start : Nat) : digitsValue digit? start cs = digitsValue asciiDigit? start cs := by
  unfold digitsValue
  rw [List.filterMap_congr fun c hc =>
    hd c (Nat.lt_of_le_of_lt (toNat_of_isDigit (hcs c hc)).2 (by decide))]

/-- An underscore is no digit. -/
theorem AsciiDigits.underscore (hd : AsciiDigits digit?) : digit? '_' = none :=
  (hd '_' (by decide)).trans rfl

end Digits

end LiveSession.Text
