import LiveSession.Proofs.Text.Numerals
import LiveSession.Settings
import Mathlib.Data.List.TakeWhile

/-!
# Two readings of a limit

A limit from a trusted source is taken as a field, and one from a request is read before it
is lowered. The two differ in what they accept: a field takes no fraction but a text with
zero decimal places, a request is cut to its whole part and may be written in the digits of
any script. Where both accept a value they come to the same integer, unless it is an exact
ratio, which a field rounds to the nearest double first.
-/

namespace LiveSession

namespace Text

variable {p q : Char → Bool} {cs : List Char}

/-- A character of a text is trimmed only if it is of the class. -/
theorem mem_trimBoth {c : Char} (h : c ∈ cs) (hc : p c = false) : c ∈ trimBoth p cs := by
  have hdrop : ∀ {ds : List Char}, c ∈ ds → c ∈ ds.dropWhile p := by
    intro ds hd
    rw [← List.takeWhile_append_dropWhile (p := p) (l := ds), List.mem_append] at hd
    refine hd.resolve_left fun htaken => ?_
    rw [List.mem_takeWhile_imp htaken] at hc
    cases hc
  unfold trimBoth
  exact List.mem_reverse.mpr (hdrop (List.mem_reverse.mpr (hdrop h)))

/-- Nothing is trimmed from a text without characters of the class. -/
theorem trimBoth_eq_self (h : ∀ c ∈ cs, p c = false) : trimBoth p cs = cs := by
  have hdrop : ∀ ds : List Char, (∀ c ∈ ds, p c = false) → ds.dropWhile p = ds := by
    intro ds hds
    cases ds with
    | nil => rfl
    | cons c rest =>
      rw [List.dropWhile_cons_of_neg]
      rw [hds c List.mem_cons_self]
      exact Bool.false_ne_true
  unfold trimBoth
  rw [hdrop cs h, hdrop cs.reverse fun c hc => h c (List.mem_reverse.mp hc), List.reverse_reverse]

/-- A text is trimmed alike by classes with the same of its characters. -/
theorem trimBoth_congr (h : ∀ c ∈ cs, p c = q c) : trimBoth p cs = trimBoth q cs := by
  have hdrop : ∀ ds : List Char, (∀ c ∈ ds, p c = q c) → ds.dropWhile p = ds.dropWhile q := by
    intro ds hds
    induction ds with
    | nil => rfl
    | cons c rest ih =>
      obtain ⟨hc, hrest⟩ := List.forall_mem_cons.mp hds
      rw [List.dropWhile_cons, List.dropWhile_cons, hc, ih hrest]
  unfold trimBoth
  rw [hdrop cs h, hdrop _ fun c hc =>
    h c ((List.dropWhile_sublist q).mem (List.mem_reverse.mp hc))]

/-- The character with a number of ASCII has that number, and so has every character that
is made from a number and is not the null character. -/
theorem toNat_charOfNat {n : Nat} (h : n < 0x80 ∨ (Char.ofNat n).toNat ≠ 0) :
    (Char.ofNat n).toNat = n := by
  by_cases hvalid : n.isValidChar
  · unfold Char.ofNat
    rw [dif_pos hvalid]
    rfl
  · rcases h with hsmall | hpos
    · exact absurd (.inl (by omega)) hvalid
    · unfold Char.ofNat at hpos
      rw [dif_neg hvalid] at hpos
      exact absurd rfl hpos

end Text

namespace Validation

open Text

variable {digit? : Char → Option Nat}

/-- A number that is written in digits alone is the one that the digits stand for. -/
theorem plainInteger_eq_ok {cs : List Char} {i : Int} (hd : AsciiDigits digit?)
    (h : plainInteger cs = .ok i) :
    (∀ c ∈ (splitMinus cs).2, c.isDigit = true) ∧
      i = signed (splitMinus cs).1 (digitsValue digit? 0 (splitMinus cs).2) := by
  have hvalue : ∀ {ds : List Char}, (∀ c ∈ ds, c.isDigit = true) →
      digitsValue digit? 0 ds = digitsValue asciiDigit? 0 ds :=
    fun hds => hd.digitsValue_eq hds 0
  unfold plainInteger at h
  dsimp only at h
  split at h
  · next hzero =>
    cases h
    have hall : ∀ c ∈ (splitMinus cs).2, c.isDigit = true := by
      rw [hzero]
      exact List.forall_mem_singleton.mpr rfl
    refine ⟨hall, ?_⟩
    rw [hvalue hall, hzero]
    cases (splitMinus cs).1 <;> rfl
  · split at h
    · cases h
    · split at h
      · cases h
      · split at h
        · next j hread =>
          split at h
          · next hdigits =>
            cases h
            have hall := List.all_eq_true.mp hdigits
            refine ⟨hall, ?_⟩
            obtain ⟨negative, body, n, hsigned, hn, rfl⟩ := integer?_eq_some hread
            obtain ⟨rfl, -⟩ := natural?_eq_some rfl hn
            rw [hvalue hall]
            cases hsigned with
            | minus => rfl
            | plus => exact absurd (hall '+' List.mem_cons_self) (by decide)
            | bare hm _ =>
              have hsplit : splitMinus cs = (false, cs) := by
                unfold splitMinus
                split
                · exact absurd rfl hm
                · rfl
              rw [hsplit]
          · cases h
        · cases h
  · cases h

/-- What is left when zeros in front are dropped stands for the same number. -/
theorem dropZeros_eq_some {cs ds : List Char} (hd : AsciiDigits digit?)
    (hcs : ∀ c ∈ cs, c = '_' ∨ (digit? c).isSome = true) (h : dropZeros cs = some ds) :
    digitsValue digit? 0 ds = digitsValue digit? 0 cs ∧ ds ⊆ cs := by
  have hzero : digit? '0' = some 0 := (hd '0' (by decide)).trans rfl
  have hpoint : digit? '.' = none := (hd '.' (by decide)).trans rfl
  have hrun : ∀ c ∈ cs.takeWhile (fun c => c == '0' || c == '_'), c = '0' ∨ c = '_' := by
    intro c hc
    have hclass := List.mem_takeWhile_imp hc
    rwa [Bool.or_eq_true, beq_iff_eq, beq_iff_eq] at hclass
  have hsplit := List.takeWhile_append_dropWhile (p := fun c => c == '0' || c == '_') (l := cs)
  unfold dropZeros at h
  split at h
  · cases h
  · next c rest =>
    split at h
    · cases h
      exact ⟨rfl, List.Subset.refl _⟩
    · split at h
      · cases h
      · next hc =>
        -- The text begins with a zero, so what follows the run of zeros is that of the rest.
        have hc' : c = '0' := by simpa using hc
        have hrest : (c :: rest).dropWhile (fun c => c == '0' || c == '_') =
            rest.dropWhile fun c => c == '0' || c == '_' := by
          rw [List.dropWhile_cons_of_pos (by rw [hc']; rfl)]
        rw [hrest] at hsplit
        dsimp only at h
        split at h
        · next hempty =>
          obtain ⟨last, hlast, rfl⟩ := Option.map_eq_some_iff.mp h
          rw [hempty, List.append_nil] at hsplit
          rw [hsplit] at hrun hlast
          have hmem : last ∈ c :: rest := List.mem_of_getLast? hlast
          have hone : ∀ d ∈ [last], d = '0' ∨ d = '_' :=
            List.forall_mem_singleton.mpr (hrun last hmem)
          refine ⟨?_, fun d hd => List.mem_singleton.mp hd ▸ hmem⟩
          have hvalue := digitsValue_zeros hd.underscore hzero hone []
          have hvalue' := digitsValue_zeros hd.underscore hzero hrun []
          rw [List.append_nil] at hvalue hvalue'
          rw [hvalue, hvalue']
        · next d more hmore =>
          rw [hmore] at hsplit
          have hd' : d ∈ c :: rest := by
            rw [← hsplit]
            exact List.mem_append_right _ List.mem_cons_self
          split at h
          · next hdot =>
            rcases hcs d hd' with hmark | hdigit
            · rw [hdot] at hmark
              exact absurd hmark (by decide)
            · rw [hdot, hpoint] at hdigit
              cases hdigit
          · split at h
            · cases h
              have hvalue := digitsValue_zeros hd.underscore hzero hrun (d :: more)
              rw [hsplit] at hvalue
              refine ⟨hvalue.symm, ?_⟩
              rw [← hsplit]
              exact List.subset_append_right _ _
            · cases h

/-- No decimal places are dropped where there is no point. -/
theorem dropZeroPlaces_eq_self {cs : List Char} (h : '.' ∉ cs) : dropZeroPlaces cs = cs := by
  have hnone : cs.dropWhile (· != '.') = [] := by
    rw [List.dropWhile_eq_nil_iff]
    intro c hc
    rw [bne_iff_ne]
    rintro rfl
    exact h hc
  unfold dropZeroPlaces
  rw [hnone]

/-- Dropping underscores leaves what digits stand for. -/
theorem digitsValue_dropUnderscores (hd : AsciiDigits digit?) (cs : List Char) :
    digitsValue digit? 0 (dropUnderscores cs) = digitsValue digit? 0 cs ∧
      dropUnderscores cs ⊆ cs := by
  unfold dropUnderscores
  split
  · exact ⟨rfl, List.Subset.refl _⟩
  · exact ⟨digitsValue_filter hd.underscore 0 cs, List.filter_sublist.subset⟩

/-- A number with a sign is written in full as its sign, if that is a minus sign, and what
is left of its body. -/
theorem cleanNumeral_of_signed {cs body : List Char} {negative : Bool}
    (hs : Signed (trimBoth isWhiteSpace cs) negative body) (hm : body.head? ≠ some '-') :
    cleanNumeral cs = (dropZeros body).map fun ds =>
      if negative then '-' :: dropUnderscores (dropZeroPlaces ds)
      else dropUnderscores (dropZeroPlaces ds) := by
  have hbare : splitMinus body = (false, body) := by
    unfold splitMinus
    split
    · exact absurd rfl hm
    · rfl
  unfold cleanNumeral
  generalize trimBoth isWhiteSpace cs = trimmed at hs
  cases hs with
  | minus => simp [splitMinus]
  | plus =>
    have hhead : (body.head? == some '-') = false := beq_eq_false_iff_ne.mpr hm
    simp [hhead, hbare]
  | bare _ hp =>
    have hhead : (body.head? == some '+') = false := beq_eq_false_iff_ne.mpr hp
    simp [hhead, hbare]

/-- A number that is written in digits alone has no white space at its ends. -/
theorem trimBoth_of_digits {cs : List Char} (h : ∀ c ∈ (splitMinus cs).2, c.isDigit = true) :
    trimBoth isWhiteSpace cs = cs := by
  have hdigit : ∀ c : Char, c.isDigit = true → isWhiteSpace c = false := by
    intro c hc
    obtain ⟨hge, hle⟩ := toNat_of_isDigit hc
    simp only [isWhiteSpace, Bool.or_eq_false_iff, Bool.and_eq_false_iff, decide_eq_false_iff_not,
      beq_eq_false_iff_ne]
    omega
  refine trimBoth_eq_self fun c hc => ?_
  unfold splitMinus at h
  split at h
  · rcases List.mem_cons.mp hc with rfl | hmem
    · rfl
    · exact hdigit c (h c hmem)
  · exact hdigit c (h c hc)

/-- An integer that is read from a text without white space at its ends is the one that is
taken from the text as a field, if both are possible. -/
theorem integerOfText_eq {cs : List Char} {i j : Int} (hd : AsciiDigits digit?)
    (hread : integer? digit? (trimBoth isWhiteSpace cs) = some i)
    (htaken : integerOfText cs = .ok j) : i = j := by
  obtain ⟨negative, body, n, hsigned, hn, rfl⟩ := integer?_eq_some hread
  obtain ⟨rfl, hbody⟩ := natural?_eq_some hd.underscore hn
  have hforeign : ∀ c ∈ ['-', '.'], c ∉ body := by
    intro c hc hmem
    have hno : c ≠ '_' ∧ digit? c = none := by
      rcases List.mem_pair.mp hc with rfl | rfl
      · exact ⟨by decide, (hd '-' (by decide)).trans rfl⟩
      · exact ⟨by decide, (hd '.' (by decide)).trans rfl⟩
    rcases hbody c hmem with hmark | hdigit
    · exact hno.1 hmark
    · rw [hno.2] at hdigit
      cases hdigit
  have hsplit : ∀ {ds : List Char}, ds ⊆ body → splitMinus ds = (false, ds) := by
    intro ds hds
    unfold splitMinus
    split
    · exact absurd (hds List.mem_cons_self) (hforeign '-' List.mem_cons_self)
    · rfl
  have hhead : body.head? ≠ some '-' := fun h =>
    hforeign '-' List.mem_cons_self (List.mem_of_head? h)
  unfold integerOfText at htaken
  split at htaken
  · split at htaken
    · next clean hclean =>
      cases htaken
      rw [cleanNumeral_of_signed hsigned hhead, Option.map_map] at hclean
      obtain ⟨ds, hds, hplain⟩ := Option.map_eq_some_iff.mp hclean
      obtain ⟨hvalue, hsub⟩ := dropZeros_eq_some hd hbody hds
      have hpoint : '.' ∉ ds := fun hmem =>
        hforeign '.' (List.mem_cons_of_mem _ List.mem_cons_self) (hsub hmem)
      obtain ⟨hvalue', hsub'⟩ := digitsValue_dropUnderscores hd ds
      obtain ⟨-, hj⟩ := plainInteger_eq_ok hd hplain
      dsimp only at hj
      rw [dropZeroPlaces_eq_self hpoint] at hj
      rw [← hvalue, ← hvalue']
      cases negative with
      | true => exact hj.symm
      | false =>
        simp only [Bool.false_eq_true, if_false] at hj
        rw [hsplit (List.Subset.trans hsub' hsub)] at hj
        exact hj.symm
    · cases htaken
  · next hanswer =>
    obtain ⟨hdigits, hj⟩ := plainInteger_eq_ok hd htaken
    rw [trimBoth_of_digits hdigits] at hsigned
    cases hsigned with
    | minus => exact hj.symm
    | plus => exact absurd (hdigits '+' List.mem_cons_self) (by decide)
    | bare =>
      rw [hsplit (List.Subset.refl _)] at hj
      exact hj.symm

/-- ASCII bytes encode the characters with their numbers. -/
theorem toList_of_textOfBytes? {bytes : List Nat} {s : String} (h : textOfBytes? bytes = some s)
    (hascii : ∀ b ∈ bytes, b < 0x80) : s.toList = bytes.map Char.ofNat := by
  have hencode : ∀ b ∈ bytes, String.utf8EncodeChar (Char.ofNat b) = [UInt8.ofNat b] := by
    intro b hb
    have hlt := hascii b hb
    have hvalue : (Char.ofNat b).val.toNat = b := toNat_charOfNat (.inl hlt)
    unfold String.utf8EncodeChar
    rw [hvalue]
    dsimp only
    rw [if_pos (by omega)]
  have hbytes : s.toByteArray = ⟨(bytes.map UInt8.ofNat).toArray⟩ := by
    unfold textOfBytes? String.fromUTF8? at h
    split at h
    · cases h
      rfl
    · cases h
  have hchars : (String.ofList (bytes.map Char.ofNat)).toByteArray =
      ⟨(bytes.map UInt8.ofNat).toArray⟩ := by
    rw [String.toByteArray_ofList]
    apply ByteArray.ext
    unfold List.utf8Encode
    rw [List.data_toByteArray, List.flatMap_map, List.flatMap_congr hencode, List.map_eq_flatMap]
  rw [String.toByteArray_inj.mp (hbytes.trans hchars.symm), String.toList_ofList]

end Validation

namespace Settings

open Text Validation

/-- A limit that is read from characters is the integer that they write. -/
theorem limitOfChars_eq_ok {digit? : Char → Option Nat} {quoted : String} {cs : List Char}
    {i : Int} (h : limitOfChars digit? quoted cs = .ok i) : integer? digit? cs = some i := by
  unfold limitOfChars at h
  dsimp only at h
  split at h
  · cases h
  · split at h
    · next hread =>
      cases h
      exact hread
    · cases h

/-- A limit is read from bytes of ASCII only. -/
theorem ascii_of_limitOfBytes {bytes : List Nat} {i : Int} (h : limitOfBytes bytes = .ok i) :
    ∀ b ∈ bytes, b < 0x80 := by
  intro b hb
  -- A number that is no character would stand for the null character, which is not read.
  have hsmall : (Char.ofNat b).toNat ≠ 0 ∧ (Char.ofNat b).toNat < 0x80 := by
    by_cases hblank : (decide ((Char.ofNat b).toNat < 0x80) && isWhiteSpace (Char.ofNat b)) = true
    · rw [Bool.and_eq_true, decide_eq_true_eq] at hblank
      refine ⟨fun hzero => ?_, hblank.1⟩
      have hwhite := hblank.2
      unfold isWhiteSpace at hwhite
      rw [hzero] at hwhite
      cases hwhite
    · exact toNat_of_integer? (limitOfChars_eq_ok h)
        (mem_trimBoth (List.mem_map_of_mem hb) (eq_false_of_ne_true hblank))
  rw [← toNat_charOfNat (.inr hsmall.1)]
  exact hsmall.2

/-- A limit that is read from a text is the one that is taken from it as a field. -/
theorem limitOfQuoted_eq {quoted s : String} {i j : Int} (hread : limitOfQuoted quoted s = .ok i)
    (htaken : integerOfText s.toList = .ok j) : i = j :=
  integerOfText_eq asciiDigits_decimalDigit? (limitOfChars_eq_ok hread) htaken

/-- A limit that is read from bytes is the one that is taken from their text as a field. -/
theorem limitOfBytes_eq {bytes : List Nat} {s : String} {i j : Int}
    (hread : limitOfBytes bytes = .ok i) (hs : textOfBytes? bytes = some s)
    (htaken : integerOfText s.toList = .ok j) : i = j := by
  have hascii := ascii_of_limitOfBytes hread
  rw [toList_of_textOfBytes? hs hascii] at htaken
  refine integerOfText_eq asciiDigits_asciiDigit? ?_ htaken
  rw [← limitOfChars_eq_ok hread]
  congr 1
  refine trimBoth_congr fun c hc => ?_
  obtain ⟨b, hb, rfl⟩ := List.mem_map.mp hc
  have hlt : (Char.ofNat b).toNat < 0x80 :=
    (toNat_charOfNat (.inl (hascii b hb))).trans_lt (hascii b hb)
  rw [decide_eq_true hlt, Bool.true_and]

/-- The whole part of a double without a fraction is the double. -/
theorem limitOfDouble_eq {d : Double} {i j : Int} (hread : limitOfDouble d = .ok i)
    (htaken : integerOfDouble d = .ok j) : i = j := by
  unfold limitOfDouble at hread
  unfold integerOfDouble at htaken
  split at hread
  · next q hq =>
    rw [hq] at htaken
    dsimp only at htaken
    split at htaken
    · cases htaken
    · next hden =>
      split at htaken
      · cases hread
        cases htaken
        rw [Quantity.truncate, not_not.mp hden]
        exact Int.tdiv_one _
      · cases htaken
  · cases hread
  · cases hread

/-- The whole part of a decimal number without a fraction is the number. -/
theorem wholePart_of_whole? {negative : Bool} {digits : Nat} {exponent i : Int}
    (h : Decimal.whole? negative digits exponent = some i) :
    Decimal.wholePart negative digits exponent = i := by
  cases exponent with
  | ofNat p => exact Option.some.inj h
  | negSucc p =>
    simp only [Decimal.whole?] at h
    simp only [Decimal.wholePart]
    split at h
    · next hzero =>
      rw [← Option.some.inj h, hzero, Int.natCast_zero, Int.zero_ediv, ite_self]
      cases negative <;> rfl
    · split at h
      · next hplaces =>
        -- The places that are cut off are zeros, so there are more digits than places.
        have hzeros := (List.takeWhile_sublist (· == '0')
          (l := (Nat.toDigits 10 digits).reverse)).length_le
        rw [List.length_reverse] at hzeros
        rw [← Option.some.inj h, if_neg (hplaces.trans_le hzeros).not_ge, Int.natCast_ediv]
      · cases h

/-- The whole part of a decimal without a fraction is the decimal. -/
theorem limitOfDecimal_eq {d : Decimal} {i j : Int} (hread : limitOfDecimal d = .ok i)
    (htaken : integerOfDecimal d = .ok j) : i = j := by
  unfold limitOfDecimal at hread
  unfold integerOfDecimal at htaken
  split at hread
  · next hd =>
    rw [hd] at htaken
    dsimp only at htaken
    split at htaken
    · next hwhole =>
      cases hread
      cases htaken
      exact wholePart_of_whole? hwhole
    · cases htaken
  · cases hread
  · cases hread

/-- A limit that is no ratio is read as the integer that is taken as a field, if both are
possible. -/
theorem limitOfHost_eq {h : Host} {i j : Int} (hratio : ∀ q, h ≠ .fraction q)
    (hread : limitOfHost h = .ok i) (htaken : integer h = .ok j) : i = j := by
  cases h with
  | bool b =>
    cases hread
    cases htaken
    rfl
  | int n =>
    cases hread
    cases htaken
    rfl
  | numbered name n =>
    cases hread
    cases htaken
    rfl
  | double d => exact limitOfDouble_eq hread htaken
  | decimal d => exact limitOfDecimal_eq hread htaken
  | fraction q => exact absurd rfl (hratio q)
  | string s => exact limitOfQuoted_eq hread htaken
  | label name s => exact limitOfQuoted_eq hread htaken
  | binary kind bytes =>
    cases kind with
    | fixed =>
      unfold integer at htaken
      dsimp only at htaken
      split at htaken
      · next s hs => exact limitOfBytes_eq hread hs htaken
      · cases htaken
    | growable => cases htaken
    | view => cases htaken
  | constant name n => cases hread
  | _ => cases htaken

-- A ratio just below two is cut to one by a request, but rounded to two as a field.
example : limitOfHost (.fraction (35999999999999999999 / 18000000000000000000)) = .ok 1 ∧
    integer (.fraction (35999999999999999999 / 18000000000000000000)) = .ok 2 := by
  decide +kernel

end Settings

end LiveSession
