import LiveSession.Proofs.Settings.Clamped
import LiveSession.Proofs.Settings.Reading

/-!
# Requests and trusted fields

A request and trusted fields are for a limit and for startup statements, and both are
checked in the same way. But a request is converted first: its limit is read as an integer
and lowered to the ceiling, and its statements are what their entry yields when it is gone
through. Where the limit can be read, and taken as it is, and the statements are a list, the
conversion makes no difference but for the ceiling. Elsewhere it does: a limit that cannot be
read, or statements that cannot be gone through, raise an error of their own before any field
is checked, a limit with a fraction is cut, and a text is taken apart into its characters.
-/

namespace LiveSession

namespace Assoc

variable {α β : Type} {same : α → α → Bool}

/-- Entries at the end count where there are none in front. -/
theorem find?_append (key : α) (front back : List (α × β)) :
    find? same key (front ++ back) = (find? same key front).or (find? same key back) := by
  induction front with
  | nil => rfl
  | cons e rest ih =>
    rw [List.cons_append, find?, find?]
    split
    · rfl
    · exact ih

end Assoc

namespace Validation

/-- The elements of a list are what it yields when it is gone through. -/
theorem elements?_of_listElements? {h : Host} {hs : List Host} (hlist : listElements? h = some hs) :
    h.elements? = some hs := by
  unfold listElements? at hlist
  split at hlist <;> first | cases hlist | exact hlist

/-- A text is no list. -/
theorem listElements?_of_text? {h : Host} {s : String} (htext : h.text? = some s) :
    listElements? h = none ∧
      h.elements? = some ((s.toList.map String.singleton).map .string) := by
  cases h with
  | string t =>
    cases htext
    exact ⟨rfl, (congrArg some List.map_map).symm⟩
  | label name t =>
    cases htext
    exact ⟨rfl, (congrArg some List.map_map).symm⟩
  | _ => cases htext

/-- A field takes a number that is at least one. -/
theorem countField_eq_ok_iff {field : String} {h : Host} {n : Nat} :
    countField field h = .ok n ↔ ∃ i, integer h = .ok i ∧ 1 ≤ i ∧ (n : Int) = i := by
  unfold countField
  cases integer h with
  | error p => simp
  | ok i =>
    dsimp only
    split
    · next hi =>
      rw [Except.ok.injEq]
      constructor
      · intro hn
        exact ⟨i, rfl, hi, by omega⟩
      · rintro ⟨j, hj, -, hn⟩
        cases hj
        omega
    · next hi =>
      refine ⟨nofun, ?_⟩
      rintro ⟨j, hj, hpos, -⟩
      cases hj
      exact absurd hpos hi

/-- A field takes the texts of a list. -/
theorem textsField_eq_ok_iff {field : String} {h : Host} {ss : List String} :
    textsField field h = .ok ss ↔
      ∃ hs, listElements? h = some hs ∧ textsFrom field 0 hs = .ok ss := by
  unfold textsField
  cases listElements? h with
  | none => simp
  | some hs => simp

/-- Two fields are taken if each of them is. -/
theorem both_eq_ok_iff {α β : Type} {a : Except (List FieldProblem) α}
    {b : Except (List FieldProblem) β} {x : α × β} :
    both a b = .ok x ↔ a = .ok x.1 ∧ b = .ok x.2 := by
  obtain ⟨y, z⟩ := x
  cases a <;> cases b <;> simp [both]

end Validation

namespace Settings

open Validation

/-- Settings with their limit lowered to the ceiling. -/
def lowered (settings : Settings) : Settings :=
  { settings with sampleLimit := min settings.sampleLimit maxSampleLimit.toNat }

/-- The limit among fields, that of other settings where there is none. -/
def limitField (defaults : Settings) (fields : List (String × Host)) : Host :=
  (Assoc.find? (· == ·) "sample_limit" fields).getD (.int defaults.sampleLimit)

/-- The statements among fields, an empty list where there are none. -/
def statementsField (fields : List (String × Host)) : Host :=
  (Assoc.find? (· == ·) "startup_statements" fields).getD (.list [])

/-- Settings from trusted fields, with the limit of other settings where they have none. -/
def ofFieldsOver (defaults : Settings) (fields : List (String × Host)) :
    Except SettingsError Settings :=
  ofFields (fields ++ [("sample_limit", .int defaults.sampleLimit)])

/-- Settings from a limit and statements that are converted before they are checked. -/
def converted (limit statements : Host) : Except SettingsError Settings :=
  match limitOfHost limit, statements.elements? with
  | .error e, _ => .error e
  | .ok _, none => .error (.notIterable statements.qualifiedTypeName)
  | .ok i, some hs => validate (some (.int (min i maxSampleLimit))) (some (.list hs))

/-- A request is treated like trusted fields: where they give settings it gives the same ones
with a lowered limit, and where they are refused it is refused for wrong fields. -/
structure Follows (requested trusted : Except SettingsError Settings) : Prop where
  given : ∀ settings, trusted = .ok settings → requested = .ok settings.lowered
  refused : ∀ e, trusted = .error e → ∃ problems, requested = .error (.invalid problems)

/-- How a request compares with trusted fields for the same limit and statements. -/
structure Comparison (requested trusted : Except SettingsError Settings)
    (limit statements : Host) : Prop where
  /-- A request gives settings if its limit is read as at least one and what its statements
  yield are texts. -/
  requested_iff : ∀ settings, requested = .ok settings ↔
    ∃ i hs, limitOfHost limit = .ok i ∧ settings.Lowered i ∧ statements.elements? = some hs ∧
      textsFrom "startup_statements" 0 hs = .ok settings.startupStatements
  /-- Fields give settings if their limit is at least one and their statements are a list of
  texts. -/
  trusted_iff : ∀ settings, trusted = .ok settings ↔
    ∃ i hs, integer limit = .ok i ∧ 1 ≤ i ∧ (settings.sampleLimit : Int) = i ∧
      listElements? statements = some hs ∧
      textsFrom "startup_statements" 0 hs = .ok settings.startupStatements
  /-- If both can read the limit, which is no ratio, and the statements are a list, then
  the request gives the settings of the fields with a lowered limit, or the same problems. -/
  agrees : (∀ q, limit ≠ .fraction q) → ∀ i j hs, limitOfHost limit = .ok i →
    integer limit = .ok j → listElements? statements = some hs →
    requested = trusted.map lowered
  /-- Settings that both give have the same statements, and the limit of the request is the
  one of the fields, lowered, unless it is a ratio. -/
  returned : ∀ s t, requested = .ok s → trusted = .ok t →
    s.startupStatements = t.startupStatements ∧ ((∀ q, limit ≠ .fraction q) → s = t.lowered)
  /-- A request raises something else than a report of wrong fields if its limit cannot be
  read or its statements cannot be gone through. -/
  unchecked_iff : (∃ e, requested = .error e ∧ ∀ problems, e ≠ .invalid problems) ↔
    (∃ e, limitOfHost limit = .error e) ∨ statements.elements? = none
  /-- What is no list is refused by name among trusted fields. -/
  refused_of_not_list : listElements? statements = none →
    ∃ problems, trusted = .error (.invalid problems) ∧
      ⟨["startup_statements"], .notList⟩ ∈ problems
  /-- A text in the place of the statements is no list, and a request takes it apart into its
  characters. -/
  text_taken_apart : ∀ text i, statements.text? = some text → limitOfHost limit = .ok i →
    1 ≤ i → listElements? statements = none ∧
      requested = .ok ⟨(min i maxSampleLimit).toNat, text.toList.map String.singleton⟩
  /-- A request whose limit is no ratio is treated like trusted fields if it is converted
  without an error and fields take all that it takes. -/
  follows_iff : (∀ q, limit ≠ .fraction q) → (Follows requested trusted ↔
    (∃ i, limitOfHost limit = .ok i) ∧ (∃ hs, statements.elements? = some hs) ∧
      ∀ settings, requested = .ok settings →
        (∃ j, integer limit = .ok j) ∧ ∃ hs, listElements? statements = some hs)

/-! ### What checking gives -/

/-- Fields that are wrong are reported. -/
theorem validate_eq_error {limit statements : Option Host} {e : SettingsError}
    (h : validate limit statements = .error e) : ∃ problems, e = .invalid problems := by
  unfold validate at h
  dsimp only at h
  split at h
  · cases h
  · next problems _ =>
    cases h
    exact ⟨problems, rfl⟩

/-- Fields are taken if the limit is at least one and the statements are a list of texts. -/
theorem validate_eq_ok_iff {limit statements : Host} {settings : Settings} :
    validate (some limit) (some statements) = .ok settings ↔
      ∃ i hs, integer limit = .ok i ∧ 1 ≤ i ∧ (settings.sampleLimit : Int) = i ∧
        listElements? statements = some hs ∧
        textsFrom "startup_statements" 0 hs = .ok settings.startupStatements := by
  obtain ⟨count, startup⟩ := settings
  have hfields : validate (some limit) (some statements) = .ok ⟨count, startup⟩ ↔
      both (countField "sample_limit" limit) (textsField "startup_statements" statements) =
        .ok (count, startup) := by
    unfold validate
    dsimp only
    cases both (countField "sample_limit" limit) (textsField "startup_statements" statements) with
    | error problems => simp
    | ok fields =>
      obtain ⟨limit, texts⟩ := fields
      simp [Settings.mk.injEq]
  rw [hfields, both_eq_ok_iff, countField_eq_ok_iff, textsField_eq_ok_iff]
  constructor
  · rintro ⟨⟨i, hi, hpos, hlimit⟩, hs, hlist, htexts⟩
    exact ⟨i, hs, hi, hpos, hlimit, hlist, htexts⟩
  · rintro ⟨i, hs, hi, hpos, hlimit, hlist, htexts⟩
    exact ⟨⟨i, hi, hpos, hlimit⟩, hs, hlist, htexts⟩

/-- What is no list is refused by name. -/
theorem validate_of_not_list {limit statements : Host} (h : listElements? statements = none) :
    ∃ problems, validate (some limit) (some statements) = .error (.invalid problems) ∧
      ⟨["startup_statements"], .notList⟩ ∈ problems := by
  have htexts : textsField "startup_statements" statements =
      .error [⟨["startup_statements"], .notList⟩] := by
    unfold textsField
    rw [h]
  unfold validate
  dsimp only
  rw [htexts]
  cases countField "sample_limit" limit with
  | ok n => exact ⟨_, rfl, List.mem_singleton_self _⟩
  | error problems => exact ⟨_, rfl, List.mem_append_right _ (List.mem_singleton_self _)⟩

/-- A lowered limit and the elements of a list are checked as the limit and the list are. -/
theorem validate_lowered {limit statements : Host} {i : Int} {hs : List Host}
    (hi : integer limit = .ok i) (hlist : listElements? statements = some hs) :
    validate (some (.int (min i maxSampleLimit))) (some (.list hs)) =
      (validate (some limit) (some statements)).map lowered := by
  have hcount : countField "sample_limit" (.int (min i maxSampleLimit)) =
      (countField "sample_limit" limit).map (min · maxSampleLimit.toNat) := by
    have hmin : integer (.int (min i maxSampleLimit)) = .ok (min i maxSampleLimit) := rfl
    unfold countField
    rw [hi, hmin]
    dsimp only
    have hceiling : 1 ≤ maxSampleLimit := by decide
    by_cases hpos : 1 ≤ i
    · have hlimit : (min i maxSampleLimit).toNat = min i.toNat maxSampleLimit.toNat := by omega
      rw [if_pos hpos, if_pos (by omega), hlimit]
      rfl
    · rw [if_neg hpos, if_neg (by omega)]
      rfl
  have htexts : textsField "startup_statements" (.list hs) =
      textsField "startup_statements" statements := by
    unfold textsField
    rw [hlist]
    rfl
  unfold validate
  dsimp only
  rw [hcount, htexts]
  cases countField "sample_limit" limit <;>
    cases textsField "startup_statements" statements <;> rfl

/-! ### What conversion gives -/

/-- A limit that cannot be read is no report of wrong fields. -/
theorem limitOfHost_ne_invalid (h : Host) (problems : List FieldProblem) :
    limitOfHost h ≠ .error (.invalid problems) := by
  have hchars : ∀ digit? quoted cs,
      limitOfChars digit? quoted cs ≠ .error (.invalid problems) := by
    intro digit? quoted cs hread
    unfold limitOfChars at hread
    dsimp only at hread
    split at hread
    · cases hread
    · split at hread <;> cases hread
  intro hread
  unfold limitOfHost at hread
  split at hread
  · next d =>
    unfold limitOfDouble at hread
    split at hread <;> cases hread
  · next d =>
    unfold limitOfDecimal at hread
    split at hread <;> cases hread
  · cases hread
  · split at hread
    · cases hread
    · exact hchars _ _ _ hread
    · exact hchars _ _ _ hread
    · cases hread

/-- Conversion gives settings if the limit is read as at least one and what the statements
yield are texts. -/
theorem converted_eq_ok_iff {limit statements : Host} {settings : Settings} :
    converted limit statements = .ok settings ↔
      ∃ i hs, limitOfHost limit = .ok i ∧ settings.Lowered i ∧ statements.elements? = some hs ∧
        textsFrom "startup_statements" 0 hs = .ok settings.startupStatements := by
  unfold converted
  cases hread : limitOfHost limit with
  | error e => simp
  | ok i =>
    cases hitems : statements.elements? with
    | none => simp
    | some hs =>
      dsimp only
      rw [validate_lowered_iff]
      constructor
      · rintro ⟨hlowered, htexts⟩
        exact ⟨i, hs, rfl, hlowered, rfl, htexts⟩
      · rintro ⟨j, items, hj, hlowered, hi, htexts⟩
        cases hj
        cases hi
        exact ⟨hlowered, htexts⟩

/-- Conversion fails before the fields are checked if the limit cannot be read or the
statements cannot be gone through. -/
theorem converted_unchecked_iff {limit statements : Host} :
    (∃ e, converted limit statements = .error e ∧ ∀ problems, e ≠ .invalid problems) ↔
      (∃ e, limitOfHost limit = .error e) ∨ statements.elements? = none := by
  unfold converted
  cases hread : limitOfHost limit with
  | error e =>
    refine ⟨fun _ => .inl ⟨e, rfl⟩, fun _ => ⟨e, rfl, ?_⟩⟩
    rintro problems rfl
    exact limitOfHost_ne_invalid limit problems hread
  | ok i =>
    cases hitems : statements.elements? with
    | none => exact ⟨fun _ => .inr rfl, fun _ => ⟨_, rfl, nofun⟩⟩
    | some hs =>
      constructor
      · rintro ⟨e, he, hchecked⟩
        obtain ⟨problems, rfl⟩ := validate_eq_error he
        exact absurd rfl (hchecked problems)
      · rintro (⟨e, he⟩ | hnone)
        · cases he
        · cases hnone

/-- Conversion makes no difference to what is checked, but for the ceiling, where the limit
is read as the integer that fields take and the statements are a list. -/
theorem converted_eq_map {limit statements : Host} {i : Int} {hs : List Host}
    (hread : limitOfHost limit = .ok i) (hi : integer limit = .ok i)
    (hlist : listElements? statements = some hs) :
    converted limit statements = (validate (some limit) (some statements)).map lowered := by
  unfold converted
  rw [hread, elements?_of_listElements? hlist]
  exact validate_lowered hi hlist

/-- A lowered limit is lowered from the one that it was. -/
theorem lowered_lowered {settings : Settings} {i : Int} (hpos : 1 ≤ i)
    (hlimit : (settings.sampleLimit : Int) = i) : settings.lowered.Lowered i := by
  refine ⟨hpos, ?_⟩
  unfold lowered maxSampleLimit
  dsimp only
  omega

section Compared

variable {limit statements : Host}

/-- A limit that is no ratio, if it can be read and taken, and a list of statements make no
difference between conversion and checking but for the ceiling. -/
theorem converted_agrees (hratio : ∀ q, limit ≠ .fraction q) {i j : Int} {hs : List Host}
    (hread : limitOfHost limit = .ok i) (htaken : integer limit = .ok j)
    (hlist : listElements? statements = some hs) :
    converted limit statements = (validate (some limit) (some statements)).map lowered := by
  rw [← limitOfHost_eq hratio hread htaken] at htaken
  exact converted_eq_map hread htaken hlist

/-- Settings that conversion and checking both give differ by the ceiling only, unless the
limit is a ratio. -/
theorem converted_returned {s t : Settings} (hs : converted limit statements = .ok s)
    (ht : validate (some limit) (some statements) = .ok t) :
    s.startupStatements = t.startupStatements ∧ ((∀ q, limit ≠ .fraction q) → s = t.lowered) := by
  obtain ⟨i, items, hread, hlowered, hitems, htexts⟩ := converted_eq_ok_iff.mp hs
  obtain ⟨j, items', htaken, hpos, hlimit, hlist, htexts'⟩ := validate_eq_ok_iff.mp ht
  have hsame : items = items' :=
    Option.some.inj (hitems.symm.trans (elements?_of_listElements? hlist))
  rw [hsame, htexts'] at htexts
  have hstatements : s.startupStatements = t.startupStatements := (Except.ok.inj htexts).symm
  refine ⟨hstatements, fun hratio => ?_⟩
  rw [limitOfHost_eq hratio hread htaken] at hlowered
  exact hlowered.eq (lowered_lowered hpos hlimit) hstatements

/-- A text in the place of the statements is taken apart by conversion. -/
theorem converted_text {text : String} {i : Int} (htext : statements.text? = some text)
    (hread : limitOfHost limit = .ok i) (hpos : 1 ≤ i) :
    converted limit statements =
      .ok ⟨(min i maxSampleLimit).toNat, text.toList.map String.singleton⟩ := by
  obtain ⟨-, helements⟩ := listElements?_of_text? htext
  refine converted_eq_ok_iff.mpr ⟨i, _, hread, ⟨hpos, ?_⟩, helements, textsFrom_strings _ _ _⟩
  unfold maxSampleLimit
  dsimp only
  omega

/-- Conversion follows checking if it does not fail by itself and checking takes all that it
takes. -/
theorem follows_converted_iff (hratio : ∀ q, limit ≠ .fraction q) :
    Follows (converted limit statements) (validate (some limit) (some statements)) ↔
      (∃ i, limitOfHost limit = .ok i) ∧ (∃ hs, statements.elements? = some hs) ∧
        ∀ settings, converted limit statements = .ok settings →
          (∃ j, integer limit = .ok j) ∧ ∃ hs, listElements? statements = some hs := by
  constructor
  · intro hfollows
    cases hchecked : validate (some limit) (some statements) with
    | ok t =>
      obtain ⟨i, hs, hread, -, hitems, -⟩ := converted_eq_ok_iff.mp (hfollows.given t hchecked)
      obtain ⟨j, items, htaken, -, -, hlist, -⟩ := validate_eq_ok_iff.mp hchecked
      exact ⟨⟨i, hread⟩, ⟨hs, hitems⟩, fun _ _ => ⟨⟨j, htaken⟩, items, hlist⟩⟩
    | error e =>
      obtain ⟨problems, hconverted⟩ := hfollows.refused e hchecked
      have hchecks := mt converted_unchecked_iff.mpr fun ⟨e', he', hother⟩ =>
        hother problems (Except.error.inj (he'.symm.trans hconverted))
      rw [not_or, not_exists] at hchecks
      refine ⟨?_, Option.ne_none_iff_exists'.mp hchecks.2, fun settings hsettings => ?_⟩
      · cases hread : limitOfHost limit with
        | ok i => exact ⟨i, rfl⟩
        | error e' => exact absurd hread (hchecks.1 e')
      · rw [hconverted] at hsettings
        cases hsettings
  · rintro ⟨⟨i, hread⟩, ⟨hs, hitems⟩, hall⟩
    constructor
    · intro settings hsettings
      obtain ⟨j, items, htaken, -, -, hlist, -⟩ := validate_eq_ok_iff.mp hsettings
      rw [converted_agrees hratio hread htaken hlist, hsettings]
      rfl
    · intro e he
      cases hconverted : converted limit statements with
      | ok settings =>
        obtain ⟨⟨j, htaken⟩, items, hlist⟩ := hall settings hconverted
        rw [converted_agrees hratio hread htaken hlist, he] at hconverted
        cases hconverted
      | error e' =>
        by_contra hother
        rcases converted_unchecked_iff.mp ⟨e', hconverted, fun problems hinvalid =>
          hother ⟨problems, congrArg _ hinvalid⟩⟩ with ⟨e'', hunread⟩ | hnone
        · rw [hread] at hunread
          cases hunread
        · rw [hitems] at hnone
          cases hnone

/-- How conversion compares with checking. -/
theorem comparison (limit statements : Host) :
    Comparison (converted limit statements) (validate (some limit) (some statements))
      limit statements where
  requested_iff _ := converted_eq_ok_iff
  trusted_iff _ := validate_eq_ok_iff
  agrees hratio _ _ _ hread htaken hlist := converted_agrees hratio hread htaken hlist
  returned _ _ hs ht := converted_returned hs ht
  unchecked_iff := converted_unchecked_iff
  refused_of_not_list := validate_of_not_list
  text_taken_apart _ _ htext hread hpos :=
    ⟨(listElements?_of_text? htext).1, converted_text htext hread hpos⟩
  follows_iff := follows_converted_iff

end Compared

/-! ### What requests and trusted fields give -/

/-- Trusted fields are checked, with the limit of other settings and no statements where they
have none. -/
theorem ofFieldsOver_eq (defaults : Settings) (fields : List (String × Host)) :
    ofFieldsOver defaults fields =
      validate (some (limitField defaults fields)) (some (statementsField fields)) := by
  unfold ofFieldsOver ofFields limitField statementsField
  rw [Assoc.find?_append, Assoc.find?_append]
  cases Assoc.find? (· == ·) "sample_limit" fields <;>
    cases Assoc.find? (· == ·) "startup_statements" fields <;> rfl

/-- Trusted fields with a limit of their own are taken as they are. -/
theorem ofFieldsOver_of_find? {defaults : Settings} {fields : List (String × Host)} {h : Host}
    (has : Assoc.find? (· == ·) "sample_limit" fields = some h) :
    ofFieldsOver defaults fields = ofFields fields := by
  unfold ofFieldsOver ofFields
  rw [Assoc.find?_append, Assoc.find?_append, has]
  cases Assoc.find? (· == ·) "startup_statements" fields <;> rfl

/-- A request with text for keys is converted, with the limit of the environment and no
statements where it has none. -/
theorem cap_eq_converted {environment : Option String} {defaults : Settings} {requested : Host}
    {fields : List (String × Host)} (henv : fromEnvironment environment = .ok defaults)
    (hentries : entriesOf requested = .ok (fields.map fun f => (.string f.1, f.2))) :
    cap environment requested =
      converted (limitField defaults fields) (statementsField fields) := by
  obtain ⟨d, -, hlowered, hnone⟩ := fromEnvironment_eq_ok henv
  have hfind : ∀ name, Assoc.find? (· == ·) name fields = given? name requested := fun name =>
    (Host.member?_object name fields).symm.trans (member?_entriesOf hentries name)
  cases htruthy : requested.isTruthy with
  | false =>
    have hempty : ∀ name, Assoc.find? (· == ·) name fields = none := fun name =>
      (hfind name).trans (given?_of_not_truthy htruthy name)
    -- The limit of the environment is not above the ceiling, so it is lowered to itself.
    have hsame : converted (.int defaults.sampleLimit) (.list []) = .ok defaults :=
      converted_eq_ok_iff.mpr ⟨defaults.sampleLimit, [], rfl, hlowered.inRange.lowered, rfl,
        congrArg _ hnone.symm⟩
    unfold cap limitField statementsField
    rw [henv, hempty, hempty]
    dsimp only
    rw [htruthy, Option.getD_none, Option.getD_none, hsame]
    rfl
  | true =>
    unfold cap limitField statementsField converted
    rw [henv, hentries]
    dsimp only
    rw [htruthy, Host.member?_object, Host.member?_object, hnone, List.map_nil]
    generalize (Assoc.find? (· == ·) "sample_limit" fields).getD _ = limit
    generalize (Assoc.find? (· == ·) "startup_statements" fields).getD _ = statements
    cases limitOfHost limit with
    | error e => rfl
    | ok i => cases statements.elements? <;> rfl

/-- A request compares with trusted fields by the limit and the statements that both are for.
The limit of the environment counts where they have none, so that fields with a limit are
taken as they are. -/
theorem cap_compares {environment : Option String} {defaults : Settings} {requested : Host}
    {fields : List (String × Host)} (henv : fromEnvironment environment = .ok defaults)
    (hentries : entriesOf requested = .ok (fields.map fun f => (.string f.1, f.2))) :
    Comparison (cap environment requested) (ofFieldsOver defaults fields)
      (limitField defaults fields) (statementsField fields) ∧
    ∀ h, Assoc.find? (· == ·) "sample_limit" fields = some h →
      ofFieldsOver defaults fields = ofFields fields := by
  rw [cap_eq_converted henv hentries, ofFieldsOver_eq]
  exact ⟨comparison _ _, fun _ has => (ofFieldsOver_eq _ _).symm.trans (ofFieldsOver_of_find? has)⟩

/-- Fields with a limit in text and one statement in a tuple. -/
def paired (limit : String) : List (String × Host) :=
  [("sample_limit", .string limit), ("startup_statements", .sequence .tuple [.string "x = 1"])]

/-- Twenty elements are requested and one statement, as trusted fields would have it; five
thousand are lowered to the ceiling. A text for the statements becomes a statement for each of
its characters, and no limit can be read from nothing. -/
theorem cap_compares_paired :
    cap (some "5000") (.object (paired "20")) = ofFields (paired "20") ∧
    cap (some "5000") (.object (paired "5000")) = .ok ⟨1000, ["x = 1"]⟩ ∧
    Follows (cap none (.object (paired "20"))) (ofFields (paired "20")) ∧
    cap (some "5000") (.object [("startup_statements", .string "abc")]) =
      .ok ⟨1000, ["a", "b", "c"]⟩ ∧
    ∃ e, cap none (.object [("sample_limit", .null)]) = .error e ∧
      ∀ problems, e ≠ .invalid problems := by
  have hdefaults : fromEnvironment (some "5000") = .ok ⟨1000, []⟩ := rfl
  have hratio : ∀ limit : String, ∀ q, Host.string limit ≠ .fraction q := fun _ _ => nofun
  have hunset : fromEnvironment none = .ok ⟨10, []⟩ := rfl
  have hentries : ∀ fields : List (String × Host),
      entriesOf (.object fields) = .ok (fields.map fun f => (.string f.1, f.2)) := fun _ => rfl
  obtain ⟨htwenty, howned⟩ := cap_compares hdefaults (hentries (paired "20"))
  obtain ⟨hhigher, howned'⟩ := cap_compares hdefaults (hentries (paired "5000"))
  obtain ⟨hnone, hown⟩ := cap_compares hunset (hentries (paired "20"))
  obtain ⟨htext, -⟩ := cap_compares hdefaults (hentries [("startup_statements", .string "abc")])
  obtain ⟨hnull, -⟩ := cap_compares hunset (hentries [("sample_limit", .null)])
  refine ⟨?_, ?_, ?_, (htext.text_taken_apart "abc" 1000 rfl rfl (by decide)).2, ?_⟩
  · rw [htwenty.agrees (hratio _) 20 20 [.string "x = 1"] rfl rfl rfl, howned _ rfl]
    rfl
  · rw [hhigher.agrees (hratio _) 5000 5000 [.string "x = 1"] rfl rfl rfl, howned' _ rfl]
    rfl
  · rw [← hown _ rfl]
    exact (hnone.follows_iff (hratio _)).mpr
      ⟨⟨20, rfl⟩, ⟨_, rfl⟩, fun _ _ => ⟨⟨20, rfl⟩, _, rfl⟩⟩
  · exact hnull.unchecked_iff.mpr (.inl ⟨_, rfl⟩)

/-- A text in the place of the statements is refused among trusted fields, but a request
takes its characters for statements. -/
theorem not_cap_follows : ¬ ∀ (environment : Option String) (defaults : Settings)
    (requested : Host) (fields : List (String × Host)),
    fromEnvironment environment = .ok defaults →
    entriesOf requested = .ok (fields.map fun f => (.string f.1, f.2)) →
    Follows (cap environment requested) (ofFieldsOver defaults fields) := by
  intro hfollows
  let fields : List (String × Host) := [("startup_statements", .string "abc")]
  have hcap : cap none (.object fields) = .ok ⟨10, ["a", "b", "c"]⟩ :=
    (cap_eq_converted rfl rfl).trans rfl
  have htrusted : ofFieldsOver ⟨10, []⟩ fields =
      .error (.invalid [⟨["startup_statements"], .notList⟩]) := rfl
  obtain ⟨problems, hrefused⟩ := (hfollows none ⟨10, []⟩ (.object fields) fields rfl rfl).refused
    _ htrusted
  rw [hcap] at hrefused
  cases hrefused

end Settings

end LiveSession
