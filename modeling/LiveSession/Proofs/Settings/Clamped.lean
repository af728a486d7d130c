import LiveSession.Settings

/-!
# Clamped settings

Settings that come from the environment or from an untrusted request have a limit between
one and the ceiling. The limit comes from one of three sources: the request, if it has an
entry for it, else the environment, if it is set to something, else the default. The
environment decides nothing else, so requested settings are the same in every environment
in which there are settings at all, and settings that are requested again are the same
again.
-/

namespace LiveSession

namespace Host

/-- Texts are the same host value if they are equal. -/
theorem same_string (a b : String) : same (.string a) (.string b) = (a == b) := by
  have hnumber : numberSame? (.string a) (.string b) = none := rfl
  simp [same, hnumber, text?]

/-- The members of an ordinary mapping from text are those of its texts. -/
theorem member?_object (name : String) (fields : List (String × Host)) :
    member? name (fields.map fun f => (.string f.1, f.2)) =
      Assoc.find? (· == ·) name fields := by
  induction fields with
  | nil => rfl
  | cons f rest ih =>
    rw [member?] at ih ⊢
    rw [List.map_cons, Assoc.find?, Assoc.find?, same_string, ih]

end Host

namespace Validation

/-- Texts are taken as they are. -/
theorem textsFrom_strings (field : String) (ss : List String) (position : Nat) :
    textsFrom field position (ss.map .string) = .ok ss := by
  induction ss generalizing position with
  | nil => rfl
  | cons s rest ih =>
    have htext : text (.string s) = .ok s := rfl
    rw [List.map_cons, textsFrom, htext, ih]

end Validation

namespace Settings

/-- Whether a limit is at least one and at most the ceiling. -/
structure InRange (settings : Settings) : Prop where
  positive : 1 ≤ settings.sampleLimit
  capped : (settings.sampleLimit : Int) ≤ maxSampleLimit

/-- The entry of a request under a name, if it is a mapping that has one. -/
def given? (name : String) : Host → Option Host
  | .mapping _ entries => Host.member? name entries
  | _ => none

/-- Where the limit of a request comes from in an environment, and which integer it is
before it is lowered to the ceiling. -/
inductive LimitFrom (environment : Option String) (requested : Host) : Int → Prop
  /-- The request has an entry for it. -/
  | request {h : Host} {i : Int} (has : given? "sample_limit" requested = some h)
      (read : limitOfHost h = .ok i) : LimitFrom environment requested i
  /-- The environment is set to a text that is not empty. -/
  | environment {s : String} {i : Int} (lacks : given? "sample_limit" requested = none)
      (set : environment = some s) (filled : s ≠ "") (read : limitOfText s = .ok i) :
      LimitFrom environment requested i
  /-- The environment says nothing. -/
  | default (lacks : given? "sample_limit" requested = none)
      (unset : environment = none ∨ environment = some "") : LimitFrom environment requested 10

/-- A limit with the integer that it comes from: it is that integer, lowered to the
ceiling. -/
structure Lowered (settings : Settings) (i : Int) : Prop where
  positive : 1 ≤ i
  limit : (settings.sampleLimit : Int) = min maxSampleLimit i

/-- The startup statements of a request are these texts, none where it has no entry for
them. -/
def StatementsFrom (requested : Host) (ss : List String) : Prop :=
  ∃ hs, ((given? "startup_statements" requested).getD (.list [])).elements? = some hs ∧
    Validation.textsField "startup_statements" (.list hs) = .ok ss

/-- The settings as a request for the same. -/
def asRequest (settings : Settings) : Host :=
  .object [("sample_limit", .int settings.sampleLimit),
    ("startup_statements", .list (settings.startupStatements.map .string))]

/-- A lowered limit is in range. -/
theorem Lowered.inRange {settings : Settings} {i : Int} (h : settings.Lowered i) :
    settings.InRange := by
  have hpositive := h.positive
  have hlimit := h.limit
  unfold maxSampleLimit at hlimit
  constructor
  · omega
  · unfold maxSampleLimit
    omega

/-- A limit in range is lowered to itself. -/
theorem InRange.lowered {settings : Settings} (h : settings.InRange) :
    settings.Lowered settings.sampleLimit := by
  have hpositive := h.positive
  have hcapped := h.capped
  constructor <;> omega

/-- Lowering keeps the order of limits. -/
theorem Lowered.mono {a b : Settings} {i j : Int} (ha : a.Lowered i) (hb : b.Lowered j)
    (hij : i ≤ j) : a.sampleLimit ≤ b.sampleLimit := by
  have hlow := ha.limit
  have hhigh := hb.limit
  omega

/-- Settings with the same statements, lowered from the same limit, are the same. -/
theorem Lowered.eq {a b : Settings} {i : Int} (ha : a.Lowered i) (hb : b.Lowered i)
    (hstatements : a.startupStatements = b.startupStatements) : a = b := by
  obtain ⟨limit, startup⟩ := a
  obtain ⟨limit', startup'⟩ := b
  have hlimit : (limit : Int) = limit' := ha.limit.trans hb.limit.symm
  rw [Settings.mk.injEq]
  exact ⟨by omega, hstatements⟩

/-- The statements of a request are determined by its entry for them. -/
theorem StatementsFrom.unique {requested : Host} {ss ts : List String}
    (hs : StatementsFrom requested ss) (ht : StatementsFrom requested ts) : ss = ts := by
  obtain ⟨items, hitems, hss⟩ := hs
  obtain ⟨items', hitems', hts⟩ := ht
  have hsame : items = items' := Option.some.inj (hitems.symm.trans hitems')
  rw [hsame, hts] at hss
  exact (Except.ok.inj hss).symm

/-! ### What validation gives -/

/-- There are settings with a lowered limit if the limit is at least one and the statements
are taken. -/
theorem validate_lowered_iff {i : Int} {items : List Host} {settings : Settings} :
    validate (some (.int (min i maxSampleLimit))) (some (.list items)) = .ok settings ↔
      settings.Lowered i ∧
        Validation.textsField "startup_statements" (.list items) =
          .ok settings.startupStatements := by
  have hcount : Validation.countField "sample_limit" (.int (min i maxSampleLimit)) =
      if 1 ≤ min i maxSampleLimit then .ok (min i maxSampleLimit).toNat
      else .error [⟨["sample_limit"], .belowOne⟩] := rfl
  obtain ⟨limit, startup⟩ := settings
  have hlowered : (Settings.mk limit startup).Lowered i ↔
      1 ≤ min i maxSampleLimit ∧ (min i maxSampleLimit).toNat = limit := by
    unfold maxSampleLimit
    constructor
    · rintro ⟨hpositive, hlimit⟩
      simp only [maxSampleLimit] at hlimit
      omega
    · rintro ⟨hpositive, hlimit⟩
      have hlimit' : (limit : Int) = min 1000 i := by omega
      exact ⟨by omega, hlimit'⟩
  rw [hlowered]
  simp only [validate]
  rw [hcount]
  by_cases hi : 1 ≤ min i maxSampleLimit
  · cases htexts : Validation.textsField "startup_statements" (.list items) with
    | error problems => simp [Validation.both, hi]
    | ok texts => simp [Validation.both, hi]
  · cases htexts : Validation.textsField "startup_statements" (.list items) with
    | error problems => simp [Validation.both, hi]
    | ok texts => simp [Validation.both, hi]

/-- The environment gives settings with its limit, lowered to the ceiling, and without
startup statements. -/
theorem fromEnvironment_eq_ok {environment : Option String} {settings : Settings}
    (h : fromEnvironment environment = .ok settings) :
    ∃ i, LimitFrom environment .null i ∧ settings.Lowered i ∧
      settings.startupStatements = [] := by
  have hdefaults : ∀ {r : Settings}, validate none none = .ok r →
      r.Lowered 10 ∧ r.startupStatements = [] := by
    intro r hr
    have hr' : r = ⟨10, []⟩ := (Except.ok.inj hr).symm
    subst hr'
    exact ⟨⟨by decide, by decide⟩, rfl⟩
  cases environment with
  | none => exact ⟨10, .default rfl (.inl rfl), hdefaults h⟩
  | some s =>
    by_cases hempty : s = ""
    · subst hempty
      exact ⟨10, .default rfl (.inr rfl), hdefaults h⟩
    · simp only [fromEnvironment, String.isEmpty_iff, hempty, if_false] at h
      cases hread : limitOfText s with
      | error e =>
        rw [hread] at h
        cases h
      | ok i =>
        rw [hread] at h
        have hvalid : validate (some (.int (min i maxSampleLimit))) (some (.list [])) =
            .ok settings := h
        obtain ⟨hlowered, htexts⟩ := validate_lowered_iff.mp hvalid
        exact ⟨i, .environment rfl rfl hempty hread, hlowered, (Except.ok.inj htexts).symm⟩

/-! ### What a request gives -/

/-- The entries of a mapping are looked up by name. -/
theorem member?_entriesOf {requested : Host} {entries : List (Host × Host)}
    (h : entriesOf requested = .ok entries) (name : String) :
    Host.member? name entries = given? name requested := by
  unfold entriesOf at h
  split at h
  · cases h
    rfl
  · cases h
    rfl
  · split at h <;> cases h
  · cases h

/-- A request without a truth value has no entries. -/
theorem given?_of_not_truthy {requested : Host} (h : requested.isTruthy = false)
    (name : String) : given? name requested = none := by
  unfold given?
  split
  · rename_i kind entries
    have hempty : entries = [] := by simpa [Host.isTruthy] using h
    rw [hempty]
    rfl
  · rfl

/-- A request with an entry counts as true, and its entries can be got. -/
theorem entriesOf_of_given? {requested h : Host} {name : String}
    (has : given? name requested = some h) :
    requested.isTruthy = true ∧ ∃ entries, entriesOf requested = .ok entries := by
  unfold given? at has
  split at has
  · rename_i kind entries
    refine ⟨?_, entries, rfl⟩
    cases entries with
    | nil => cases has
    | cons e rest => rfl
  · cases has

/-- The environment decides the limit of a request that has no entry for it. -/
theorem LimitFrom.of_environment {environment : Option String} {requested : Host} {i : Int}
    (h : LimitFrom environment .null i) (lacks : given? "sample_limit" requested = none) :
    LimitFrom environment requested i := by
  cases h with
  | request has read => cases has
  | environment _ set filled read => exact .environment lacks set filled read
  | default _ unset => exact .default lacks unset

/-- The limit of a request is read from its source in one way. -/
theorem LimitFrom.unique {environment : Option String} {requested : Host} {i j : Int}
    (hi : LimitFrom environment requested i) (hj : LimitFrom environment requested j) :
    i = j := by
  cases hi with
  | request has read =>
    cases hj with
    | request has' read' =>
      rw [has, Option.some.injEq] at has'
      subst has'
      exact Except.ok.inj (read.symm.trans read')
    | environment lacks => exact absurd (has.symm.trans lacks) nofun
    | default lacks => exact absurd (has.symm.trans lacks) nofun
  | environment lacks set filled read =>
    cases hj with
    | request has' => exact absurd (has'.symm.trans lacks) nofun
    | environment _ set' _ read' =>
      rw [set, Option.some.injEq] at set'
      subst set'
      exact Except.ok.inj (read.symm.trans read')
    | default _ unset =>
      rw [set] at unset
      simp [filled] at unset
  | default lacks unset =>
    cases hj with
    | request has' => exact absurd (has'.symm.trans lacks) nofun
    | environment _ set' filled =>
      rw [set'] at unset
      simp [filled] at unset
    | default => rfl

/-- Reading the limit of a request, with the one of the environment in the place of an
entry that is left out, gives the same lowered limit as reading it from its source. -/
theorem exists_limit_iff {environment : Option String} {requested : Host}
    {defaults settings : Settings} {d : Int} (hfrom : LimitFrom environment .null d)
    (hlowered : defaults.Lowered d) :
    (∃ i, limitOfHost ((given? "sample_limit" requested).getD (.int defaults.sampleLimit)) =
        .ok i ∧ settings.Lowered i) ↔
      ∃ i, LimitFrom environment requested i ∧ settings.Lowered i := by
  cases hentry : given? "sample_limit" requested with
  | some h =>
    constructor
    · rintro ⟨i, read, hi⟩
      exact ⟨i, .request hentry read, hi⟩
    · rintro ⟨i, source, hi⟩
      cases source with
      | request has read =>
        rw [hentry] at has
        cases has
        exact ⟨i, read, hi⟩
      | environment lacks => exact absurd (hentry.symm.trans lacks) nofun
      | default lacks => exact absurd (hentry.symm.trans lacks) nofun
  | none =>
    have hsource : LimitFrom environment requested d := hfrom.of_environment hentry
    have hread : limitOfHost (.int defaults.sampleLimit) = .ok (defaults.sampleLimit : Int) := rfl
    have hpositive := hlowered.positive
    have hlimit := hlowered.limit
    rw [Option.getD_none, hread]
    constructor
    · rintro ⟨i, hi, hsettings⟩
      cases hi
      have hagain := hsettings.limit
      exact ⟨d, hsource, hpositive, by omega⟩
    · rintro ⟨i, hi, hsettings⟩
      have hsame : i = d := hi.unique hsource
      have hagain := hsettings.limit
      exact ⟨_, rfl, hlowered.inRange.lowered.positive, by omega⟩

/-- A request gives settings if the environment does, its entries can be got unless it
counts as false, its limit is at least one and its statements are taken. -/
theorem cap_eq_ok_iff {environment : Option String} {requested : Host} {settings : Settings} :
    cap environment requested = .ok settings ↔
      (∃ defaults, fromEnvironment environment = .ok defaults) ∧
      (requested.isTruthy = true → ∃ entries, entriesOf requested = .ok entries) ∧
      (∃ i, LimitFrom environment requested i ∧ settings.Lowered i) ∧
      StatementsFrom requested settings.startupStatements := by
  cases henv : fromEnvironment environment with
  | error e => simp [cap, henv]
  | ok defaults =>
    obtain ⟨d, hfrom, hlowered, hnone⟩ := fromEnvironment_eq_ok henv
    cases htruthy : requested.isTruthy with
    | false =>
      have hlimit := given?_of_not_truthy htruthy "sample_limit"
      have hstatements := given?_of_not_truthy htruthy "startup_statements"
      have hsource : LimitFrom environment requested d := hfrom.of_environment hlimit
      have hunstated : StatementsFrom requested [] := ⟨[], by rw [hstatements]; rfl, rfl⟩
      have hcap : cap environment requested = .ok defaults := by simp [cap, henv, htruthy]
      rw [hcap]
      constructor
      · intro h
        cases h
        exact ⟨⟨_, rfl⟩, nofun, ⟨d, hsource, hlowered⟩, hnone ▸ hunstated⟩
      · rintro ⟨-, -, ⟨i, hi, hsettings⟩, hss⟩
        rw [hi.unique hsource] at hsettings
        have hstartup : defaults.startupStatements = settings.startupStatements :=
          hnone.trans (hss.unique hunstated).symm
        rw [hlowered.eq hsettings hstartup]
    | true =>
      cases hentries : entriesOf requested with
      | error e => simp [cap, henv, htruthy, hentries]
      | ok entries =>
        rw [← exists_limit_iff hfrom hlowered]
        simp only [cap, henv, htruthy, hentries, member?_entriesOf hentries, hnone]
        cases hread : limitOfHost ((given? "sample_limit" requested).getD
            (.int defaults.sampleLimit)) with
        | error e => simp
        | ok i =>
          cases hitems : ((given? "startup_statements" requested).getD (.list [])).elements? with
          | none => simp [StatementsFrom, hitems]
          | some items => simp [StatementsFrom, hitems, validate_lowered_iff]

/-- With a limit of its own a request gives the same settings, or fails in the same way, in
every environment in which there are settings. -/
theorem cap_congr {environment environment' : Option String} {requested h : Host}
    {d d' : Settings} (has : given? "sample_limit" requested = some h)
    (henv : fromEnvironment environment = .ok d)
    (henv' : fromEnvironment environment' = .ok d') :
    cap environment requested = cap environment' requested := by
  obtain ⟨-, -, -, hnone⟩ := fromEnvironment_eq_ok henv
  obtain ⟨-, -, -, hnone'⟩ := fromEnvironment_eq_ok henv'
  obtain ⟨htruthy, entries, hentries⟩ := entriesOf_of_given? has
  simp only [cap, henv, henv', htruthy, Bool.not_true, Bool.false_eq_true, if_false, hentries,
    member?_entriesOf hentries, has, Option.getD_some, hnone, hnone']

/-- A request with a higher limit and the same statements gives settings with a limit that
is no lower, and the same statements. -/
theorem cap_mono {environment : Option String} {requested requested' h : Host} {i j : Int}
    {settings : Settings} (hcap : cap environment requested = .ok settings)
    (source : LimitFrom environment requested i)
    (has : given? "sample_limit" requested' = some h) (read : limitOfHost h = .ok j)
    (hij : i ≤ j)
    (hstatements : given? "startup_statements" requested' =
      given? "startup_statements" requested) :
    ∃ settings', cap environment requested' = .ok settings' ∧
      settings.sampleLimit ≤ settings'.sampleLimit ∧
      settings'.startupStatements = settings.startupStatements := by
  obtain ⟨henv, -, ⟨i', source', hlowered⟩, hss⟩ := cap_eq_ok_iff.mp hcap
  have hi : i' = i := source'.unique source
  rw [hi] at hlowered
  have hpositive := hlowered.positive
  let raised : Settings := ⟨(min maxSampleLimit j).toNat, settings.startupStatements⟩
  have hraised : raised.Lowered j := by
    refine ⟨by omega, ?_⟩
    simp only [raised, maxSampleLimit]
    omega
  have hss' : StatementsFrom requested' settings.startupStatements := by
    unfold StatementsFrom
    rw [hstatements]
    exact hss
  refine ⟨raised, cap_eq_ok_iff.mpr ⟨henv, fun _ => (entriesOf_of_given? has).2,
    ⟨j, .request has read, hraised⟩, hss'⟩, hlowered.mono hraised hij, rfl⟩

/-- An ordinary mapping from text has the entries of its texts. -/
theorem given?_object (name : String) (fields : List (String × Host)) :
    given? name (.object fields) = Assoc.find? (· == ·) name fields :=
  Host.member?_object name fields

/-- The fields of settings can be requested by name. -/
theorem given?_asRequest (settings : Settings) :
    given? "sample_limit" settings.asRequest = some (.int settings.sampleLimit) ∧
      given? "startup_statements" settings.asRequest =
        some (.list (settings.startupStatements.map .string)) := by
  rw [asRequest, given?_object, given?_object]
  exact ⟨rfl, rfl⟩

/-- Settings in range that are requested are given, in every environment in which there
are settings. -/
theorem cap_asRequest {environment : Option String} {settings defaults : Settings}
    (hrange : settings.InRange) (henv : fromEnvironment environment = .ok defaults) :
    cap environment settings.asRequest = .ok settings := by
  obtain ⟨hlimit, hstatements⟩ := settings.given?_asRequest
  refine cap_eq_ok_iff.mpr ⟨⟨defaults, henv⟩, fun _ => (entriesOf_of_given? hlimit).2,
    ⟨settings.sampleLimit, .request hlimit rfl, hrange.lowered⟩, ?_⟩
  refine ⟨settings.startupStatements.map .string, by rw [hstatements]; rfl, ?_⟩
  exact Validation.textsFrom_strings _ _ _

/-- Settings from the environment and requested settings have the limit of their source,
lowered to the ceiling, which is in range. The environment decides no startup statement, and
nothing of a request with a limit. A higher requested limit gives a limit that is no lower.
Settings that were given are given again when their fields are requested, in every
environment in which there are settings. -/
theorem cap_clamps (environment : Option String) :
    (∀ settings, fromEnvironment environment = .ok settings →
      settings.InRange ∧ ∃ i, LimitFrom environment .null i ∧ settings.Lowered i) ∧
    (∀ requested settings, cap environment requested = .ok settings →
      settings.InRange ∧
      (∃ i, LimitFrom environment requested i ∧ settings.Lowered i) ∧
      (∀ environment' settings', cap environment' requested = .ok settings' →
        settings'.startupStatements = settings.startupStatements) ∧
      (∀ requested' h i j, LimitFrom environment requested i →
        given? "sample_limit" requested' = some h → limitOfHost h = .ok j → i ≤ j →
        given? "startup_statements" requested' = given? "startup_statements" requested →
        ∃ settings', cap environment requested' = .ok settings' ∧
          settings.sampleLimit ≤ settings'.sampleLimit ∧
          settings'.startupStatements = settings.startupStatements) ∧
      (∀ environment' defaults, fromEnvironment environment' = .ok defaults →
        cap environment' settings.asRequest = .ok settings)) ∧
    (∀ requested h, given? "sample_limit" requested = some h →
      ∀ environment' d d', fromEnvironment environment = .ok d →
        fromEnvironment environment' = .ok d' →
        cap environment requested = cap environment' requested) := by
  refine ⟨?_, ?_, ?_⟩
  · intro settings henv
    obtain ⟨i, hfrom, hlowered, -⟩ := fromEnvironment_eq_ok henv
    exact ⟨hlowered.inRange, i, hfrom, hlowered⟩
  · intro requested settings hcap
    obtain ⟨-, -, ⟨i, source, hlowered⟩, hss⟩ := cap_eq_ok_iff.mp hcap
    refine ⟨hlowered.inRange, ⟨i, source, hlowered⟩, ?_, ?_, ?_⟩
    · intro environment' settings' hcap'
      obtain ⟨-, -, -, hss'⟩ := cap_eq_ok_iff.mp hcap'
      exact hss'.unique hss
    · intro requested' h i j source has read hij hstatements
      exact cap_mono hcap source has read hij hstatements
    · intro environment' defaults henv'
      exact cap_asRequest hlowered.inRange henv'
  · intro requested h has environment' d d' henv henv'
    exact cap_congr has henv henv'

/-- A request for one startup statement, with a text for its limit. -/
def worded (limit : String) : Host :=
  .object [("sample_limit", .string limit), ("startup_statements", .list [.string "x = 1"])]

/-- Its entries. -/
theorem given?_worded (limit : String) :
    given? "sample_limit" (worded limit) = some (.string limit) ∧
      given? "startup_statements" (worded limit) = some (.list [.string "x = 1"]) := by
  rw [worded, given?_object, given?_object]
  exact ⟨rfl, rfl⟩

/-- Twelve elements are requested, in text with white space around it, of an environment
above the ceiling; five thousand are lowered to the ceiling. -/
theorem cap_clamps_worded :
    cap (some "5000") (worded " 12 ") = .ok ⟨12, ["x = 1"]⟩ ∧
    cap none (worded " 12 ") = cap (some "5000") (worded " 12 ") ∧
    cap none (asRequest ⟨12, ["x = 1"]⟩) = .ok ⟨12, ["x = 1"]⟩ ∧
    (Settings.mk 12 ["x = 1"]).InRange ∧
    ∃ higher, cap (some "5000") (worded "5000") = .ok higher ∧ 12 ≤ higher.sampleLimit := by
  have hdefaults : fromEnvironment (some "5000") = .ok ⟨1000, []⟩ := rfl
  obtain ⟨hlimit, hgiven⟩ := given?_worded " 12 "
  obtain ⟨hhigher, hgiven'⟩ := given?_worded "5000"
  have hread : limitOfHost (.string " 12 ") = .ok 12 := rfl
  have hread' : limitOfHost (.string "5000") = .ok 5000 := rfl
  have hstatements : StatementsFrom (worded " 12 ") ["x = 1"] :=
    ⟨[.string "x = 1"], by rw [hgiven]; rfl, rfl⟩
  have hcap : cap (some "5000") (worded " 12 ") = .ok ⟨12, ["x = 1"]⟩ :=
    cap_eq_ok_iff.mpr ⟨⟨_, hdefaults⟩, fun _ => (entriesOf_of_given? hlimit).2,
      ⟨12, .request hlimit hread, by decide, rfl⟩, hstatements⟩
  obtain ⟨-, hrequested, hown⟩ := cap_clamps (some "5000")
  obtain ⟨hrange, -, -, hmono, hagain⟩ := hrequested _ _ hcap
  obtain ⟨higher, hcap', hle, -⟩ := hmono _ _ 12 5000 (.request hlimit hread) hhigher hread'
    (by decide) (hgiven'.trans hgiven.symm)
  exact ⟨hcap, (hown _ _ hlimit none _ _ hdefaults rfl).symm, hagain none ⟨10, []⟩ rfl, hrange,
    higher, hcap', hle⟩

end Settings

end LiveSession
