import LiveSession.Script.Interpreter

/-!
# What a script binds, and how it exits

Running a script binds the names that its statements assign, the counters of its
loops and, where it evaluates something for its value, the underscore; evaluating
binds what calls bind. A script that exits runs nothing after what exits, and leaves
the engine without names.
-/

namespace LiveSession

namespace Assoc

variable {α β : Type} [BEq α] {key : α}

/-- The keys after a value is put are the keys before and the key of the value. -/
theorem mem_keys_put {new : α} {value : β} {entries : List (α × β)}
    (h : key ∈ keys (put (· == ·) new value entries)) : key = new ∨ key ∈ keys entries := by
  induction entries with
  | nil => exact .inl (List.mem_singleton.mp h)
  | cons entry rest ih =>
    rw [put] at h
    split at h
    · exact .inr h
    · rcases List.mem_cons.mp h with hhere | hlater
      · exact .inr (List.mem_cons.mpr (.inl hhere))
      · exact (ih hlater).imp_right (List.mem_cons_of_mem _)

/-- The keys of entries that are put one after the other are keys of these entries. -/
theorem mem_keys_ofList {entries : List (α × β)} (h : key ∈ keys (ofList (· == ·) entries)) :
    key ∈ keys entries := by
  have hfold : ∀ (entries acc : List (α × β)),
      key ∈ keys (entries.foldl (fun acc e => put (· == ·) e.1 e.2 acc) acc) →
        key ∈ keys acc ∨ key ∈ keys entries := by
    intro entries
    induction entries with
    | nil => exact fun acc h => .inl h
    | cons entry rest ih =>
      intro acc h
      rcases ih _ h with hacc | hrest
      · rcases mem_keys_put hacc with rfl | hold
        · exact .inr List.mem_cons_self
        · exact .inl hold
      · exact .inr (List.mem_cons_of_mem _ hrest)
  exact (hfold entries [] h).resolve_left List.not_mem_nil

end Assoc

namespace Script

mutual

/-- The names that running a statement can bind. -/
def Statement.targets : Statement → List String
  | .assign names _ => names
  | .evaluate _ _ => ["_"]
  | .raise _ _ => []
  | .pass => []
  | .loop counter _ _ body => counter :: targetsOf body

/-- The names that running statements can bind. -/
def targetsOf : List Statement → List String
  | [] => []
  | s :: rest => s.targets ++ targetsOf rest

end

section Within

variable {A : String → Prop} {α β : Type}

/-- All names that are bound are among some. -/
def Names.In (A : String → Prop) (names : Names) : Prop :=
  ∀ name ∈ Assoc.keys names, A name

/-- Binding one of some names leaves the names among them. -/
theorem Names.In.put {names : Names} (hs : names.In A) {new : String} (hnew : A new)
    (value : Host) : Names.In A (Assoc.put (· == ·) new value names) := by
  intro name hn
  rcases Assoc.mem_keys_put hn with rfl | hold
  · exact hnew
  · exact hs name hold

/-- A run leaves the names among some, if those that calls bound are among them. -/
def Run.Within (A : String → Prop) (r : Run α) : Prop :=
  (∀ name ∈ r.called, A name) → r.names.In A

/-- What does nothing leaves the names as they are. -/
theorem Run.Within.still {names : Names} (hs : names.In A) (result : Except Failure α) :
    (Run.still result names).Within A :=
  fun _ => hs

/-- Going on leaves the names where both parts leave them. -/
theorem Run.Within.andThen {r : Run α} {next : α → Names → Run β} (hr : r.Within A)
    (hnext : ∀ v names, names.In A → (next v names).Within A) : (r.andThen next).Within A := by
  unfold Run.andThen
  cases r.result with
  | error stop => exact hr
  | ok v =>
    intro hcalled
    have hnames := hr fun name hn => hcalled name (List.mem_append_left _ hn)
    exact hnext v r.names hnames fun name hn => hcalled name (List.mem_append_right _ hn)

section Evaluate

variable {around : Surroundings}

/-- A call binds the names that it binds. -/
theorem callAround_within {names : Names} (hs : names.In A) (line : Nat) (callee : Host)
    (arguments : List Host) : (callAround around line callee arguments names).Within A := by
  intro hcalled name hn
  by_cases hold : name ∈ Assoc.keys names
  · exact hs name hold
  · refine hcalled name (List.mem_filter.mpr ⟨hn, ?_⟩)
    simp [hold]

/-- Calling a value binds nothing, unless it is left to the surroundings. -/
theorem callAt_within {names : Names} (hs : names.In A) (line : Nat) (callee : Host)
    (arguments : List Host) : (callAt around line callee arguments names).Within A := by
  unfold callAt
  split
  · exact fun _ => hs
  split
  · exact fun _ => hs
  split
  · exact fun _ => hs
  split
  · exact fun _ => hs
  split
  · exact fun _ => hs
  · exact callAround_within hs line callee arguments

mutual

/-- Evaluating an expression binds what its calls bind. -/
theorem evaluate_within {names : Names} (hs : names.In A) :
    ∀ e : Expression, (evaluate around names e).Within A
  | .constant v => by
    rw [evaluate]
    exact .still hs _
  | .name name line => by
    rw [evaluate]
    exact .still hs _
  | .negation operand line => by
    rw [evaluate]
    exact .andThen (evaluate_within hs operand) fun v names hs => .still hs _
  | .quotient dividend divisor line => by
    rw [evaluate]
    exact .andThen (evaluate_within hs dividend) fun a names hs =>
      .andThen (evaluate_within hs divisor) fun b names hs => .still hs _
  | .call callee arguments line => by
    rw [evaluate]
    exact .andThen (evaluate_within hs callee) fun f names hs =>
      .andThen (evaluateAll_within hs arguments) fun values names hs =>
        callAt_within hs line f values
  | .list items => by
    rw [evaluate]
    exact .andThen (evaluateAll_within hs items) fun values names hs => .still hs _
  | .tuple items => by
    rw [evaluate]
    exact .andThen (evaluateAll_within hs items) fun values names hs => .still hs _
  | .set items line => by
    rw [evaluate]
    exact .andThen (evaluateAll_within hs items) fun values names hs => .still hs _
  | .mapping entries line => by
    rw [evaluate]
    exact .andThen (evaluateEntries_within hs line _ entries) fun pairs names hs =>
      .still hs _

/-- So does evaluating expressions one after the other. -/
theorem evaluateAll_within {names : Names} (hs : names.In A) :
    ∀ items : List Expression, (evaluateAll around names items).Within A
  | [] => by
    rw [evaluateAll]
    exact .still hs _
  | e :: rest => by
    rw [evaluateAll]
    exact .andThen (evaluate_within hs e) fun v names hs =>
      .andThen (evaluateAll_within hs rest) fun vs names hs => .still hs _

/-- So does evaluating keys and values. -/
theorem evaluateEntries_within {names : Names} (hs : names.In A) (line eager : Nat) :
    ∀ entries : List (Expression × Expression),
      (evaluateEntries around line eager names entries).Within A
  | [] => by
    rw [evaluateEntries]
    exact .still hs _
  | (key, value) :: rest => by
    rw [evaluateEntries]
    exact .andThen (evaluate_within hs key) fun k names hs =>
      .andThen (evaluate_within hs value) fun v names hs =>
        .andThen (.still hs _) fun k names hs =>
          .andThen (evaluateEntries_within hs line _ rest) fun es names hs =>
            .still hs _

end

/-- Echoing a value binds the underscore, at most. -/
theorem echo_within (hself : A "_") (echoes : Bool) (line : Nat) (v : Host) {names : Names}
    (hs : names.In A) : (echo around echoes line v names).Within A := by
  intro _
  unfold echo
  split
  · split
    · exact hs
    · dsimp only
      split
      · exact hs.put hself _
      · exact hs.put hself _
  · exact hs

end Evaluate

/-- Assigning a value binds the names that it is assigned to. -/
theorem Names.In.bindAll {targets : List String} (ht : ∀ name ∈ targets, A name) (value : Host)
    {names : Names} (hs : names.In A) : Names.In A (bindAll value targets names) := by
  induction targets generalizing names with
  | nil => exact hs
  | cons target rest ih =>
    obtain ⟨hhere, hlater⟩ := List.forall_mem_cons.mp ht
    exact ih hlater (hs.put hhere value)

section Loop

variable {counter : String} {body : Names → Run Unit} (hcounter : A counter)
  (hbody : ∀ names, names.In A → (body names).Within A)

include hcounter hbody

/-- Counting binds the counter and what the body binds. -/
theorem countOver_within (number step : Int) (times : Nat) {names : Names} (hs : names.In A) :
    (countOver counter body number step times names).Within A := by
  induction times generalizing names number with
  | zero => exact .still hs _
  | succ times ih =>
    exact .andThen (hbody _ (hs.put hcounter _)) fun _ names hs => ih (number + step) hs

/-- Going through elements binds the counter and what the body binds. -/
theorem goThrough_within (elements : List Host) {names : Names} (hs : names.In A) :
    (goThrough counter body elements names).Within A := by
  induction elements generalizing names with
  | nil => exact .still hs _
  | cons v rest ih =>
    exact .andThen (hbody _ (hs.put hcounter _)) fun _ names hs => ih hs

/-- A loop binds its counter and what its body binds. -/
theorem runOver_within (line : Nat) (v : Host) {names : Names} (hs : names.In A) :
    (runOver counter body line v names).Within A := by
  unfold runOver
  split
  · exact countOver_within hcounter hbody _ _ _ hs
  · split
    · exact goThrough_within hcounter hbody _ hs
    · exact fun _ => hs

end Loop

section Statements

variable (around : Surroundings) (echoes : Bool)

mutual

/-- Running a statement binds its targets and what calls bind. -/
theorem runStatement_within {names : Names} (hs : names.In A) :
    ∀ s : Statement, (∀ name ∈ s.targets, A name) →
      (runStatement around echoes names s).Within A
  | .assign targets e, ht => by
    rw [runStatement]
    rw [Statement.targets] at ht
    exact .andThen (evaluate_within hs e) fun v names hs =>
      .still (hs.bindAll ht v) _
  | .evaluate e line, ht => by
    rw [runStatement]
    rw [Statement.targets] at ht
    exact .andThen (evaluate_within hs e) fun v names hs =>
      echo_within (ht "_" List.mem_cons_self) echoes line v hs
  | .raise (some e) line, _ => by
    rw [runStatement]
    exact .andThen (evaluate_within hs e) fun v names hs => fun _ => hs
  | .raise none line, _ => by
    rw [runStatement]
    exact fun _ => hs
  | .pass, _ => by
    rw [runStatement]
    exact fun _ => hs
  | .loop counter elements line body, ht => by
    rw [runStatement]
    rw [Statement.targets] at ht
    obtain ⟨hcounter, hinside⟩ := List.forall_mem_cons.mp ht
    have hbody : ∀ names, names.In A → (runBody around echoes names body).Within A :=
      fun names hs => runBody_within hs body hinside
    exact .andThen (evaluate_within hs elements) fun v names hs =>
      runOver_within hcounter hbody line v hs

/-- Running statements binds their targets and what calls bind. -/
theorem runBody_within {names : Names} (hs : names.In A) :
    ∀ body : List Statement, (∀ name ∈ targetsOf body, A name) →
      (runBody around echoes names body).Within A
  | [], _ => by
    rw [runBody]
    exact fun _ => hs
  | s :: rest, ht => by
    rw [runBody]
    rw [targetsOf] at ht
    have hlater : ∀ name ∈ targetsOf rest, A name := fun name hn =>
      ht name (List.mem_append_right _ hn)
    exact .andThen
      (runStatement_within hs s fun name hn => ht name (List.mem_append_left _ hn))
      fun _ names hs => runBody_within hs rest hlater

end

end Statements

end Within

section Stopped

variable {around : Surroundings} {echoes : Bool} {names : Names}

/-- Expressions that are stopped leave the expressions after them alone. -/
theorem evaluateAll_append_of_stopped {before : List Expression} {stop : Stop}
    (h : (evaluateAll around names before).result = .error stop) (after : List Expression) :
    evaluateAll around names (before ++ after) = evaluateAll around names before := by
  induction before generalizing names with
  | nil =>
    rw [evaluateAll] at h
    cases h
  | cons e rest ih =>
    rw [evaluateAll] at h
    rw [List.cons_append, evaluateAll, evaluateAll]
    unfold Run.andThen at h ⊢
    cases he : (evaluate around names e).result with
    | error stop' => rfl
    | ok v =>
      rw [he] at h
      dsimp only at h ⊢
      cases hrest : (evaluateAll around (evaluate around names e).names rest).result with
      | error stop' => rw [ih (hrest.trans (by rw [hrest] at h; exact h)), hrest]
      | ok vs =>
        rw [hrest] at h
        cases h

/-- Statements that are stopped leave the statements after them alone. -/
theorem runBody_append_of_stopped {before : List Statement} {stop : Stop}
    (h : (runBody around echoes names before).result = .error stop) (after : List Statement) :
    runBody around echoes names (before ++ after) = runBody around echoes names before := by
  induction before generalizing names with
  | nil =>
    rw [runBody] at h
    cases h
  | cons s rest ih =>
    rw [runBody] at h
    rw [List.cons_append, runBody, runBody]
    unfold Run.andThen at h ⊢
    cases hs : (runStatement around echoes names s).result with
    | error stop' => rfl
    | ok u =>
      rw [hs] at h
      dsimp only at h ⊢
      rw [ih h]

end Stopped

/-- The status with which interpreting a text exits, if it does, as far as the status can
be written. -/
def exitStatus? (around : Surroundings) (code : String) (s : State) : Option (Option String) :=
  match Reading.ofText code.toList with
  | .script body =>
    match (runBody around s.echoes (withBuiltins s.visible) body).result with
    | .error (.exited status) => some status
    | _ => none
  | _ => none

/-- Interpreting a text can bind a name: it is a target of the text, or a call that is made
binds it. -/
def Binds (around : Surroundings) (code : String) (s : State) (name : String) : Prop :=
  ∃ body, Reading.ofText code.toList = .script body ∧
    (name ∈ targetsOf body ∨
      name ∈ (runBody around s.echoes (withBuiltins s.visible) body).called)

/-- All names that are bound are among some. -/
def BoundIn (A : String → Prop) (s : State) : Prop :=
  ∀ names, s.names = some names → names.In A

section Interpret

variable (source : String) {around : Surroundings} {code : String} {s : State}

/-- A text that exits raises this and leaves no names. -/
theorem interpret_of_exits {status : Option String} (h : exitStatus? around code s = some status) :
    (interpret source around code s).verdict = .error (exitFault status) ∧
      (interpret source around code s).state = { s with names := none } := by
  unfold exitStatus? at h
  unfold interpret
  dsimp only
  split at h
  · next body hbody =>
    rw [hbody]
    dsimp only
    split at h
    · next hstopped =>
      cases h
      unfold conclude
      rw [hstopped]
      exact ⟨rfl, rfl⟩
    · cases h
  · cases h

/-- A text that does not exit leaves names where there were some. -/
theorem interpret_of_not_exits (h : exitStatus? around code s = none) :
    (interpret source around code s).state.names.isSome = s.names.isSome ∧
      (interpret source around code s).state.echoes = s.echoes := by
  have hkeep : ∀ names, (s.keep names).names.isSome = s.names.isSome := fun names => by
    unfold State.keep
    rw [Option.isSome_map]
  unfold exitStatus? at h
  unfold interpret
  dsimp only
  cases hbody : Reading.ofText code.toList with
  | nothing => exact ⟨hkeep _, rfl⟩
  | unfinished => exact ⟨rfl, rfl⟩
  | rejected r => exact ⟨rfl, rfl⟩
  | script body =>
    rw [hbody] at h
    dsimp only at h ⊢
    unfold conclude
    cases hresult : (runBody around s.echoes (withBuiltins s.visible) body).result with
    | ok u => exact ⟨hkeep _, rfl⟩
    | error stop =>
      cases stop with
      | failed f => exact ⟨hkeep _, rfl⟩
      | exited status =>
        rw [hresult] at h
        cases h
      | interrupted label details => exact ⟨hkeep _, rfl⟩

end Interpret

section BoundIn

variable {A : String → Prop} {s : State}

/-- Where names are kept, they replace those that were bound. -/
theorem BoundIn.keep {names : Names} (h : names.In A) : BoundIn A (s.keep names) := by
  intro names' hnames
  obtain ⟨_, _, rfl⟩ := Option.map_eq_some_iff.mp hnames
  exact h

/-- The names that scripts see are those that are bound. -/
theorem BoundIn.visible (h : BoundIn A s) : s.visible.In A := by
  intro name hn
  unfold State.visible at hn
  cases hnames : s.names with
  | none =>
    rw [hnames] at hn
    cases hn
  | some names =>
    rw [hnames] at hn
    exact h names hnames name hn

/-- Binding the name of the built-in functions binds no other. -/
theorem Names.In.withBuiltins {names : Names} (hself : A Builtin.selfName) (h : names.In A) :
    (withBuiltins names).In A := by
  unfold Script.withBuiltins
  split
  · exact h
  · intro name hn
    unfold Assoc.keys at hn
    rw [List.map_append] at hn
    rcases List.mem_append.mp hn with hold | hnew
    · exact h name hold
    · rw [List.mem_singleton.mp hnew]
      exact hself

/-- Interpreting a text binds no more than the text can bind, and the name of the
built-in functions. -/
theorem BoundIn.interpret (source : String) {around : Surroundings} {code : String}
    (hself : A Builtin.selfName) (hcode : ∀ name, Binds around code s name → A name)
    (h : BoundIn A s) : BoundIn A (interpret source around code s).state := by
  have hvisible := h.visible.withBuiltins hself
  unfold Script.interpret
  dsimp only
  cases hbody : Reading.ofText code.toList with
  | nothing => exact .keep hvisible
  | unfinished => exact h
  | rejected r => exact h
  | script body =>
    have hrun : (runBody around s.echoes (withBuiltins s.visible) body).names.In A :=
      runBody_within around s.echoes hvisible body
        (fun name hn => hcode name ⟨body, hbody, .inl hn⟩)
        fun name hn => hcode name ⟨body, hbody, .inr hn⟩
    dsimp only
    unfold conclude
    split
    · exact .keep hrun
    · exact .keep hrun
    · exact fun names hnames => nomatch hnames
    · exact .keep hrun

end BoundIn

end Script

end LiveSession
