import LiveSession.Magic
import LiveSession.Session.State

/-!
# Running a magic

The two magics show the value that a name is bound to: one as a structured
value, the other as a table. A handle is sampled first, once and with the
session's limit; then the engine decomposes what was found. An unknown magic,
an unbound name and a value without structured form are errors of the
submission; an interruption passes through.
-/

namespace LiveSession.Magic

variable {σ : Type}

/-- The response when a value has no structured form. -/
def conversionError : Response :=
  .error "ValueError" "Failed to convert value into a JSON value" []

/-- The response to a magic of another name. -/
def unknown (name : String) : Response :=
  .error "UnknownMagic" ("Unknown magic command " ++ name) []

/-- The response to an argument that is not bound. -/
def unbound (name : String) : Response :=
  .error "NameError" ("Value " ++ name ++ " does not exist") []

/-- A sample that cannot be gone through. -/
def notIterable (h : Host) : Fault :=
  ⟨"TypeError", .ordinary, ["'" ++ h.qualifiedTypeName ++ "' object is not iterable"]⟩

/-- Take a sample of a handle and list its elements; any other value stays as
it is. -/
def sample (limit : Int) (h : Host) (s : Session σ) : Except Fault Host × Session σ :=
  match h with
  | .handle take _ =>
    let s := { s with samples := s.samples ++ [limit] }
    match take limit with
    | .error f => (.error f, s)
    | .ok taken =>
      match taken.elements? with
      | some elements => (.ok (.list elements), s)
      | none => (.error (notIterable taken), s)
  | _ => (.ok h, s)

/-- The structured form of a value, sampled where it is a handle; `none` where
there is none. Only an interruption passes through. -/
def structuredForm (e : Engine σ) (limit : Int) (name : String) (h : Host) (s : Session σ) :
    Session.Result σ (Option Entry) :=
  let failed (f : Fault) (s : Session σ) : Session.Result σ (Option Entry) :=
    if f.interrupts then (.error (.fault f), s)
    else (.ok none, s.report .debug .magics ("decomposition of " ++ name ++ " failed"))
  match sample limit h s with
  | (.error f, s) => failed f s
  | (.ok h, s) =>
    match e.decompose h s.engine with
    | (.error f, state) => failed f { s with engine := state }
    | (.ok entry, state) => (.ok entry, { s with engine := state })

/-- Show an entry as a structured value. -/
def asStructured (entry : Entry) : Response :=
  .success [(structuredMedia, entry)]

/-- Show an entry as a table. -/
def asTable : Entry → Except Escape Response
  | .structured v => (Response.ofTable v).mapError .notStructured
  | .host h => .error (.notStructured h.typeName)
  | .table _ => .error (.notStructured "Table")

/-- Look a name up and show its value. -/
def showValue (e : Engine σ) (limit : Int) (name : String)
    (render : Entry → Except Escape Response) (s : Session σ) : Session.Result σ Response :=
  match e.lookup name s.engine with
  | (.error f, state) =>
    if f.nature = .missing then (.ok (unbound name), { s with engine := state })
    else (.error (.fault f), { s with engine := state })
  | (.ok h, state) =>
    match structuredForm e limit name h { s with engine := state } with
    | (.error escape, s) => (.error escape, s)
    | (.ok none, s) => (.ok conversionError, s)
    | (.ok (some entry), s) => (render entry, s)

/-- Run a magic. -/
def dispatch (e : Engine σ) (limit : Int) (m : Magic) (s : Session σ) :
    Session.Result σ Response :=
  let announced := s.report .debug .magics ("magic %" ++ m.name ++ " " ++ m.argument)
  if m.name = "json" then
    showValue e limit m.argument (fun entry => .ok (asStructured entry)) announced
  else if m.name = "table" then showValue e limit m.argument asTable announced
  else (.ok (unknown m.name), s)

end LiveSession.Magic
