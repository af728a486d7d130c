import LiveSession.Response
import LiveSession.Validation

/-!
# Drafts of responses

A draft names a variant and gives host values for its fields. Building it
checks the fields: texts have to be texts, a traceback a list of texts, a
payload a mapping whose keys are texts. What a built response carries never
changes: only private attributes can be assigned to.
-/

namespace LiveSession.Response

/-- A response that is still to be checked. -/
inductive Draft where
  /-- A success with one text entry. -/
  | plainText (text : Host)
  /-- A success with the given entries. -/
  | success (entries : List (String × Entry))
  /-- A success whose payload is a host value. -/
  | payload (value : Host)
  /-- An error; an absent traceback is empty. -/
  | error (kind name traceback : Option Host)
  | incomplete
  | aborted (message : Option Host)
  | bare

/-- Take a text for a field that has to be there. -/
def required (field : String) : Option Host → Except (List FieldProblem) String
  | none => .error [⟨[field], .missing⟩]
  | some h => Validation.textField field h

/-- A key as a step of a path: a whole number by its digits, a boolean as one or
zero, any other key in its quoted form. A key with too many digits is named by
its type. -/
def keyStep (k : Host) : String :=
  match k.integer?, k.quoted? with
  | _, none => "<unprintable " ++ k.typeName ++ " object>"
  | some i, some _ => Text.integerText i
  | none, some q => q

/-- Take the entries of a payload; every key has to be a text. -/
def payloadEntries : List (Host × Host) → Except (List FieldProblem) (List (String × Entry))
  | [] => .ok []
  | (k, v) :: rest =>
    match Validation.text k, payloadEntries rest with
    | .ok s, .ok es => .ok ((s, Entry.ofHost v) :: es)
    | .ok _, .error ps => .error ps
    | .error p, .ok _ => .error [⟨["payload", keyStep k, "[key]"], p⟩]
    | .error p, .error ps => .error (⟨["payload", keyStep k, "[key]"], p⟩ :: ps)

/-- Build a response from a draft, or report all problems of its fields. -/
def Draft.build : Draft → Except (List FieldProblem) Response
  | .plainText h => .ok (.success [(plainTextMedia, Entry.ofHost h)])
  | .success entries => .ok (.success (Assoc.ofList (· == ·) entries))
  | .payload (.mapping _ entries) =>
    (payloadEntries entries).map fun es => .success (Assoc.ofList (· == ·) es)
  | .payload (.cyclic .mapping) =>
    .ok (.success [("a", .host (.int 1)), ("self", .host (.cyclic .mapping))])
  | .payload _ => .error [⟨["payload"], .notMapping⟩]
  | .error kind name traceback =>
    let lines : Except (List FieldProblem) (List String) :=
      match traceback with
      | none => .ok []
      | some h => Validation.textsField "traceback" h
    (Validation.both (required "kind" kind) (Validation.both (required "name" name) lines)).map
      fun fields => .error fields.1 fields.2.1 fields.2.2
  | .incomplete => .ok .incomplete
  | .aborted message => (required "message" message).map .aborted
  | .bare => .ok .bare

/-- Why an attribute of a response cannot be assigned to. -/
inductive AssignError where
  /-- A response never changes. -/
  | frozen (name : String)
  /-- The attribute belongs to the variant as a whole. -/
  | shared (name variant : String)
  /-- The type of a response is a type. -/
  | notType (typeName : String)
  /-- A response keeps its type. -/
  | otherType
  /-- The attributes of a response are a mapping. -/
  | notMapping (typeName : String)
  deriving DecidableEq, Repr

/-- The wording of a refused assignment; a frozen attribute is reported as a
problem of a field. -/
def AssignError.message : AssignError → String
  | .frozen _ => Problem.frozen.message
  | .shared name variant =>
    "'" ++ name ++ "' is a ClassVar of `" ++ variant ++ "` and cannot be set on an " ++
      "instance. If you want to set a value on the class, use `" ++ variant ++ "." ++ name ++
      " = value`."
  | .notType name => "__class__ must be set to a class, not '" ++ name ++ "' object"
  | .otherType =>
    "__class__ assignment only supported for mutable types or ModuleType subclasses"
  | .notMapping name => "__dict__ must be set to a dictionary, not a '" ++ name ++ "'"

/-- Whether a value can be the attributes of an object. -/
def isAttributes : Host → Bool
  | .mapping .plain _ => true
  | .mapping .ordered _ => true
  | .cyclic .mapping => true
  | _ => false

/-- Assign a value to an attribute of a response. What a response carries never
changes, and its status belongs to its variant; a private attribute, whose name
starts with an underscore, can be assigned. -/
def assign (r : Response) (name : String) (value : Host) : Except AssignError Unit :=
  if name = "status" then .error (.shared name r.variantName)
  else if name.toList.head? ≠ some '_' then .error (.frozen name)
  else
    match name, value with
    | "__class__", .entity o =>
      if o.kind = .type then .error .otherType else .error (.notType value.qualifiedTypeName)
    | "__class__", _ => .error (.notType value.qualifiedTypeName)
    | "__dict__", _ =>
      if isAttributes value then .ok () else .error (.notMapping value.qualifiedTypeName)
    | _, _ => .ok ()

end LiveSession.Response
