import LiveSession.Host

/-!
# Calls of host values

A value can be asked for what a call without arguments gives. A type gives its
plainest value: a zero, an empty text, an empty collection, or an object that
keeps all it has to itself.
-/

namespace LiveSession

/-- The plainest value of a type that takes no arguments or can do without
them. -/
def Entity.plainest? (o : Entity) : Option Host :=
  match o.name with
  | "bool" => some (.bool false)
  | "int" => some (.int 0)
  | "float" => some (.double ⟨"0.0"⟩)
  | "complex" => some (.complex ⟨"0.0"⟩ ⟨"0.0"⟩)
  | "str" => some (.string "")
  | "bytes" => some (.binary .fixed [])
  | "bytearray" => some (.binary .growable [])
  | "list" => some (.list [])
  | "tuple" => some (.sequence .tuple [])
  | "set" => some (.sequence .set [])
  | "frozenset" => some (.sequence .frozenSet [])
  | "dict" => some (.mapping .plain [])
  | name =>
    if o.calling = .bare then some (.entity { kind := .shell, typeName := name, shown := "" })
    else none

namespace Host

/-- What a call without arguments gives, where the value is a type that can be
called so. -/
def made? : Host → Option Host
  | .entity o => if o.kind = .type then o.plainest? else none
  | _ => none

/-- The field of a record under a name. -/
def attribute? (name : String) : Host → Option Host
  | .record _ fields => (fields.find? fun f => f.1 == name).map Prod.snd
  | _ => none

end Host

end LiveSession
