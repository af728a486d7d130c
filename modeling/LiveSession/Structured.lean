import LiveSession.Host

/-!
# Closed structured values

A structured value is closed when every node has one of the eight shapes and
the keys of every object are pairwise distinct.
-/

namespace LiveSession

/-- Whether the keys of an object are pairwise distinct. -/
def distinctKeys {β : Type} (fields : List (String × β)) : Bool :=
  match fields with
  | [] => true
  | (k, _) :: rest => !(rest.any fun f => f.1 == k) && distinctKeys rest

namespace Structured

mutual

/-- Whether every node has one of the eight shapes and every object has
distinct keys. -/
def isClosed : Structured → Bool
  | .array items => isClosedList items
  | .object fields => distinctKeys fields && isClosedFields fields
  | .shapeless => false
  | .foreign _ => false
  | _ => true

/-- Whether every item is closed. -/
def isClosedList : List Structured → Bool
  | [] => true
  | v :: rest => isClosed v && isClosedList rest

/-- Whether every field value is closed. -/
def isClosedFields : List (String × Structured) → Bool
  | [] => true
  | (_, v) :: rest => isClosed v && isClosedFields rest

end

end Structured

end LiveSession
