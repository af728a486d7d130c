/-!
# Association lists in insertion order

Bindings, payloads and mappings keep the order in which their keys were first
put: putting a key that is present replaces its value and leaves its place.
The equality of keys is a parameter, because host keys of different types can
be equal.
-/

namespace LiveSession.Assoc

variable {α β : Type}

/-- The value of the first entry whose key is equal to the given one. -/
def find? (same : α → α → Bool) (key : α) : List (α × β) → Option β
  | [] => none
  | (k, v) :: rest => if same k key then some v else find? same key rest

/-- Put a value: in the place of an equal key, else at the end. The key that
is present stays. -/
def put (same : α → α → Bool) (key : α) (value : β) : List (α × β) → List (α × β)
  | [] => [(key, value)]
  | (k, v) :: rest =>
    if same k key then (k, value) :: rest else (k, v) :: put same key value rest

/-- Remove every entry whose key is equal to the given one. -/
def erase (same : α → α → Bool) (key : α) (entries : List (α × β)) : List (α × β) :=
  entries.filter fun e => !same e.1 key

/-- Put the entries of a list one after the other. -/
def ofList (same : α → α → Bool) (entries : List (α × β)) : List (α × β) :=
  entries.foldl (fun acc e => put same e.1 e.2 acc) []

/-- The keys, in order. -/
def keys (entries : List (α × β)) : List α :=
  entries.map Prod.fst

/-- Keep the first of the members that are equal to one another. -/
def distinct (same : α → α → Bool) (members : List α) : List α :=
  members.foldl (fun acc m => if acc.any (same · m) then acc else acc ++ [m]) []

end LiveSession.Assoc
