import LiveSession.Host.Elements
import LiveSession.Proofs.Host.Steps

/-!
# Native values

A value holds a structured value that was bound as it is: in the place of an
element, a key, a value, a field or an attribute of it, at any depth, or in what
a handle gives. A native value holds none, and neither do its parts and the
elements that it is gone through by.
-/

namespace LiveSession.Host

/-- A structured value stands in a value. -/
inductive Holds : Host → Structured → Prop
  | itself (v : Structured) : Holds (.structured v) v
  | item {kind : SequenceKind} {items : List Host} {h : Host} {v : Structured} (hmem : h ∈ items)
      (inside : Holds h v) : Holds (.sequence kind items) v
  | key {kind : MappingKind} {entries : List (Host × Host)} {e : Host × Host} {v : Structured}
      (hmem : e ∈ entries) (inside : Holds e.1 v) : Holds (.mapping kind entries) v
  | value {kind : MappingKind} {entries : List (Host × Host)} {e : Host × Host} {v : Structured}
      (hmem : e ∈ entries) (inside : Holds e.2 v) : Holds (.mapping kind entries) v
  | field {kind : RecordKind} {fields : List (String × Host)} {f : String × Host}
      {v : Structured} (hmem : f ∈ fields) (inside : Holds f.2 v) : Holds (.record kind fields) v
  | root {root : Host} {v : Structured} (inside : Holds root v) : Holds (.envelope root) v
  | taken {take : Int → Except Fault Host} {attributes : List (String × Host)} {n : Int}
      {h : Host} {v : Structured} (given : take n = .ok h) (inside : Holds h v) :
      Holds (.handle take attributes) v
  | owned {take : Int → Except Fault Host} {attributes : List (String × Host)}
      {f : String × Host} {v : Structured} (hmem : f ∈ attributes) (inside : Holds f.2 v) :
      Holds (.handle take attributes) v

/-- Whether a value holds no structured value. -/
def IsNative (h : Host) : Prop :=
  ∀ v, ¬ h.Holds v

/-- A value without parts is native. -/
theorem isNative_atom {h : Host} (ha : h.layout = .atom) : h.IsNative := by
  intro v hv
  cases hv <;> cases ha

/-- A run is native if and only if its members are. -/
theorem isNative_sequence {kind : SequenceKind} {items : List Host} :
    (sequence kind items).IsNative ↔ ∀ h ∈ items, h.IsNative := by
  constructor
  · exact fun hn h hmem v hv => hn v (.item hmem hv)
  · intro hn v hv
    cases hv with
    | item hmem inside => exact hn _ hmem v inside

/-- The keys and the values of a native mapping are native. -/
theorem IsNative.entries {kind : MappingKind} {list : List (Host × Host)}
    (hn : (mapping kind list).IsNative) : ∀ e ∈ list, e.1.IsNative ∧ e.2.IsNative :=
  fun _ hmem => ⟨fun v hv => hn v (.key hmem hv), fun v hv => hn v (.value hmem hv)⟩

/-- The fields of a native record are native. -/
theorem IsNative.fields {kind : RecordKind} {list : List (String × Host)}
    (hn : (record kind list).IsNative) : ∀ f ∈ list, f.2.IsNative :=
  fun _ hmem v hv => hn v (.field hmem hv)

/-- What a native model consists of is native. -/
theorem IsNative.root {content : Host} (hn : (envelope content).IsNative) : content.IsNative :=
  fun v hv => hn v (.root hv)

/-- What a native handle gives is native. -/
theorem IsNative.taken {take : Int → Except Fault Host} {list : List (String × Host)}
    (hn : (handle take list).IsNative) {n : Int} {h : Host} (given : take n = .ok h) :
    h.IsNative :=
  fun v hv => hn v (.taken given hv)

/-- The attributes of a native handle are native. -/
theorem IsNative.attributes {take : Int → Except Fault Host} {list : List (String × Host)}
    (hn : (handle take list).IsNative) : ∀ f ∈ list, f.2.IsNative :=
  fun _ hmem v hv => hn v (.owned hmem hv)

/-- A name with a native value is a native pair. -/
theorem isNative_pair (name : String) {value : Host} (hn : value.IsNative) :
    (pair name value).IsNative := by
  refine isNative_sequence.mpr fun h hmem => ?_
  rcases List.mem_cons.mp hmem with rfl | hmem
  · exact isNative_atom rfl
  · cases List.mem_singleton.mp hmem
    exact hn

/-- The elements of a native value are native. -/
theorem IsNative.elements {h : Host} (hn : h.IsNative) {elements : List Host}
    (he : h.elements? = some elements) : ∀ x ∈ elements, x.IsNative := by
  -- Characters, bytes and numbers of a range have no parts.
  have hmap : ∀ {α : Type} {f : α → Host} (xs : List α), (∀ x, (f x).layout = .atom) →
      ∀ h ∈ xs.map f, h.IsNative := by
    intro α f xs hf h hmem
    obtain ⟨x, -, rfl⟩ := List.mem_map.mp hmem
    exact isNative_atom (hf x)
  cases h with
  | string s =>
    cases he
    exact hmap _ fun _ => rfl
  | label name s =>
    cases he
    exact hmap _ fun _ => rfl
  | binary kind bytes =>
    cases he
    exact hmap _ fun _ => rfl
  | range start stop step =>
    cases he
    exact hmap _ fun _ => rfl
  | sequence kind items =>
    cases he
    exact isNative_sequence.mp hn
  | mapping kind entries =>
    cases he
    intro x hx
    obtain ⟨e, hmem, rfl⟩ := List.mem_map.mp hx
    exact (hn.entries e hmem).1
  | record kind fields =>
    cases kind with
    | model =>
      cases he
      intro x hx
      obtain ⟨f, hmem, rfl⟩ := List.mem_map.mp hx
      exact isNative_pair f.1 (hn.fields f hmem)
    | _ => cases he
  | envelope root =>
    cases he
    intro x hx
    cases List.mem_singleton.mp hx
    exact isNative_pair "root" hn.root
  | cyclic kind =>
    cases kind with
    | object => cases he
    | list =>
      cases he
      intro x hx
      rcases List.mem_cons.mp hx with rfl | hx
      · exact isNative_atom rfl
      · cases List.mem_singleton.mp hx
        exact isNative_atom rfl
    | mapping =>
      cases he
      exact hmap ["a", "self"] fun _ => rfl
  | entity o =>
    change (if o.kind.isIterable = true then some [] else none) = some elements at he
    split at he
    · cases he
      intro x hx
      cases hx
    · cases he
  | _ => cases he

end LiveSession.Host
