import LiveSession.Proofs.Decompose.FirstDefect
import LiveSession.Proofs.Decompose.Rewriting
import LiveSession.Proofs.Structured.Classified

/-!
# Public attributes

The private attributes of plain objects have no part in what a value decomposes to, at any
depth of it: with other private attributes, or without them, the same comes out, or the
same defect is reported, even where a private attribute has no structured form itself. Of
the keys in what comes out those are public that stem from an attribute of a plain object.

The fields of declared records are not told apart in this way, the private ones are shown
as well.
-/

namespace LiveSession

mutual

/-- A structured value without the private fields of records of certain kinds in it. -/
def Structured.redacted (redacts : RecordKind → Bool) : Structured → Structured
  | .array items => .array (items.map fun v => v.redacted redacts)
  | .object fields => .object (fields.map fun f => (f.1, f.2.redacted redacts))
  | .foreign h => .foreign (h.redacted redacts)
  | v => v
termination_by v => sizeOf v
decreasing_by
  · have hlt := List.sizeOf_lt_of_mem ‹v ∈ items›
    rw [Structured.array.sizeOf_spec]
    omega
  · have hlt := sizeOf_snd_lt_of_mem ‹f ∈ fields›
    rw [Structured.object.sizeOf_spec]
    omega
  · rw [Structured.foreign.sizeOf_spec]
    omega

/-- A value without the private fields of records of certain kinds in it; a handle counts
as a plain object. The keys of mappings stay as they are: they are not decomposed, they
count by their texts. -/
def Host.redacted (redacts : RecordKind → Bool) : Host → Host
  | .sequence kind items => .sequence kind (items.map fun h => h.redacted redacts)
  | .mapping kind entries => .mapping kind (entries.map fun e => (e.1, e.2.redacted redacts))
  | .record kind fields =>
    .record kind ((fields.map fun f => (f.1, f.2.redacted redacts)).filter
      fun f => !redacts kind || Host.isPublic f.1)
  | .envelope root => .envelope (root.redacted redacts)
  | .handle take attributes =>
    .handle take ((attributes.map fun f => (f.1, f.2.redacted redacts)).filter
      fun f => !redacts .object || Host.isPublic f.1)
  | .structured v => .structured (v.redacted redacts)
  | h => h
termination_by h => sizeOf h
decreasing_by
  · have hlt := List.sizeOf_lt_of_mem ‹h ∈ items›
    rw [Host.sequence.sizeOf_spec]
    omega
  · have hlt := sizeOf_snd_lt_of_mem ‹e ∈ entries›
    rw [Host.mapping.sizeOf_spec]
    omega
  · have hlt := sizeOf_snd_lt_of_mem ‹f ∈ fields›
    rw [Host.record.sizeOf_spec]
    omega
  · rw [Host.envelope.sizeOf_spec]
    omega
  · have hlt := sizeOf_snd_lt_of_mem ‹f ∈ attributes›
    rw [Host.handle.sizeOf_spec]
    omega
  · rw [Host.structured.sizeOf_spec]
    omega

end

/-- Some object in a structured value has a field of this name. -/
def Structured.Exposes (v : Structured) (name : String) : Prop :=
  ∃ fields value, Within (.object fields) v ∧ (name, value) ∈ fields

namespace Host

/-- A value lists a name otherwise than as an attribute of a plain object: it is the text
of a key, a field of a declared record, or a key in a structured value that was bound as it
is. -/
inductive Lists (name : String) : Host → Prop
  | key {kind : MappingKind} {entries : List (Host × Host)} {e : Host × Host}
      (hmem : e ∈ entries) (text : e.1.text = name) : Lists name (.mapping kind entries)
  | field {fields : List (String × Host)} {value : Host} (hmem : (name, value) ∈ fields) :
      Lists name (.record .declared fields)
  | built {v : Structured} (exposed : v.Exposes name) : Lists name (.structured v)

section Redacted

/-- Leaving out the private attributes leaves the public ones. -/
theorem public_redacted (attributes : List (String × Host)) :
    (((attributes.map fun f => (f.1, f.2.redacted RecordKind.isPlain)).filter
      fun f => !true || isPublic f.1).filter fun f => isPublic f.1) =
        (attributes.filter fun f => isPublic f.1).map
          fun f => (f.1, f.2.redacted RecordKind.isPlain) := by
  rw [List.filter_filter, List.filter_map]
  simp [Function.comp_def]

/-- Leaving out the private attributes of plain objects rewrites values. -/
theorem rewriting_redacted :
    Rewriting (redacted RecordKind.isPlain) (Structured.redacted RecordKind.isPlain) id where
  atom h ha := by
    cases h with
    | sequence kind items => cases ha
    | mapping kind entries => cases ha
    | record kind fields => cases ha
    | envelope root => cases ha
    | handle take attributes => cases ha
    | structured v => cases ha
    | _ => simp only [redacted]
  sequence kind items := by rw [redacted]
  mapping kind entries := by
    rw [redacted]
    rfl
  fields kind fields hk := by
    rw [redacted, hk]
    simp
  attributes kind attributes hk := ⟨_, by rw [redacted, hk], public_redacted attributes⟩
  envelope root := by rw [redacted]
  handle take attributes := ⟨take, _, by rw [redacted]; rfl, public_redacted attributes⟩
  structured v := by rw [redacted]
  leaf v hv := by
    cases v with
    | array items => cases hv
    | object fields => cases hv
    | foreign h => cases hv
    | _ => simp only [Structured.redacted]
  array items := by rw [Structured.redacted]
  object fields := by rw [Structured.redacted]
  foreign h := by rw [Structured.redacted]
  keys := .inr rfl
  texts _ := rfl
  oversized _ := rfl

/-- What decomposes differs only in private attributes of plain objects from something
else, and so does what comes out; the other fails where it does. -/
theorem decompose_redacted {h h' : Host}
    (hsame : h.redacted RecordKind.isPlain = h'.redacted RecordKind.isPlain) :
    h.decompose.map (Structured.redacted RecordKind.isPlain) =
      h'.decompose.map (Structured.redacted RecordKind.isPlain) := by
  rw [← rewriting_redacted.decompose_value, ← rewriting_redacted.decompose_value, hsame]

end Redacted

end Host

namespace Structured

variable {v : Structured}

/-- The members of a redacted value are those of the value, redacted. -/
theorem members_redacted (redacts : RecordKind → Bool) (v : Structured) :
    (v.redacted redacts).members = v.members.map (Structured.redacted redacts) := by
  cases v with
  | array items => rw [redacted, members, members]
  | object fields =>
    rw [redacted, members, members, List.map_map, List.map_map]
    rfl
  | foreign h =>
    rw [redacted]
    rfl
  | _ =>
    simp only [redacted]
    rfl

/-- A node of a value has its redacted node in the redacted value. -/
theorem within_redacted (redacts : RecordKind → Bool) {node : Structured}
    (h : Within node v) : Within (node.redacted redacts) (v.redacted redacts) := by
  induction h with
  | itself => exact .itself _
  | member hm _ ih =>
    refine .member ?_ ih
    rw [members_redacted]
    exact List.mem_map.mpr ⟨_, hm, rfl⟩

/-- A structured value in which no host value stands is not redacted. -/
theorem redacted_of_no_foreign (redacts : RecordKind → Bool) (v : Structured)
    (hv : ∀ x, ¬ Within (.foreign x) v) : v.redacted redacts = v := by
  induction v using membersInduction with
  | step v ih =>
    have hmembers : ∀ m ∈ v.members, m.redacted redacts = m :=
      fun m hm => ih m hm fun x hx => hv x (.member hm hx)
    cases v with
    | array items =>
      rw [redacted]
      exact congrArg array ((List.map_congr_left hmembers).trans (List.map_id items))
    | object fields =>
      rw [redacted]
      refine congrArg object ((List.map_congr_left fun f hf => ?_).trans (List.map_id fields))
      exact Prod.ext rfl (hmembers f.2 (List.mem_map.mpr ⟨f, hf, rfl⟩))
    | foreign h => exact absurd (.itself _) (hv h)
    | _ => simp only [redacted]

/-- Where no host value stands in a structured value, another one that differs from it in
what is redacted is the same. -/
theorem eq_of_redacted_eq {redacts : RecordKind → Bool} {v v' : Structured}
    (hsame : v.redacted redacts = v'.redacted redacts) (hv : ∀ x, ¬ Within (.foreign x) v) :
    v' = v := by
  rw [redacted_of_no_foreign redacts v hv] at hsame
  have hv' : ∀ x, ¬ Within (.foreign x) v' := by
    intro x hx
    have hredacted := within_redacted redacts hx
    rw [← hsame, redacted] at hredacted
    exact hv _ hredacted
  rw [hsame, redacted_of_no_foreign redacts v' hv']

/-- The keys that a value exposes are its own, if it is an object, and those that its members
expose. -/
theorem exposes_iff {name : String} :
    v.Exposes name ↔ (∃ fields value, v = .object fields ∧ (name, value) ∈ fields) ∨
      ∃ m ∈ v.members, m.Exposes name := by
  constructor
  · rintro ⟨fields, value, hnode, hmem⟩
    cases hnode with
    | itself => exact .inl ⟨fields, value, rfl, hmem⟩
    | member hm h => exact .inr ⟨_, hm, fields, value, h, hmem⟩
  · rintro (⟨fields, value, rfl, hmem⟩ | ⟨m, hm, fields, value, h, hmem⟩)
    · exact ⟨fields, value, .itself _, hmem⟩
    · exact ⟨fields, value, .member hm h, hmem⟩

end Structured

namespace Host

section Exposed

variable {h : Host} {v : Structured} {name : String}

/-- A value that has a layer of its own is no model, and the layer is of its contents. -/
theorem contents_of_flatContents {contents : Contents} (hc : h.flatContents = contents)
    (hnothing : ∀ e, contents ≠ .nothing e) (hstands : ∀ x, contents ≠ .stands x) :
    h.isModel = false ∧ h.contents = contents := by
  cases hm : h.isModel with
  | false => exact ⟨rfl, (readsContents_flat h hm).symm.trans hc⟩
  | true =>
    unfold flatContents at hc
    rw [if_pos hm] at hc
    split at hc
    · exact absurd hc.symm (hnothing _)
    · exact absurd hc.symm (hstands _)

/-- A value with a structured form as it is has no keys in it, or was bound as it is. -/
theorem lists_of_form (hc : h.flatContents = .form v) (hv : v.Exposes name) : h.Lists name := by
  have hscalar : ∀ {u : Structured}, Contents.form u = .form v → u.members = [] →
      (∀ fields, u ≠ .object fields) → h.Lists name := by
    intro u hu hmembers hobject
    cases hu
    rcases Structured.exposes_iff.mp hv with ⟨fields, value, hfields, -⟩ | ⟨m, hm, -⟩
    · exact absurd hfields (hobject fields)
    · rw [hmembers] at hm
      cases hm
  obtain ⟨-, hcontents⟩ :=
    contents_of_flatContents hc (fun _ h => by cases h) fun _ h => by cases h
  cases h with
  | structured u =>
    cases hcontents
    exact .built hv
  | sequence kind items => cases kind <;> cases hcontents
  | record kind fields => cases kind <;> cases hcontents
  | entity o =>
    rw [contents] at hcontents
    split at hcontents <;> cases hcontents
  | _ =>
    first
      | exact hscalar hcontents rfl fun _ hobject => by cases hobject
      | cases hcontents

/-- The texts of the keys of fields are their names. -/
theorem mem_texts_named {fields : List (String × Host)} :
    name ∈ ((named fields).map fun e => e.1.text) ↔ ∃ f ∈ fields, f.1 = name := by
  rw [named, List.map_map]
  exact List.mem_map

/-- The texts of the keys of public attributes are public. -/
theorem isPublic_of_mem_texts {attributes : List (String × Host)}
    (h : name ∈ ((named (attributes.filter fun f => isPublic f.1)).map fun e => e.1.text)) :
    isPublic name = true := by
  obtain ⟨f, hf, rfl⟩ := mem_texts_named.mp h
  exact (List.mem_filter.mp hf).2

/-- The texts of the keys in a layer of fields are public, or the value lists them. -/
theorem public_or_lists_of_fields {list : List (Host × Host)}
    (hc : h.flatContents = .fields list) (hname : name ∈ list.map fun e => e.1.text) :
    isPublic name = true ∨ h.Lists name := by
  obtain ⟨hm, hcontents⟩ :=
    contents_of_flatContents hc (fun _ h => by cases h) fun _ h => by cases h
  cases h with
  | mapping kind entries =>
    cases hcontents
    obtain ⟨e, he, rfl⟩ := List.mem_map.mp hname
    exact .inr (.key he rfl)
  | record kind fields =>
    cases kind with
    | object =>
      cases hcontents
      exact .inl (isPublic_of_mem_texts hname)
    | loose =>
      cases hcontents
      exact .inl (isPublic_of_mem_texts hname)
    | declared =>
      cases hcontents
      obtain ⟨f, hf, rfl⟩ := mem_texts_named.mp hname
      exact .inr (.field hf)
    | model => cases hm
  | handle take attributes =>
    cases hcontents
    exact .inl (isPublic_of_mem_texts hname)
  | sequence kind items =>
    cases kind with
    | wrapped =>
      cases hcontents
      obtain rfl : name = "data" := List.mem_singleton.mp hname
      exact .inl rfl
    | _ => cases hcontents
  | entity o =>
    rw [contents] at hcontents
    split at hcontents
    · cases hcontents
      cases hname
    · cases hcontents
  | _ =>
    first
      | (cases hcontents; done)
      | (cases hcontents; cases hname)

/-- What stands in the parts of a layer is reached through it. -/
theorem exposed_of_acc (hacc : Acc (PartOf flatContents) h) (hv : h.decompose = .ok v)
    (hname : v.Exposes name) :
    isPublic name = true ∨ ∃ x, Reaches flatContents h x ∧ x.Lists name := by
  induction hacc generalizing v with
  | intro h _ ih =>
    have hinside : ∀ x ∈ h.flatContents.parts, ∀ u, x.decompose = .ok u → u.Exposes name →
        isPublic name = true ∨ ∃ y, Reaches flatContents h y ∧ y.Lists name := by
      intro x hx u hu hname
      rcases ih x hx hu hname with hpublic | ⟨y, hy, hlists⟩
      · exact .inl hpublic
      · exact .inr ⟨y, .inside hx hy, hlists⟩
    rw [decompose_eq_assemble_flat] at hv
    have hmirrors := Contents.mirrors_of_assemble hv
    generalize hc : h.flatContents = contents at hmirrors hinside
    cases hmirrors with
    | form v => exact .inr ⟨h, .here h, lists_of_form hc hname⟩
    | elements inside =>
      rcases Structured.exposes_iff.mp hname with ⟨fields, value, hfields, -⟩ | ⟨m, hm, hmname⟩
      · cases hfields
      · obtain ⟨x, hx, hu⟩ := exists_of_forall₂ inside hm
        exact hinside x hx m hu hmname
    | fields inside =>
      rcases Structured.exposes_iff.mp hname with ⟨fields, value, hfields, hmem⟩ | ⟨m, hm, hmname⟩
      · cases hfields
        obtain ⟨e, he, hkey, -⟩ := exists_of_forall₂ inside hmem
        rcases public_or_lists_of_fields hc (List.mem_map.mpr ⟨e, he, hkey⟩) with
          hpublic | hlists
        · exact .inl hpublic
        · exact .inr ⟨h, .here h, hlists⟩
      · obtain ⟨u, hu, rfl⟩ := List.mem_map.mp hm
        obtain ⟨e, he, -, hvalue⟩ := exists_of_forall₂ inside hu
        exact hinside e.2 (List.mem_map_of_mem he) u.2 hvalue hmname
    | stands inside => exact hinside _ List.mem_cons_self _ inside hname

/-- What is reached from something that is reached is reached. -/
theorem Reaches.trans {c : Host → Contents} {x y : Host} (hx : Reaches c h x)
    (hy : Reaches c x y) : Reaches c h y := by
  induction hx with
  | here => exact hy
  | inside hpart _ ih => exact .inside hpart (ih hy)

/-- The object of something with attributes that is reached has the names of its public
ones, in order, where the value decomposes. -/
theorem keys_of_reached (hv : h.decompose = .ok v) {x : Host} {attributes : List (String × Host)}
    (hx : x.decompose = decomposeEach (attributes.filter fun f => isPublic f.1))
    (hr : Reaches flatContents h x) :
    ∃ fields, x.decompose = .ok (.object fields) ∧
      Assoc.keys fields = Assoc.keys (attributes.filter fun f => isPublic f.1) := by
  have hreached := (characterized_flat h).succeeds.mp ⟨v, hv⟩
  obtain ⟨u, hu⟩ := (characterized_flat x).succeeds.mpr fun y hy => hreached y (hr.trans hy)
  obtain ⟨-, fields, rfl, hnamed⟩ := decomposeEach_eq_ok_iff.mp (hx.symm.trans hu)
  exact ⟨fields, hu, keys_of_decomposed hnamed⟩

end Exposed

/-- Private attributes of plain objects have no part in what a value decomposes to. Values
that differ in them alone fail alike, or decompose to what differs in them alone; to the same,
if no host value stands in it. Whatever a value decomposes to, the plain objects and the
handles in it show their public attributes and nothing else, and every key that is not
public is one that the value lists otherwise. -/
theorem decompose_public (h : Host) :
    (∀ h' : Host, h.redacted RecordKind.isPlain = h'.redacted RecordKind.isPlain →
      (∀ e, h.decompose = .error e ↔ h'.decompose = .error e) ∧
      ∀ v, h.decompose = .ok v → ∃ v', h'.decompose = .ok v' ∧
        v.redacted RecordKind.isPlain = v'.redacted RecordKind.isPlain ∧
        ((∀ x, ¬ Structured.Within (.foreign x) v) → v' = v)) ∧
    ∀ v, h.decompose = .ok v →
      (∀ kind attributes, kind.isPlain = true → Reaches flatContents h (.record kind attributes) →
        ∃ fields, (record kind attributes).decompose = .ok (.object fields) ∧
          Assoc.keys fields = Assoc.keys (attributes.filter fun f => isPublic f.1)) ∧
      (∀ take attributes, Reaches flatContents h (.handle take attributes) →
        ∃ fields, (handle take attributes).decompose = .ok (.object fields) ∧
          Assoc.keys fields = Assoc.keys (attributes.filter fun f => isPublic f.1)) ∧
      ∀ name, v.Exposes name →
        isPublic name = true ∨ ∃ x, Reaches flatContents h x ∧ x.Lists name := by
  refine ⟨fun h' hsame => ?_, fun v hv => ⟨?_, ?_, fun name hname => ?_⟩⟩
  · have hmap := decompose_redacted hsame
    refine ⟨fun e => ?_, fun v hv => ?_⟩
    · rw [← map_eq_error_iff, hmap, map_eq_error_iff]
    · have hv' : h'.decompose.map (Structured.redacted RecordKind.isPlain) =
          .ok (v.redacted RecordKind.isPlain) := hmap.symm.trans (map_eq_ok_iff.mpr ⟨v, hv, rfl⟩)
      obtain ⟨v', hdecompose, hredacted⟩ := map_eq_ok_iff.mp hv'
      exact ⟨v', hdecompose, hredacted, Structured.eq_of_redacted_eq hredacted⟩
  · exact fun kind attributes hk hr => keys_of_reached hv (decompose_attributes hk attributes) hr
  · exact fun take attributes hr => keys_of_reached hv (decompose_handle take attributes) hr
  · exact exposed_of_acc (acc_flat_steps.value h).1 hv hname

/-- A declared record with a plain object that keeps a value private. -/
def reticent (secret : Host) : Host :=
  .record .declared
    [("p", .record .object [("visible", .string "yes"), ("_hidden", secret)])]

/-- What it decomposes to. -/
def reticentShown : Structured :=
  .object [("p", .object [("visible", .string "yes")])]

/-- Bytes have no structured form, and as a private attribute they are left out like any
other value. -/
theorem decompose_public_reticent :
    (reticent .null).redacted RecordKind.isPlain =
      (reticent (.binary .fixed [0])).redacted RecordKind.isPlain ∧
    (reticent .null).decompose = .ok reticentShown ∧
    (reticent (.binary .fixed [0])).decompose = .ok reticentShown ∧
    ∃ fields, (record .object [("visible", .string "yes"), ("_hidden", .null)]).decompose =
        .ok (.object fields) ∧ Assoc.keys fields = ["visible"] := by
  have hvisible : isPublic "visible" = true := rfl
  have hhidden : isPublic "_hidden" = false := rfl
  have hsame : (reticent .null).redacted RecordKind.isPlain =
      (reticent (.binary .fixed [0])).redacted RecordKind.isPlain := by
    simp [reticent, redacted, hvisible, hhidden, RecordKind.isPlain]
  have hnull : (reticent .null).decompose = .ok reticentShown := rfl
  have hforeign : ∀ x, ¬ Structured.Within (.foreign x) reticentShown := by
    intro x hx
    cases hx with
    | member hobject hx =>
      cases List.mem_singleton.mp hobject
      cases hx with
      | member htext hx =>
        cases List.mem_singleton.mp htext
        cases hx with
        | member hnone _ => cases hnone
  have hreached : Reaches flatContents (reticent .null)
      (.record .object [("visible", .string "yes"), ("_hidden", .null)]) :=
    .inside List.mem_cons_self (.here _)
  obtain ⟨hdiffer, hshown⟩ := decompose_public (reticent .null)
  obtain ⟨v', hv', -, hequal⟩ := (hdiffer _ hsame).2 _ hnull
  rw [hequal hforeign] at hv'
  exact ⟨hsame, hnull, hv', (hshown _ hnull).1 .object _ rfl hreached⟩

/-- The private fields of declared records are shown: leaving them out of a value changes
what it decomposes to. -/
theorem not_decompose_public_declared :
    ¬ ∀ h h' : Host, h.redacted (fun _ => true) = h'.redacted (fun _ => true) →
      h.decompose = h'.decompose := by
  intro hall
  have hx : isPublic "x" = true := rfl
  have hhidden : isPublic "_x" = false := rfl
  have hsame : (record .declared [("x", .int 1), ("_x", .int 2)]).redacted (fun _ => true) =
      (record .declared [("x", .int 1)]).redacted fun _ => true := by
    simp [redacted, hx, hhidden]
  have hshown : (record .declared [("x", .int 1), ("_x", .int 2)]).decompose =
      .ok (.object [("x", .int 1), ("_x", .int 2)]) := rfl
  have hpublic : (record .declared [("x", .int 1)]).decompose =
      .ok (.object [("x", .int 1)]) := rfl
  have hequal := hall _ _ hsame
  rw [hshown, hpublic] at hequal
  cases hequal

end Host

end LiveSession
