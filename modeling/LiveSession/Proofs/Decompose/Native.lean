import LiveSession.Proofs.Decompose.Rewriting
import LiveSession.Proofs.Host.Native
import LiveSession.Proofs.Structured.Closed

/-!
# Native values decompose into closed ones

Nothing that decomposition makes has a leaf without shape or an object with a
repeated key. Only a structured value that was bound as it is can bring one
along, so what a native value decomposes to is closed.
-/

namespace LiveSession

/-- An object that is made of closed values is closed. -/
theorem Structured.object?_isClosed {fields : List (String × Structured)} {v : Structured}
    (h : object? fields = .ok v) (hf : ∀ f ∈ fields, f.2.isClosed = true) :
    v.isClosed = true := by
  unfold object? at h
  split at h
  · next hd =>
    cases h
    exact isClosed_object.mpr ⟨hd, hf⟩
  · cases h

/-- An object whose fields have closed values or none is closed. -/
theorem Structured.objectOf?_isClosed
    {fields : List (String × Except DecomposeError Structured)} {v : Structured}
    (h : objectOf? fields = .ok v) (hf : ∀ f ∈ fields, ∀ w, f.2 = .ok w → w.isClosed = true) :
    v.isClosed = true := by
  unfold objectOf? at h
  split at h
  · next fs hfs =>
    refine object?_isClosed h fun f hmem => ?_
    obtain ⟨origin, ho, hresult⟩ := (mem_of_mapM hfs).mp hmem
    obtain ⟨w, hw, rfl⟩ := map_eq_ok_iff.mp hresult
    exact hf origin ho w hw
  · cases h

namespace Host

/-- The fields of a mapping have values of its entries. -/
theorem value_of_mem_keyTexts {α : Type} {flat : Bool}
    {entries : List (Host × Except DecomposeError α)} {f : String × Except DecomposeError α}
    (h : f ∈ keyTexts flat entries) {a : α} (ha : f.2 = .ok a) : ∃ e ∈ entries, e.2 = .ok a := by
  unfold keyTexts at h
  obtain ⟨kept, hmem, rfl⟩ := List.mem_map.mp h
  have hvalue := (underKey_eq_ok_iff.mp ha).2
  split at hmem
  · obtain ⟨e, he, hsame⟩ := Assoc.value_of_mem_ofList hmem
    obtain ⟨e', he', rfl⟩ := List.mem_map.mp he
    exact ⟨e', he', hsame.trans hvalue⟩
  · exact ⟨kept, hmem, hvalue⟩

/-- What a native value decomposes to is closed, inside a model and outside. -/
def DecomposesClosed (h : Host) : Prop :=
  h.IsNative → ∀ flat v, decomposeIn flat h = .ok v → v.isClosed = true

section Parts

variable {flat : Bool}

/-- Native elements decompose into closed values. -/
theorem decomposeItems_closed {items : List Host} {vs : List Structured}
    (ih : ∀ h ∈ items, h.DecomposesClosed) (hn : ∀ h ∈ items, h.IsNative)
    (hd : decomposeItems flat items = .ok vs) : ∀ v ∈ vs, v.isClosed = true := by
  rw [decomposeItems_eq] at hd
  intro v hv
  obtain ⟨h, hmem, hh⟩ := (mem_of_mapM hd).mp hv
  exact ih h hmem (hn h hmem) flat v hh

/-- Native fields decompose into closed values. -/
theorem decomposeFields_closed {fields : List (String × Host)} {fs : List (String × Structured)}
    (ih : ∀ f ∈ fields, f.2.DecomposesClosed) (hn : ∀ f ∈ fields, f.2.IsNative)
    (hd : decomposeFields flat fields = .ok fs) : ∀ f ∈ fs, f.2.isClosed = true := by
  rw [decomposeFields_eq] at hd
  intro f hf
  obtain ⟨origin, hmem, ho⟩ := (mem_of_mapM hd).mp hf
  obtain ⟨v, hv, rfl⟩ := map_eq_ok_iff.mp ho
  exact ih origin hmem (hn origin hmem) flat v hv

/-- What the members of a flattened set decompose to is what some of them do. -/
theorem mem_of_decomposeMembers {seen items : List Host} {vs : List Structured}
    (h : decomposeMembers seen items = .ok vs) {v : Structured} (hv : v ∈ vs) :
    ∃ item ∈ items, decomposeIn true item = .ok v := by
  induction items generalizing seen vs with
  | nil =>
    rw [decomposeMembers] at h
    cases h
    cases hv
  | cons item rest ih =>
    have hlater : ∀ {seen vs}, decomposeMembers seen rest = .ok vs → v ∈ vs →
        ∃ item' ∈ item :: rest, decomposeIn true item' = .ok v := by
      intro seen vs h hv
      obtain ⟨item', hmem, hitem⟩ := ih h hv
      exact ⟨item', List.mem_cons_of_mem _ hmem, hitem⟩
    rw [decomposeMembers] at h
    split at h
    · exact hlater h hv
    · split at h
      · cases h
      · next w hw =>
        split at h
        · cases h
        · next ws hws =>
          cases h
          rcases List.mem_cons.mp hv with rfl | hv
          · exact ⟨item, List.mem_cons_self, hw⟩
          · exact hlater hws hv

end Parts

/-- A value without parts decomposes into a closed one. -/
theorem decomposesClosed_atom {h : Host} (ha : h.layout = .atom) : h.DecomposesClosed := by
  intro _ flat v hd
  cases h with
  | sequence kind items => cases ha
  | mapping kind entries => cases ha
  | record kind fields => cases ha
  | envelope root => cases ha
  | handle take attributes => cases ha
  | structured v => cases ha
  | fraction q =>
    rw [decomposeIn] at hd
    split at hd
    · cases hd
      rfl
    · cases hd
  | range start stop step =>
    rw [decomposeIn] at hd
    cases hd
    refine Structured.isClosed_array.mpr fun v hv => ?_
    obtain ⟨i, -, rfl⟩ := List.mem_map.mp hv
    rfl
  | entity o =>
    rw [decomposeIn] at hd
    unfold decomposeEntity at hd
    split at hd
    · cases hd
      rfl
    · cases hd
    · cases hd
  | _ =>
    rw [decomposeIn] at hd
    cases hd <;> rfl

/-- A native run decomposes into a closed value if its members do. -/
theorem decomposesClosed_sequence {kind : SequenceKind} {items : List Host}
    (ih : ∀ h ∈ items, h.DecomposesClosed) : (sequence kind items).DecomposesClosed := by
  intro hn flat v hd
  have hn' := isNative_sequence.mp hn
  by_cases hw : kind = .wrapped
  · subst hw
    rw [decomposeIn] at hd
    cases hitems : decomposeItems false items with
    | error err =>
      rw [hitems] at hd
      cases hd
    | ok vs =>
      rw [hitems] at hd
      cases hd
      have hvs : (Structured.array vs).isClosed = true :=
        Structured.isClosed_array.mpr (decomposeItems_closed ih hn' hitems)
      exact Structured.isClosed_object.mpr ⟨rfl, fun f hf => List.mem_singleton.mp hf ▸ hvs⟩
  · rw [decomposeIn] at hd
    · split at hd
      · split at hd
        · next vs hvs =>
          cases hd
          refine Structured.isClosed_array.mpr ?_
          split at hvs
          · intro v hv
            obtain ⟨item, hmem, hitem⟩ := mem_of_decomposeMembers hvs hv
            exact ih item hmem (hn' item hmem) true v hitem
          · exact decomposeItems_closed ih hn' hvs
        · cases hd
      · cases hd
    · exact hw

/-- A native mapping decomposes into a closed value if its values do. -/
theorem decomposesClosed_mapping {kind : MappingKind} {entries : List (Host × Host)}
    (ih : ∀ e ∈ entries, e.2.DecomposesClosed) : (mapping kind entries).DecomposesClosed := by
  intro hn flat v hd
  rw [decomposeIn, decomposeEntries_eq] at hd
  refine Structured.objectOf?_isClosed hd fun f hf w hw => ?_
  obtain ⟨result, hresult, hvalue⟩ := value_of_mem_keyTexts hf hw
  obtain ⟨e, he, rfl⟩ := List.mem_map.mp hresult
  exact ih e he (hn.entries e he).2 _ w hvalue

/-- A native record decomposes into a closed value if its fields do. -/
theorem decomposesClosed_record {kind : RecordKind} {fields : List (String × Host)}
    (ih : ∀ f ∈ fields, f.2.DecomposesClosed) : (record kind fields).DecomposesClosed := by
  intro hn flat v hd
  have hfields : ∀ {flat : Bool} {some : List (String × Host)} {fs : List (String × Structured)}
      {v : Structured}, (∀ f ∈ some, f ∈ fields) → decomposeFields flat some = .ok fs →
        Structured.object? fs = .ok v → v.isClosed = true := by
    intro flat some fs v hsome hfs hv
    exact Structured.object?_isClosed hv (decomposeFields_closed
      (fun f hf => ih f (hsome f hf)) (fun f hf => hn.fields f (hsome f hf)) hfs)
  have hpublic : ∀ f ∈ fields.filter fun f => isPublic f.1, f ∈ fields :=
    fun f hf => (List.mem_filter.mp hf).1
  cases kind with
  | object =>
    rw [decomposeIn, decomposePublic_eq] at hd
    split at hd
    · next fs hfs => exact hfields hpublic hfs hd
    · cases hd
  | loose =>
    rw [decomposeIn, decomposePublic_eq] at hd
    split at hd
    · next fs hfs => exact hfields hpublic hfs hd
    · cases hd
  | declared =>
    rw [decomposeIn] at hd
    split at hd
    · next fs hfs => exact hfields (fun f hf => hf) hfs hd
    · cases hd
  | model =>
    rw [decomposeIn] at hd
    split at hd
    · cases hd
    · split at hd
      · next fs hfs => exact hfields (fun f hf => hf) hfs hd
      · cases hd

/-- Every native value decomposes into a closed one. -/
theorem decomposesClosed_steps : Steps DecomposesClosed (fun _ => True) where
  atom h ha := decomposesClosed_atom ha
  sequence kind items ih := decomposesClosed_sequence ih
  mapping kind entries ih := decomposesClosed_mapping fun e he => (ih e he).2
  record kind fields ih := decomposesClosed_record ih
  envelope root ih := by
    intro hn flat v hd
    rw [decomposeIn] at hd
    split at hd
    · cases hd
    · exact ih hn.root true v hd
  handle take attributes ih := by
    intro hn flat v hd
    rw [decomposeIn, decomposePublic_eq] at hd
    split at hd
    · next fs hfs =>
      have hpublic : ∀ f ∈ attributes.filter fun f => isPublic f.1, f ∈ attributes :=
        fun f hf => (List.mem_filter.mp hf).1
      exact Structured.object?_isClosed hd (decomposeFields_closed
        (fun f hf => ih f (hpublic f hf)) (fun f hf => hn.attributes f (hpublic f hf)) hfs)
    · cases hd
  structured v _ := fun hn => absurd (.itself v) (hn v)
  leaf v _ := trivial
  array items _ := trivial
  object fields _ := trivial
  foreign h _ := trivial

/-- What a native value decomposes to is closed. -/
theorem IsNative.decompose_isClosed {h : Host} (hn : h.IsNative) {v : Structured}
    (hd : h.decompose = .ok v) : v.isClosed = true :=
  decomposesClosed_steps.value h hn false v hd

end Host

end LiveSession
