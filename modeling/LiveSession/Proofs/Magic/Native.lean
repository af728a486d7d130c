import LiveSession.Proofs.Decompose.Native
import LiveSession.Proofs.Magic.Agreement
import LiveSession.Proofs.Magic.Sampling
import LiveSession.Proofs.Structured.Classified

/-!
# Magics on native values

What a native value decomposes to is well formed at every depth: each node has one of the
eight shapes and the keys of each object are distinct. So it has a plain value, and it is
refused as a table for mixed types at most. A magic that finds a native value responds
with it or with an error, unless the sampling of a handle is interrupted.
-/

namespace LiveSession

variable {σ : Type}

namespace Structured

/-- What can be relied on in a structured value. -/
structure WellFormed (v : Structured) : Prop where
  /-- Every node has one of the eight shapes. -/
  shaped : v.Shaped
  /-- No object in it lists a key twice. -/
  keyed : ∀ fields, Within (.object fields) v → (Assoc.keys fields).Nodup
  /-- It can be sent to a client. -/
  plain : ∃ w, v.plain = .ok w
  /-- It has a canonical type, unless types are mixed in it. -/
  classified : ∀ mismatch, v.classify = .error mismatch → mismatch = .mixed
  /-- It has a table, unless types are mixed in a column. -/
  inferred : ∀ mismatch, Table.infer v = .error mismatch → mismatch = .mixed
  /-- There is a response that shows it as a table, or an error in its place. -/
  tabled : ∃ r, Response.ofTable v = .ok r

/-- The members of a closed value are closed. -/
theorem isClosed_of_mem_members {v m : Structured} (hv : v.isClosed = true) (hm : m ∈ v.members) :
    m.isClosed = true := by
  cases v with
  | array items => exact isClosed_array.mp hv m hm
  | object fields =>
    obtain ⟨f, hf, rfl⟩ := List.mem_map.mp hm
    exact (isClosed_object.mp hv).2 f hf
  | _ => cases hm

/-- The nodes of a closed value are closed. -/
theorem Within.isClosed {node v : Structured} (h : Within node v) (hv : v.isClosed = true) :
    node.isClosed = true := by
  induction h with
  | itself => exact hv
  | member hm _ ih => exact ih (isClosed_of_mem_members hv hm)

/-- A closed value has a shape. -/
theorem shape?_isSome {v : Structured} (hv : v.isClosed = true) : v.shape?.isSome = true := by
  cases v with
  | shapeless => cases hv
  | foreign h => cases hv
  | _ => rfl

/-- A closed value is well formed. -/
theorem wellFormed_of_isClosed {v : Structured} (hv : v.isClosed = true) : v.WellFormed where
  shaped node hnode := shape?_isSome (hnode.isClosed hv)
  keyed fields hnode := (distinctKeys_iff fields).mp (isClosed_object.mp (hnode.isClosed hv)).1
  plain := exists_plain hv
  classified _ h := classify_error hv h
  inferred _ h := Table.infer_error (fun _ hx => Table.isClosed_of_mem_cellsOf hv hx) h
  tabled := by
    obtain ⟨r, hr⟩ := Magic.asTable_closed hv
    change (Response.ofTable v).mapError Escape.notStructured = .ok r at hr
    cases ht : Response.ofTable v with
    | ok r' => exact ⟨r', rfl⟩
    | error name =>
      rw [ht] at hr
      cases hr

end Structured

namespace Magic

/-- What is sampled of a native value is native. -/
theorem sampled_native {limit : Int} {h value : Host} (hn : h.IsNative)
    (hs : sampled limit h = .ok value) : value.IsNative := by
  cases h with
  | handle take attributes =>
    obtain ⟨taken, elements, htake, helements, rfl⟩ := sampled_handle hs
    exact Host.isNative_sequence.mpr ((hn.taken htake).elements helements)
  | _ =>
    cases hs
    exact hn

section

variable {e : Engine σ} {limit : Int} {m : Magic} {s : Session σ} {h : Host}

/-- What is well formed is shown, or an error is in its place. -/
theorem showing_wellFormed {result : Except DecomposeError Structured}
    (hv : ∀ v, result = .ok v → v.WellFormed) : ∃ r, m.showing result = .ok r := by
  cases result with
  | error err => exact ⟨conversionError, rfl⟩
  | ok v =>
    unfold showing
    dsimp only
    split
    · exact ⟨_, rfl⟩
    · obtain ⟨r, hr⟩ := (hv v rfl).tabled
      rw [hr]
      exact ⟨r, rfl⟩

/-- A value that cannot be sampled is answered with an error, unless it interrupts. -/
theorem dispatch_of_unsampled (hm : m.shows = true)
    (hl : (e.lookup m.argument s.engine).1 = .ok h) {f : Fault} (hs : sampled limit h = .error f)
    (hf : f.interrupts = false) : (dispatch e limit m s).1 = .ok conversionError := by
  rw [dispatch_of_found e limit hm hl]
  unfold structuredForm
  rw [sample_eq, hs]
  dsimp only
  rw [hf, if_neg Bool.false_ne_true]
  rfl

/-- What a native value decomposes to is well formed, and a magic that finds the value
responds: with what the value, or a sample of it, decomposes to, if it does. Only an
interruption of the sampling, where the value is a handle, passes through. -/
theorem native_shown (e : Engine σ) (he : e.DecomposesByDefault) (h : Host) (hn : h.IsNative) :
    (∀ v, h.decompose = .ok v → v.WellFormed) ∧
      ∀ (limit : Int) (m : Magic) (s : Session σ), m.shows = true →
        (e.lookup m.argument s.engine).1 = .ok h →
          (∃ r, (dispatch e limit m s).1 = .ok r ∧
            ∀ value, sampled limit h = .ok value → m.showing value.decompose = .ok r) ∨
          ∃ take attributes f, h = .handle take attributes ∧ take limit = .error f ∧
            f.interrupts = true ∧
            (dispatch e limit m s).1 = .error (.fault f) := by
  have hwell : ∀ {value : Host}, value.IsNative → ∀ v, value.decompose = .ok v → v.WellFormed :=
    fun hv v hd => Structured.wellFormed_of_isClosed (hv.decompose_isClosed hd)
  refine ⟨hwell hn, fun limit m s hm hl => ?_⟩
  cases hs : sampled limit h with
  | ok value =>
    obtain ⟨r, hr⟩ := showing_wellFormed (m := m) (hwell (sampled_native hn hs))
    refine .inl ⟨r, (dispatch_of_default he hm hl hs).trans hr, fun value' hvalue => ?_⟩
    cases hvalue
    exact hr
  | error f =>
    cases hf : f.interrupts with
    | false =>
      exact .inl ⟨_, dispatch_of_unsampled hm hl hs hf, fun value' hvalue => nomatch hvalue⟩
    | true =>
      rcases sampled_error hs with hno | ⟨take, attributes, rfl, ht⟩
      · cases hno.symm.trans hf
      · exact .inr ⟨take, attributes, f, rfl, ht, hf, dispatch_of_interrupted hm hl ht hf⟩

end

/-- A set and a mapping as rows, with cells of two types in one column. -/
def mixedHost : Host :=
  .list [.sequence .set [.int 1], .mapping .plain [(.int 0, .string "x")]]

/-- An engine in which every name is bound to them. -/
def mixedShelf : Engine Unit :=
  { echo with lookup := fun _ s => (.ok mixedHost, s) }

/-- They are well formed, and shown as a table they are an error. -/
theorem native_shown_mixed :
    mixedShelf.DecomposesByDefault ∧ mixedHost.IsNative ∧
      Structured.WellFormed (.array [.array [.int 1], .object [("0", .string "x")]]) ∧
      ∃ r, (dispatch mixedShelf 3 ⟨"table", "x"⟩ { engine := () }).1 = .ok r ∧
        showing ⟨"table", "x"⟩ mixedHost.decompose = .ok r := by
  have he : mixedShelf.DecomposesByDefault := fun _ _ => rfl
  have hn : mixedHost.IsNative := by
    refine Host.isNative_sequence.mpr (List.forall_mem_cons.mpr
      ⟨Host.isNative_sequence.mpr ?_, List.forall_mem_singleton.mpr fun v hv => ?_⟩)
    · exact List.forall_mem_singleton.mpr (Host.isNative_atom rfl)
    · cases hv with
      | key hmem inside =>
        cases List.mem_singleton.mp hmem
        cases inside
      | value hmem inside =>
        cases List.mem_singleton.mp hmem
        cases inside
  obtain ⟨hwell, hshown⟩ := native_shown mixedShelf he mixedHost hn
  refine ⟨he, hn, hwell _ rfl, ?_⟩
  rcases hshown 3 ⟨"table", "x"⟩ { engine := () } rfl rfl with
    ⟨r, hr, hshows⟩ | ⟨take, attributes, f, hh, -⟩
  · exact ⟨r, hr, hshows mixedHost rfl⟩
  · cases hh

/-- A sampling that is interrupted. -/
def interruptedTake (_ : Int) : Except Fault Host :=
  .error ⟨"KeyboardInterrupt", .interruption, []⟩

/-- An engine in which every name is bound to a handle with that sampling. -/
def interruptedShelf : Engine Unit :=
  { echo with lookup := fun _ s => (.ok (.handle interruptedTake []), s) }

/-- The handle is native and decomposes, and still neither magic responds. -/
theorem not_native_responds :
    (Host.handle interruptedTake []).IsNative ∧
      (Host.handle interruptedTake []).decompose = .ok (.object []) ∧
      interruptedShelf.DecomposesByDefault ∧
      ¬ ∀ (m : Magic) (s : Session Unit), m.shows = true →
        (interruptedShelf.lookup m.argument s.engine).1 = .ok (.handle interruptedTake []) →
          ∃ r, (dispatch interruptedShelf 10 m s).1 = .ok r := by
  refine ⟨?_, rfl, fun _ _ => rfl, fun hall => ?_⟩
  · intro v hv
    cases hv with
    | taken given _ => cases given
    | owned hmem _ => cases hmem
  · obtain ⟨r, hr⟩ := hall ⟨"json", "v"⟩ { engine := () } rfl rfl
    cases hr

end Magic

end LiveSession
