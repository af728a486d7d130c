import LiveSession.Plain
import LiveSession.Proofs.Decompose.Layers
import LiveSession.Proofs.Structured.Closed

/-!
# Structured values survive their plain form

The plain value of a closed value is a document: a scalar, a list of documents,
or a mapping from distinct texts to documents. Decomposing it gives the value
back, node by node: every scalar keeps its kind, every array the order of its
items, and every object its fields, since texts stand for themselves as keys
and none is listed twice.
-/

namespace LiveSession

namespace Host

/-- What a client receives: scalars, lists, and mappings from distinct texts. -/
inductive IsDocument : Host → Prop
  | null : IsDocument .null
  | bool (b : Bool) : IsDocument (.bool b)
  | string (s : String) : IsDocument (.string s)
  | int (i : Int) : IsDocument (.int i)
  | double (d : Double) : IsDocument (.double d)
  | decimal (d : Decimal) : IsDocument (.decimal d)
  | list {items : List Host} (h : ∀ item ∈ items, IsDocument item) : IsDocument (.list items)
  | object {fields : List (String × Host)} (hd : distinctKeys fields = true)
      (h : ∀ field ∈ fields, IsDocument field.2) : IsDocument (.object fields)

end Host

namespace Structured

/-- A value has a document that decomposes to it. -/
def Survives (v : Structured) : Prop :=
  ∃ w, v.plain = .ok w ∧ w.IsDocument ∧ w.decompose = .ok v

/-- Items survive together. -/
theorem plainItems_survive {items : List Structured} (h : ∀ v ∈ items, v.Survives) :
    ∃ ws, plainItems items = .ok ws ∧ (∀ w ∈ ws, w.IsDocument) ∧
      List.Forall₂ (fun w v => w.decompose = .ok v) ws items := by
  induction items with
  | nil =>
    refine ⟨[], ?_, (fun _ hw => nomatch hw), .nil⟩
    rw [plainItems]
  | cons v rest ih =>
    obtain ⟨hv, hrest⟩ := List.forall_mem_cons.mp h
    obtain ⟨w, hplain, hdoc, hback⟩ := hv
    obtain ⟨ws, hplains, hdocs, hbacks⟩ := ih hrest
    refine ⟨w :: ws, ?_, List.forall_mem_cons.mpr ⟨hdoc, hdocs⟩, .cons hback hbacks⟩
    rw [plainItems.eq_def]
    simp only [hplain, hplains]

/-- Fields survive together, under their keys. -/
theorem plainFields_survive {fields : List (String × Structured)}
    (h : ∀ field ∈ fields, field.2.Survives) :
    ∃ ws, plainFields fields = .ok ws ∧ Assoc.keys ws = Assoc.keys fields ∧
      (∀ w ∈ ws, w.2.IsDocument) ∧
      List.Forall₂ (fun w f => w.1 = f.1 ∧ w.2.decompose = .ok f.2) ws fields := by
  induction fields with
  | nil =>
    refine ⟨[], ?_, rfl, (fun _ hw => nomatch hw), .nil⟩
    rw [plainFields]
  | cons field rest ih =>
    obtain ⟨hfield, hrest⟩ := List.forall_mem_cons.mp h
    obtain ⟨w, hplain, hdoc, hback⟩ := hfield
    obtain ⟨ws, hplains, hkeys, hdocs, hbacks⟩ := ih hrest
    refine ⟨(field.1, w) :: ws, ?_, congrArg (field.1 :: ·) hkeys,
      List.forall_mem_cons.mpr ⟨hdoc, hdocs⟩, .cons ⟨rfl, hback⟩ hbacks⟩
    rw [plainFields.eq_def]
    simp only [hplain, hplains]

/-- Every closed value survives its plain form. -/
theorem survives_of_isClosed {v : Structured} (hv : v.isClosed = true) : v.Survives := by
  induction v, hv using closedInduction with
  | null => exact ⟨.null, by rw [plain], .null, by rw [Host.decompose, Host.decomposeIn]⟩
  | bool b => exact ⟨.bool b, by rw [plain], .bool b, by rw [Host.decompose, Host.decomposeIn]⟩
  | string s =>
    exact ⟨.string s, by rw [plain], .string s, by rw [Host.decompose, Host.decomposeIn]⟩
  | int i => exact ⟨.int i, by rw [plain], .int i, by rw [Host.decompose, Host.decomposeIn]⟩
  | double d =>
    exact ⟨.double d, by rw [plain], .double d, by rw [Host.decompose, Host.decomposeIn]⟩
  | decimal d =>
    exact ⟨.decimal d, by rw [plain], .decimal d, by rw [Host.decompose, Host.decomposeIn]⟩
  | array items hv ih =>
    obtain ⟨ws, hplain, hdocs, hback⟩ := plainItems_survive ih
    refine ⟨.list ws, ?_, .list hdocs, ?_⟩
    · rw [plain, hplain]
    · rw [Host.decompose_list_eq, mapM_eq_ok_iff.mpr hback]
      rfl
  | object fields hv ih =>
    obtain ⟨ws, hplain, hkeys, hdocs, hback⟩ := plainFields_survive ih
    -- The document has the keys of the value, so it lists none twice either.
    have hd : (Assoc.keys ws).Nodup := by
      rw [hkeys]
      exact (distinctKeys_iff fields).mp (isClosed_object.mp hv).1
    refine ⟨.object ws, ?_, .object ((distinctKeys_iff ws).mpr hd) hdocs, ?_⟩
    · rw [plain, hplain]
    · rw [Host.decompose_object]
      exact Host.decomposeEach_eq_ok_iff.mpr ⟨hd, fields, rfl, hback⟩

/-- Decomposing the plain value of a closed value gives the value back; so the
plain value of what a host value decomposed to decomposes to the same. -/
theorem decompose_plain {v : Structured} (hv : v.isClosed = true) :
    ∃ w, v.plain = .ok w ∧ w.IsDocument ∧ w.decompose = .ok v ∧
      ∀ h : Host, h.decompose = .ok v → w.decompose = h.decompose := by
  obtain ⟨w, hplain, hdoc, hback⟩ := survives_of_isClosed hv
  exact ⟨w, hplain, hdoc, hback, fun h hh => hback.trans hh.symm⟩

/-- A tuple and a mapping from numbers inside a mapping, its keys out of order. -/
def nestedHost : Host :=
  .object [("b", .sequence .tuple [.bool true, .int 1, .null]),
    ("a", .mapping .plain [(.int 2, .decimal ⟨"1.50"⟩), (.string "", .string "1")])]

/-- What they decompose to. -/
def nestedValue : Structured :=
  .object [("b", .array [.bool true, .int 1, .null]),
    ("a", .object [("2", .decimal ⟨"1.50"⟩), ("", .string "1")])]

/-- They decompose to a value that survives its plain form. -/
theorem decompose_plain_nested :
    nestedValue.isClosed = true ∧ nestedHost.decompose = .ok nestedValue ∧
      ∃ w, nestedValue.plain = .ok w ∧ w.decompose = nestedHost.decompose := by
  have hv : nestedValue.isClosed = true := rfl
  have hh : nestedHost.decompose = .ok nestedValue := rfl
  obtain ⟨w, hplain, -, -, hagain⟩ := decompose_plain hv
  exact ⟨hv, hh, w, hplain, hagain nestedHost hh⟩

end Structured

end LiveSession
