import LiveSession.Proofs.Response.Merge
import LiveSession.Proofs.Structured.Plain

/-!
# What a client can tell of a response

A deliverable response is console text, a closed structured value, a table of
closed cells, an error, the news that a statement is incomplete, or an abort.
Each has a plain value, and no two have the same: the status tells the variants
apart, the media type what a success holds, and the plain value of a structured
value or a table tells it from every other. Merging keeps responses deliverable.
-/

namespace LiveSession

/-- Closed values with one plain value are the same: decomposing it gives them back. -/
theorem Structured.plain_inj {v v' : Structured} {w : Host} (hv : v.isClosed = true)
    (hv' : v'.isClosed = true) (h : v.plain = .ok w) (h' : v'.plain = .ok w) : v = v' := by
  obtain ⟨u, hu, -, hback⟩ := survives_of_isClosed hv
  obtain ⟨u', hu', -, hback'⟩ := survives_of_isClosed hv'
  cases h.symm.trans hu
  cases h'.symm.trans hu'
  exact Except.ok.inj (hback.symm.trans hback')

/-- Types with one tag are the same. -/
theorem CanonicalType.tag_injective : Function.Injective CanonicalType.tag := by
  intro t t'
  cases t <;> cases t' <;> decide

/-- Headers with one plain value are the same. -/
theorem Header.plain_injective : Function.Injective Header.plain := by
  intro h h' heq
  have hfields := Host.object_inj.mp heq
  simp only [List.cons.injEq, Prod.mk.injEq, Host.string.injEq, true_and, and_true] at hfields
  obtain ⟨hname, htype⟩ := hfields
  cases h
  cases h'
  cases hname
  cases CanonicalType.tag_injective htype
  rfl

namespace Table

/-- Tables of closed cells with one plain value are the same. -/
theorem plain_inj {t t' : Table} {w : Host} (ht : t.IsClosed) (ht' : t'.IsClosed)
    (h : t.plain = .ok w) (h' : t'.plain = .ok w) : t = t' := by
  obtain ⟨rows, hrows, rfl⟩ := plain_eq_ok.mp h
  obtain ⟨rows', hrows', heq⟩ := plain_eq_ok.mp h'
  have hfields := Host.object_inj.mp heq
  simp only [List.cons.injEq, Prod.mk.injEq, Host.list_inj, true_and, and_true] at hfields
  obtain ⟨hheaders, rfl⟩ := hfields
  have hdata : t.data = t'.data := by
    refine eq_of_mapM hrows hrows' fun cells hcells cells' hcells' row hrow hrow' => ?_
    obtain ⟨ws, hws, rfl⟩ := plainRow_eq_ok.mp hrow
    obtain ⟨ws', hws', hlist⟩ := plainRow_eq_ok.mp hrow'
    cases Host.list_inj.mp hlist
    exact eq_of_mapM hws hws' fun v hv v' hv' w hw hw' =>
      Structured.plain_inj (ht cells hcells v hv) (ht' cells' hcells' v' hv') hw hw'
  have hsame : t.headers = t'.headers := Header.plain_injective.list_map hheaders
  cases t
  cases t'
  cases hdata
  cases hsame
  rfl

end Table

namespace Response

/-- What a success can hold, under its media type. -/
inductive Held : String → Entry → Prop
  | text (s : String) : Held plainTextMedia (.text s)
  | structured {v : Structured} (hv : v.isClosed = true) : Held structuredMedia (.structured v)
  | table {t : Table} (ht : t.IsClosed) : Held tableMedia (.table t)

/-- What a session can respond. -/
inductive Deliverable : Response → Prop
  | success {media : String} {entry : Entry} (h : Held media entry) :
      Deliverable (.success [(media, entry)])
  | error (kind name : String) (traceback : List String) : Deliverable (.error kind name traceback)
  | incomplete : Deliverable .incomplete
  | aborted (message : String) : Deliverable (.aborted message)

/-- The plain value of a success with one entry, of which the plain value is given. -/
def document (media : String) (w : Host) : Host :=
  .object [("status", .string "ok"), ("data", .object [(media, w)])]

/-- Successes with one plain value have the same media type and the same plain entry. -/
theorem document_inj {media media' : String} {w w' : Host} :
    document media w = document media' w' ↔ media = media' ∧ w = w' := by
  unfold document
  rw [Host.object_inj]
  simp only [List.cons.injEq, Prod.mk.injEq, Host.object_inj, true_and, and_true]

/-- A success with one entry is plainly the document of its plain entry. -/
theorem plain_success {media : String} {entry : Entry} {w : Host} :
    (success [(media, entry)]).plain = .ok w ↔
      ∃ u, entry.plain = .ok u ∧ w = document media u := by
  have hmap : (success [(media, entry)]).plain = entry.plain.map (document media) := by
    have hpayload : plainPayload [(media, entry)] = entry.plain.map fun u => [(media, u)] := by
      rw [plainPayload]
      cases entry.plain with
      | error e => rfl
      | ok u => rfl
    unfold plain
    dsimp only
    rw [hpayload]
    cases entry.plain with
    | error e => rfl
    | ok u => rfl
  rw [hmap, map_eq_ok_iff]

/-- What a success can hold has a plain value. -/
theorem Held.exists_plain {media : String} {entry : Entry} (h : Held media entry) :
    ∃ w, entry.plain = .ok w := by
  cases h with
  | text s => exact ⟨.string s, rfl⟩
  | structured hv => exact Structured.exists_plain hv
  | table ht => exact Table.exists_plain ht

/-- What successes hold under one media type is the same if its plain value is. -/
theorem Held.plain_inj {media media' : String} {entry entry' : Entry} (h : Held media entry)
    (h' : Held media' entry') (hmedia : media = media') {w : Host} (hw : entry.plain = .ok w)
    (hw' : entry'.plain = .ok w) : entry = entry' := by
  cases h with
  | text s =>
    cases h' with
    | text s' =>
      cases hw
      cases hw'
      rfl
    | structured hv => exact absurd hmedia (by decide)
    | table ht => exact absurd hmedia (by decide)
  | structured hv =>
    cases h' with
    | text s => exact absurd hmedia (by decide)
    | structured hv' => exact congrArg Entry.structured (Structured.plain_inj hv hv' hw hw')
    | table ht => exact absurd hmedia (by decide)
  | table ht =>
    cases h' with
    | text s => exact absurd hmedia (by decide)
    | structured hv => exact absurd hmedia (by decide)
    | table ht' => exact congrArg Entry.table (Table.plain_inj ht ht' hw hw')

/-- The plain value of a response begins with its status. -/
theorem status_of_plain {r : Response} {w : Host} (h : r.plain = .ok w) :
    ∃ rest, w = .object (("status", .string r.status) :: rest) := by
  unfold plain at h
  cases r with
  | success payload =>
    dsimp only at h
    cases hp : plainPayload payload with
    | error e =>
      rw [hp] at h
      cases h
    | ok data =>
      rw [hp] at h
      cases h
      exact ⟨_, rfl⟩
  | _ =>
    cases h
    exact ⟨_, rfl⟩

/-- Responses with one plain value have the same status. -/
theorem status_eq_of_plain {r r' : Response} {w : Host} (h : r.plain = .ok w)
    (h' : r'.plain = .ok w) : r.status = r'.status := by
  obtain ⟨rest, rfl⟩ := status_of_plain h
  obtain ⟨rest', heq⟩ := status_of_plain h'
  have hfields := Host.object_inj.mp heq
  simp only [List.cons.injEq, Prod.mk.injEq, Host.string.injEq, true_and] at hfields
  exact hfields.1

namespace Deliverable

/-- Console text is deliverable. -/
theorem text (s : String) : Deliverable (plainText s) :=
  .success (.text s)

/-- A deliverable response has a plain value. -/
theorem exists_plain {r : Response} (h : r.Deliverable) : ∃ w, r.plain = .ok w := by
  cases h with
  | success he =>
    obtain ⟨u, hu⟩ := he.exists_plain
    exact ⟨_, plain_success.mpr ⟨u, hu, rfl⟩⟩
  | error kind name traceback => exact ⟨_, rfl⟩
  | incomplete => exact ⟨_, rfl⟩
  | aborted message => exact ⟨_, rfl⟩

/-- Deliverable responses with one plain value are the same. -/
theorem plain_inj {r r' : Response} (h : r.Deliverable) (h' : r'.Deliverable) {w : Host}
    (hw : r.plain = .ok w) (hw' : r'.plain = .ok w) : r = r' := by
  have hstatus : r.status = r'.status := status_eq_of_plain hw hw'
  cases h with
  | success he =>
    cases h' with
    | success he' =>
      obtain ⟨u, hu, rfl⟩ := plain_success.mp hw
      obtain ⟨u', hu', heq⟩ := plain_success.mp hw'
      obtain ⟨rfl, rfl⟩ := document_inj.mp heq
      rw [he.plain_inj he' rfl hu hu']
    | _ => exact absurd hstatus (by simp [status])
  | error kind name traceback =>
    cases h' with
    | error kind' name' traceback' =>
      have heq := Host.object_inj.mp (Except.ok.inj (hw.trans hw'.symm))
      simp only [List.cons.injEq, Prod.mk.injEq, Host.string.injEq, Host.list_inj, true_and,
        and_true] at heq
      obtain ⟨rfl, rfl, htraceback⟩ := heq
      have hstring : Function.Injective Host.string := fun _ _ h => Host.string.inj h
      rw [hstring.list_map htraceback]
    | _ => exact absurd hstatus (by simp [status])
  | incomplete =>
    cases h' with
    | incomplete => rfl
    | _ => exact absurd hstatus (by simp [status])
  | aborted message =>
    cases h' with
    | aborted message' =>
      have heq := Host.object_inj.mp (Except.ok.inj (hw.trans hw'.symm))
      simp only [List.cons.injEq, Prod.mk.injEq, Host.string.injEq, true_and, and_true] at heq
      rw [heq]
    | _ => exact absurd hstatus (by simp [status])

/-- The text of a deliverable success is all that it holds. -/
theorem eq_plainText {payload : List (String × Entry)} {entry : Entry}
    (h : Deliverable (.success payload)) (ht : textOf payload = some entry) :
    ∃ s, entry = .text s ∧ Response.success payload = plainText s := by
  cases h with
  | success he =>
    cases he with
    | text s =>
      cases ht
      exact ⟨s, rfl, rfl⟩
    | structured hv => cases ht
    | table ht' => cases ht

/-- Merged deliverable responses are deliverable. -/
theorem merge {older newer : Response} (ho : older.Deliverable) (hn : newer.Deliverable)
    {m : Merged} (hm : Response.merge older newer = .ok m) : m.response.Deliverable := by
  unfold Response.merge at hm
  split at hm
  · split at hm
    · split at hm
      · next before after a b ha hb =>
        obtain ⟨s, rfl, hs⟩ := ho.eq_plainText ha
        obtain ⟨t, rfl, ht⟩ := hn.eq_plainText hb
        obtain ⟨m', hm', hr⟩ := merge_plainText s t
        rw [ht] at hm
        cases hm'.symm.trans hm
        rw [hr]
        exact .text (s ++ t)
      · cases hm
        exact hn
    · cases hm
  · cases hm
    exact hn

end Deliverable

end Response

end LiveSession
