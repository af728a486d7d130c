import LiveSession.Proofs.Decompose.Layers
import LiveSession.Proofs.Magic.Shown

/-!
# Samples of a handle

A handle whose sampling yields the first of its items is shown as the array of
what those items decompose to, or not at all if one of them does not. So a
smaller limit gives a prefix of the array, and the items beyond the limit are
never looked at.
-/

namespace LiveSession

variable {σ : Type}

/-- An engine that decomposes values by the default means. -/
def Engine.DecomposesByDefault (e : Engine σ) : Prop :=
  ∀ h state, e.decompose h state =
    match h.decompose with
    | .ok v => (.ok (some (.structured v)), state)
    | .error err => (.error err.fault, state)

namespace Host

/-- A sampling that yields the first of some items, as many as it is asked for. -/
def Yields (take : Int → Except Fault Host) (items : List Host) : Prop :=
  ∀ n : Nat, ∃ taken, take n = .ok taken ∧ taken.elements? = some (items.take n)

/-- What the first items decompose to, in order, or the first defect among them. -/
def decomposeFirst (n : Nat) (items : List Host) : Except DecomposeError (List Structured) :=
  (items.take n).mapM decompose

/-- With a smaller limit the first decompositions come out, wherever they come out with
the greater one. -/
theorem decomposeFirst_of_le {n k : Nat} (hle : n ≤ k) {items : List Host}
    {vs : List Structured} (h : decomposeFirst k items = .ok vs) :
    decomposeFirst n items = .ok (vs.take n) := by
  have htake : (items.take k).take n = items.take n := by
    rw [List.take_take, Nat.min_eq_left hle]
  have hfirst := mapM_take h n
  rw [htake] at hfirst
  exact hfirst

/-- With a smaller limit a prefix of the decompositions comes out. -/
theorem decomposeFirst_isPrefix {n k : Nat} (hle : n ≤ k) {items : List Host}
    {vs ws : List Structured} (hn : decomposeFirst n items = .ok vs)
    (hk : decomposeFirst k items = .ok ws) : vs <+: ws := by
  rw [decomposeFirst_of_le hle hk] at hn
  cases hn
  exact List.take_prefix n ws

end Host

namespace Magic

variable {e : Engine σ} {m : Magic} {s : Session σ}

/-- The response to what a value decomposes to. -/
def showing (m : Magic) : Except DecomposeError Structured → Except Escape Response
  | .ok v =>
    if m.name = "json" then .ok (.success [(structuredMedia, .structured v)])
    else (Response.ofTable v).mapError .notStructured
  | .error _ => .ok conversionError

/-- What a structured value is rendered to. -/
theorem render_structured (m : Magic) (v : Structured) :
    m.render (.structured v) = m.showing (.ok v) := by
  unfold render showing
  split <;> rfl

/-- Sampling a handle decomposes a list of the first of its items. -/
theorem sampled_of_yields {take : Int → Except Fault Host} {items : List Host}
    (hy : Host.Yields take items) (attributes : List (String × Host)) (n : Nat) :
    sampled n (.handle take attributes) = .ok (.list (items.take n)) := by
  obtain ⟨taken, htake, helements⟩ := hy n
  unfold sampled
  dsimp only
  rw [htake]
  dsimp only
  rw [helements]

/-- A value that is decomposed by default is answered with what it, or a sample of it,
decomposes to. -/
theorem dispatch_of_default (he : e.DecomposesByDefault) (hm : m.shows = true) {limit : Int}
    {h value : Host} (hl : (e.lookup m.argument s.engine).1 = .ok h)
    (hs : sampled limit h = .ok value) :
    (dispatch e limit m s).1 = m.showing value.decompose := by
  have hsampling : ∀ f, sampled limit h = .error f → f.interrupts = false := by
    intro f hf
    rw [hs] at hf
    cases hf
  have hdecompose : ∀ value state f, (e.decompose value state).1 = .error f →
      f.interrupts = false := by
    intro value state f hf
    rw [he] at hf
    cases hd : value.decompose with
    | ok v =>
      rw [hd] at hf
      cases hf
    | error err =>
      rw [hd] at hf
      cases hf
      rfl
  rw [dispatch_of_bound e limit hm hl hsampling hdecompose, formOf, hs]
  dsimp only
  rw [he]
  cases value.decompose with
  | ok v => exact render_structured m v
  | error err => rfl

/-- Any value but a handle is decomposed as it is. -/
theorem sampled_of_not_isHandle {h : Host} (hh : h.isHandle = false) (limit : Int) :
    sampled limit h = .ok h := by
  cases h with
  | handle take attributes => cases hh
  | _ => rfl

/-- A success of a magic comes from a value that decomposed. -/
theorem ok_of_showing_success {result : Except DecomposeError Structured}
    {payload : List (String × Entry)} (h : m.showing result = .ok (.success payload)) :
    ∃ v, result = .ok v := by
  cases result with
  | ok v => exact ⟨v, rfl⟩
  | error err => cases h

section Handle

variable {take : Int → Except Fault Host} {attributes : List (String × Host)}
  {items : List Host}

/-- A handle is answered with the array of what the first of its items decompose to. -/
theorem dispatch_of_yields (he : e.DecomposesByDefault) (hm : m.shows = true)
    (hy : Host.Yields take items)
    (hl : (e.lookup m.argument s.engine).1 = .ok (.handle take attributes)) (n : Nat) :
    (dispatch e n m s).1 = m.showing ((Host.decomposeFirst n items).map .array) := by
  rw [dispatch_of_default he hm hl (sampled_of_yields hy attributes n), Host.decompose_list_eq]
  rfl

/-- Where a magic succeeds with a limit, all the items within the limit decompose. -/
theorem decomposeFirst_of_success (he : e.DecomposesByDefault) (hm : m.shows = true)
    (hy : Host.Yields take items)
    (hl : (e.lookup m.argument s.engine).1 = .ok (.handle take attributes)) {k : Nat}
    {payload : List (String × Entry)} (h : (dispatch e k m s).1 = .ok (.success payload)) :
    ∃ ws, Host.decomposeFirst k items = .ok ws := by
  rw [dispatch_of_yields he hm hy hl] at h
  obtain ⟨v, hv⟩ := ok_of_showing_success h
  cases hfirst : Host.decomposeFirst k items with
  | ok ws => exact ⟨ws, rfl⟩
  | error err =>
    rw [hfirst] at hv
    cases hv

/-- Where a magic succeeds with a limit, the structured value is shown with every smaller
one. -/
theorem dispatch_json_of_le (he : e.DecomposesByDefault) (hm : m.shows = true)
    (hy : Host.Yields take items)
    (hl : (e.lookup m.argument s.engine).1 = .ok (.handle take attributes)) {n k : Nat}
    (hle : n ≤ k) {payload : List (String × Entry)}
    (h : (dispatch e k m s).1 = .ok (.success payload)) :
    ∃ vs, Host.decomposeFirst n items = .ok vs ∧
      (dispatch e n ⟨"json", m.argument⟩ s).1 =
        .ok (.success [(structuredMedia, .structured (.array vs))]) := by
  obtain ⟨ws, hws⟩ := decomposeFirst_of_success he hm hy hl h
  have hvs : Host.decomposeFirst n items = .ok (ws.take n) := Host.decomposeFirst_of_le hle hws
  have hshown : (dispatch e n ⟨"json", m.argument⟩ s).1 =
      showing ⟨"json", m.argument⟩ ((Host.decomposeFirst n items).map .array) :=
    dispatch_of_yields (m := ⟨"json", m.argument⟩) he rfl hy hl n
  refine ⟨ws.take n, hvs, ?_⟩
  rw [hshown, hvs]
  rfl

/-- Handles with the same first items are answered in the same way, whatever engine and
state they are found in. -/
theorem dispatch_congr {τ : Type} {e' : Engine τ} {s' : Session τ}
    {take' : Int → Except Fault Host} {attributes' : List (String × Host)} {items' : List Host}
    (he : e.DecomposesByDefault)
    (he' : e'.DecomposesByDefault) (hm : m.shows = true) (hy : Host.Yields take items)
    (hy' : Host.Yields take' items')
    (hl : (e.lookup m.argument s.engine).1 = .ok (.handle take attributes))
    (hl' : (e'.lookup m.argument s'.engine).1 = .ok (.handle take' attributes')) {n : Nat}
    (hsame : items'.take n = items.take n) : (dispatch e' n m s').1 = (dispatch e n m s).1 := by
  have hfirst : Host.decomposeFirst n items' = Host.decomposeFirst n items := by
    unfold Host.decomposeFirst
    rw [hsame]
  rw [dispatch_of_yields he' hm hy' hl', dispatch_of_yields he hm hy hl, hfirst]

end Handle

end Magic

end LiveSession
