import LiveSession.Proofs.Engine.Recorded
import LiveSession.Proofs.Session.Output

/-!
# Engines that withhold text

An engine can withhold text that its statements wrote, and write it later. With
the withheld text put behind what is captured already it is another engine,
seen through a map of states: every operation gives the same and leaves the
withheld text alone, and a statement writes what was withheld and its own text,
less what it withholds in turn. Nothing is withheld any longer when a statement
was not interrupted or the engine was closed.
-/

namespace LiveSession

variable {σ τ : Type}

namespace Engine

/-- An operation does what another does, seen through a map of states, and
leaves what is withheld. -/
def Mirrors {α : Type} (view : τ → σ) (withheld : τ → String) (operation : τ → Outcome τ α)
    (image : σ → Outcome σ α) : Prop :=
  ∀ t, image (view t) = ((operation t).1, view (operation t).2) ∧
    withheld (operation t).2 = withheld t

/-- An interpretation does what another does, seen through a map of states, with
the text that is withheld before and after it taken into account. -/
structure MirrorsText (view : τ → σ) (withheld : τ → String) (t : τ) (step : Interpretation τ)
    (image : Interpretation σ) : Prop where
  verdict : image.verdict = step.verdict
  state : image.state = view step.state
  displayed : displayed image.emissions = displayed step.emissions
  written : withheld t ++ written image.emissions =
    written step.emissions ++ withheld step.state
  released : step.isInterrupted = false → withheld step.state = ""

/-- The operations of an engine that withholds text do what those of another do,
seen through a map of states. -/
structure Withholds (view : τ → σ) (withheld : τ → String) (e : Engine τ) (image : Engine σ) :
    Prop where
  kind : image.kind = e.kind
  start : Mirrors view withheld e.start image.start
  isStarted : Mirrors view withheld e.isStarted image.isStarted
  interpret : ∀ captured code t,
    MirrorsText view withheld t (e.interpret captured code t)
      (image.interpret (captured ++ withheld t) code (view t))
  lookup : ∀ name, Mirrors view withheld (e.lookup name) (image.lookup name)
  bind : ∀ name value, Mirrors view withheld (e.bind name value) (image.bind name value)
  close : ∀ t, image.close (view t) = ((e.close t).1, view (e.close t).2)
  /-- A close that succeeds drops what is withheld, one that raises leaves it. -/
  dropped : ∀ t, withheld (e.close t).2 =
    match (e.close t).1 with
    | .ok () => ""
    | .error _ => withheld t
  complete : ∀ code cursor,
    Mirrors view withheld (e.complete code cursor) (image.complete code cursor)
  decompose : ∀ value, Mirrors view withheld (e.decompose value) (image.decompose value)
  wrapBlock : ∀ block, Mirrors view withheld (e.wrapBlock block) (image.wrapBlock block)
  enter : Mirrors view withheld e.enter image.enter
  leave : Mirrors view withheld e.leave image.leave

/-- The operations of an engine that withholds nothing. -/
theorem Views.withholds {view : τ → σ} {e : Engine τ} {image : Engine σ}
    (h : e.Views view image) : e.Withholds view (fun _ => "") image where
  kind := h.kind
  start t := ⟨h.start t, rfl⟩
  isStarted t := ⟨h.isStarted t, rfl⟩
  interpret captured code t := by
    rw [String.append_empty, h.interpret]
    exact ⟨rfl, rfl, rfl, by rw [String.empty_append, String.append_empty], fun _ => rfl⟩
  lookup name t := ⟨h.lookup name t, rfl⟩
  bind name value t := ⟨h.bind name value t, rfl⟩
  close := h.close
  dropped t := by split <;> rfl
  complete code cursor t := ⟨h.complete code cursor t, rfl⟩
  decompose value t := ⟨h.decompose value t, rfl⟩
  wrapBlock block t := ⟨h.wrapBlock block t, rfl⟩
  enter t := ⟨h.enter t, rfl⟩
  leave t := ⟨h.leave t, rfl⟩

end Engine

end LiveSession
