import LiveSession.Proofs.Decompose.Rewriting
import LiveSession.Proofs.Host.Takes

/-!
# Decomposition takes no samples

What a value decomposes to does not depend on the samplings of the handles in
it, at any depth: with any other sampling in their places the same defect is
reported, or the same structured value comes out, with the other sampling where
a handle is kept in it.
-/

namespace LiveSession.Host

/-- Decomposing takes no samples: with another sampling in every place of a value the
same comes out, with the other sampling where a handle is kept in it. -/
theorem decompose_withTake (take : Int → Except Fault Host) (h : Host) :
    (h.withTake take).decompose = h.decompose.map (Structured.withTake take) :=
  (rewriting_withTake take).decompose_value h

end LiveSession.Host
