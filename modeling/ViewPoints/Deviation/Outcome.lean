import ViewPoints.Diagnostic
import ViewPoints.Document.ViewPoint

/-!
What a block of a helper file turns into.
-/

namespace ViewPoints

/-- A block that is ignored is understood but tells nothing. -/
inductive Outcome where
  | viewPoint (v : ViewPoint)
  | unrecognized (d : Diagnostic)
  | ignored
  deriving DecidableEq

end ViewPoints
