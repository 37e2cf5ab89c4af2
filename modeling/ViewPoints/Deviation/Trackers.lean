import ViewPoints.Document.ViewPoint

/-!
The names of the two compared trackers. They are for display and key the track filters.
-/

namespace ViewPoints

structure Trackers where
  reference : String := "REF"
  test : String := "TST"
  deriving DecidableEq

def Trackers.name (t : Trackers) : Side → String
  | .reference => t.reference
  | .test => t.test

/-- A track with its part, under the name of its tracker. -/
def Trackers.trackText (t : Trackers) (side : Side) (track part : String) : String :=
  t.name side ++ " " ++ track ++ ":(" ++ track ++ "." ++ part ++ ")"

end ViewPoints
