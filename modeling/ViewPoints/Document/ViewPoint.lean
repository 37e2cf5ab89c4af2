import ViewPoints.Document.Context
import ViewPoints.Document.ContentKind
import ViewPoints.SortedMap

/-!
One deviation as a record, with the filters that bring it up for inspection.
-/

namespace ViewPoints

/-- How many counterparts were found for a track that only one run has. -/
inductive Dubiousness where
  | clear
  | single
  | multiple
  deriving DecidableEq

def Dubiousness.suffix : Dubiousness → String
  | clear => ""
  | single => " dubious"
  | multiple => " dubious multiple"

inductive ViewPointKind where
  /-- A track of the test run only is extra, one of the reference run only is missing. -/
  | unmatched (owner : Side) (dubiousness : Dubiousness)
  | shortTrack
  | content (kind : ContentKind)
  deriving DecidableEq

def ViewPointKind.label : ViewPointKind → String
  | unmatched .test d => "Extra Track" ++ d.suffix
  | unmatched .reference d => "Missing Track" ++ d.suffix
  | shortTrack => "Short Track"
  | content kind => kind.abbreviation ++ " Content Deviation"

/-- A point in time and the length of a window, in seconds. -/
structure Timing where
  time : Option Float := none
  window : Option Float := none
  deriving DecidableEq

structure TimeOfDay where
  minimum : Option String := none
  maximum : Option String := none
  deriving DecidableEq

structure Filters where
  timeOfDay : Option TimeOfDay := none
  trackNumbers : SortedMap String := .empty
  mode3A : Option String := none
  targetAddress : Option String := none
  deriving DecidableEq

namespace Filters

/-- The key under which the numbers of a tracker's tracks stand. -/
def trackKey (tracker : String) : String := tracker ++ " track_num"

def setTrackNumber (f : Filters) (tracker value : String) : Filters :=
  { f with trackNumbers := f.trackNumbers.insert (trackKey tracker) value }

def trackNumber (f : Filters) (tracker : String) : Option String :=
  f.trackNumbers.get? (trackKey tracker)

theorem trackKey_inj {a b : String} (h : trackKey a = trackKey b) : a = b :=
  String.append_left_inj " track_num" |>.1 h

@[simp] theorem trackNumber_setTrackNumber_self (f : Filters) (tracker value : String) :
    (f.setTrackNumber tracker value).trackNumber tracker = some value :=
  SortedMap.get?_insert_self ..

theorem trackNumber_setTrackNumber_of_ne (f : Filters) {tracker other : String} (value : String)
    (h : other ≠ tracker) :
    (f.setTrackNumber tracker value).trackNumber other = f.trackNumber other :=
  SortedMap.get?_insert_of_ne _ _ fun e => h (trackKey_inj e)

end Filters

structure ViewPoint where
  id : Nat
  kind : ViewPointKind
  name : String
  text : Option String := none
  timing : Option Timing := none
  dbObjects : List String := ["Tracker"]
  filters : Filters := {}
  deviations : List String
  contextVariables : Option (SortedMap (List String)) := none
  deriving DecidableEq

end ViewPoints
