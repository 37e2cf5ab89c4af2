import ViewPoints.Decimal.Reading
import ViewPoints.Deviation.Trackers

/-!
Tracks that are shorter than their counterpart. A run log reports each on one line, which is
numbered by its place in the document.
-/

namespace ViewPoints.ShortTrack

open Pattern

/-- Neither the end of a bracket nor anything behind it. -/
def inBracket (c : Char) : Bool := c != ']'

/-- The short track and its counterpart, each by the side and the number, the codes of the
track, its start, and how much shorter it is. -/
def phrase : Pattern :=
  lit "Short " ++ group words ++ lit " track #" ++ group digits ++ lit " (" ++ group words ++
    lit " track #" ++ group digits ++ lit " [A:" ++ group (many inBracket) ++ lit "] [S:" ++
    group (many inBracket) ++ lit "]) starting near " ++ group solids ++ lit " UTC (diff=" ++
    group (many fun c => Text.isDigit c || c == '.') ++ blanks ++ lit "seconds)" ++
    run Text.isBlank ++ textEnd

def sideOf (word : String) : Side :=
  if word = "tst" || word = "test" then .test else .reference

/-- The codes that are worth showing, and the start. -/
def location (code address stamp : String) : List String :=
  (if code.toList.all Text.isPlainDigit then ["mA:" ++ code] else []) ++
    (if Text.startsWith "0x".toList address.toList then ["mS:" ++ address] else []) ++
    [stamp ++ " UTC"]

/-- The view point of a line that is not understood. -/
def blank (id : Nat) : ViewPoint where
  id := id
  kind := .shortTrack
  name := "DEV #" ++ (id + 1).repr
  timing := some {}
  deviations := [(id + 1).repr]

def viewPoint (t : Trackers) (id : Nat) (line : String) : Except Failure ViewPoint :=
  match phrase.read line with
  | some [side, track, _, counterpart, code, address, stamp, diff] => do
    let first := t.name (sideOf side)
    let second := t.name (sideOf side).opposite
    let time ← Stamp.read stamp
    return { blank id with
      text := some (first ++ " " ++ track ++ " to " ++ second ++ " " ++ counterpart ++
        "\ndiff=" ++ diff ++ " seconds\n" ++
        String.intercalate " " (location code address stamp))
      timing := some { time := some time.seconds, window := Decimal.readFloat? diff.toList }
      filters := (({} : Filters).setTrackNumber first track).setTrackNumber second counterpart }
  | _ => .ok (blank id)

end ViewPoints.ShortTrack
