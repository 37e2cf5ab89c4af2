import ViewPoints.Deviation.Block
import ViewPoints.Deviation.Outcome
import ViewPoints.Deviation.Trackers

/-!
Matched tracks whose contents differ. A preamble names both tracks and the time; behind it
stands what differs, either `reported <field>=<value>; expected <value>` or `unexpected ...`.
-/

namespace ViewPoints.Content

open Pattern

/-- Number and part of the test track, then of the reference track, the time, and the word
that begins the clause. -/
def preamble : Pattern :=
  lit "Test track #" ++ group digits ++ lit "." ++ group digits ++ lit " (reference track #" ++
    group digits ++ lit "." ++ group digits ++ lit ") near " ++ group Stamp.shape ++ lit " UTC:" ++
    blanks ++ group words ++ one Text.isBlank

def inLine (c : Char) : Bool := c != '\n'

/-- A value ends before a column `REF`, or with the blanks at the end of a line. -/
def valueEnd : Pattern := either (blanks ++ lit "REF") (run Text.isBlank ++ lineEnd)

/-- For instance `reported rocd=1200; expected 900`. -/
def reported : Pattern :=
  one Text.isBlank ++ lit "reported " ++ group (many fun c => Text.isWord c || c == '.') ++
    lit "=" ++ group (few inLine) ++ lit "; expected " ++ group (few inLine) ++ valueEnd

/-- For instance `unexpected SSR mode 2 code`. -/
def unexpected : Pattern :=
  one Text.isBlank ++ lit "unexpected " ++ group (few inLine) ++ valueEnd

/-- A stamp in square brackets. -/
def bracketed : Pattern := lit "[" ++ group Stamp.shape ++ lit "]"

/-- The fields that are reported under a fixed name. -/
def fields : List (String × ContentKind) := [
  ("mof_longi", .modeOfFlight), ("mof_trans", .modeOfFlight), ("mof_verti", .modeOfFlight),
  ("rocd", .climbRate), ("tmc", .modeC), ("x_position", .position), ("y_position", .position),
  ("x_velocity", .velocity), ("y_velocity", .velocity), ("longitude", .wgs), ("latitude", .wgs),
  ("x_acceleration", .acceleration), ("y_acceleration", .acceleration),
  ("baro_altitude", .baroAltitude), ("geom_altitude", .geomAltitude), ("heading", .heading)]

/-- Besides these any flag of the status is reported. -/
def fieldKind? (field : String) : Option ContentKind :=
  match fields.lookup field with
  | some kind => some kind
  | none => if Text.startsWith "status.".toList field.toList then some .status else none

/-- How the values begin that are known to be unexpected. -/
def values : List (String × ContentKind) := [
  ("SSR mode 3/A code", .mode3A), ("SSR mode 2 code", .mode2)]

def valueKind? (value : String) : Option ContentKind :=
  (values.find? fun e => Text.startsWith e.1.toList value.toList).map Prod.snd

/-- The earliest and the latest of some stamps, which are as wide as each other, in byte order. -/
def span? : List String → Option (String × String)
  | [] => none
  | s :: stamps =>
    some (stamps.foldl (fun a b => if Text.before b a then b else a) s,
      stamps.foldl (fun a b => if Text.before a b then b else a) s)

/-- The time span of the bracketed stamps and its length. -/
def timeSpan (text : String) : Except Failure (TimeOfDay × Option Float) :=
  match span? (bracketed.readAll text) with
  | none => .ok ({}, none)
  | some (first, last) =>
    (Stamp.delta first last).map fun length => (⟨some first, some last⟩, some length)

/-- The two tracks and the time that a preamble names. -/
structure Subject where
  testTrack : String
  testPart : String
  referenceTrack : String
  referencePart : String
  stamp : String

def viewPoint (t : Trackers) (h : Header) (text : String) (s : Subject) (kind : ContentKind)
    (payload : String) : Except Failure ViewPoint := do
  let time ← Stamp.read s.stamp
  let (timeOfDay, window) ← timeSpan text
  return {
    id := h.id
    kind := .content kind
    name := kind.abbreviation ++ " DEV #" ++ h.number
    text := some (t.trackText .test s.testTrack s.testPart ++ " to " ++
      t.trackText .reference s.referenceTrack s.referencePart ++ "\n" ++ payload)
    timing := some { time := some time.seconds, window := window }
    filters := (({ timeOfDay := some timeOfDay } : Filters).setTrackNumber t.reference
      s.referenceTrack).setTrackNumber t.test s.testTrack
    deviations := [h.number]
    contextVariables := kind.contextVariables.map fun v => .single v.1 v.2 }

/-- What a clause says: the quantity and the text to show, or why it is not understood. -/
def clause? (h : Header) (text : String) (word : String) :
    Option (Except Diagnostic (ContentKind × String)) :=
  if word = "reported" then
    some <| match reported.read text with
      | some [field, value, expected] =>
        match fieldKind? field with
        | some kind => .ok (kind, "reported " ++ field ++ "=" ++ value ++ "; expected " ++ expected)
        | none => .error (.unknownReportedField h.number (some field))
      | _ => .error (.unknownReportedField h.number none)
  else if word = "unexpected" then
    some <| match unexpected.read text with
      | some [value] =>
        match valueKind? value with
        | some kind => .ok (kind, "unexpected " ++ value)
        | none => .error (.unknownUnexpectedValue h.number (some value))
      | _ => .error (.unknownUnexpectedValue h.number none)
  else none

/-- A block without the preamble, or with a clause of another kind, is ignored. -/
def outcome (t : Trackers) (h : Header) (text : String) : Except Failure Outcome :=
  match preamble.read text with
  | some [testTrack, testPart, referenceTrack, referencePart, stamp, word] =>
    match clause? h text word with
    | some (.ok (kind, payload)) =>
      (viewPoint t h text ⟨testTrack, testPart, referenceTrack, referencePart, stamp⟩ kind
        payload).map .viewPoint
    | some (.error d) => .ok (.unrecognized d)
    | none => .ok .ignored
  | _ => .ok .ignored

end ViewPoints.Content
