import ViewPoints.Deviation.Block
import ViewPoints.Deviation.Trackers

/-!
Tracks that only one of the runs has, and their candidate counterparts in the other.
-/

namespace ViewPoints.Unmatched

open Pattern

/-- How the text names a track that only this side has. -/
def caption : Side → String
  | .test => "Extra test track #"
  | .reference => "Missing reference track #"

/-- A time of the track, behind any caption of it. -/
def time : Pattern :=
  lit "Time of " ++ many (fun c => c != ':' && c != '\n') ++ lit ": " ++ group solids ++ lit " UTC"

/-- The number and the part of the track, and the times of its first and its last update. -/
def phrase (owner : Side) : Pattern :=
  lit (caption owner) ++ group digits ++ lit "." ++ group digits ++ blanks ++ time ++ blanks ++ time

/-- For instance `searching ... 2 candidates found`, perhaps on several lines. -/
def candidateCount : Pattern :=
  lit "searching ..." ++ spare (fun _ => true) ++ group solids ++ blanks ++ lit "candidate" ++
    optional (lit "s") ++ blanks ++ lit "found"

/-- The number of a track that is mentioned. -/
def mention : Pattern := lit "#" ++ group digits ++ lit "."

def mode3APhrase : Pattern := lit "SSR mode 3/A code; value=0" ++ group digits

def addressPhrase : Pattern := lit "aircraft address; value=0x" ++ group solids

def modeCPhrase : Pattern := lit "SSR mode C code; value=" ++ group solids

/-- The one group of the leftmost match. -/
def detail (p : Pattern) (text : String) : Option String :=
  (p.read text).bind List.head?

/-- The numbers of all tracks mentioned after the first, each once, in byte order. -/
def candidates (text : String) : String :=
  let numbers := (mention.readAll text).drop 1
  String.intercalate "," (SortedMap.ofList (numbers.map fun n => (n, ()))).keys

/-- No count, or the count `no`, leaves no doubt that the track is unmatched. -/
def dubiousness : Option String → Dubiousness
  | none => .clear
  | some count => if count = "no" then .clear else if count = "1" then .single else .multiple

/-- What the text says of the candidates. -/
structure Details where
  count : Option String
  mode3A : Option String
  address : Option String
  modeC : Option String
  deriving DecidableEq

namespace Details

def read (text : String) : Details where
  count := detail candidateCount text
  mode3A := detail mode3APhrase text
  address := detail addressPhrase text
  modeC := detail modeCPhrase text

def level (d : Details) : Dubiousness := dubiousness d.count

/-- The details that are known, each with what it is. -/
def remarks (d : Details) : List String :=
  (d.count.map (· ++ " candidates")).toList ++ (d.mode3A.map ("mode 3/A:" ++ ·)).toList ++
    (d.address.map ("aircraft address:0x" ++ ·)).toList ++ (d.modeC.map ("mode C:" ++ ·)).toList

end Details

/-- The numbers of the track and of its candidates, if there are any, each under the tracker
that has them. -/
def trackFilters (t : Trackers) (owner : Side) (text track : String) (level : Dubiousness)
    (f : Filters) : Filters :=
  let own := f.setTrackNumber (t.name owner) track
  if level = .clear then own else own.setTrackNumber (t.name owner.opposite) (candidates text)

/-- The codes of the candidates, where there are several. -/
def codeFilters (d : Details) (f : Filters) : Filters :=
  if d.level = .multiple then { f with mode3A := d.mode3A, targetAddress := d.address } else f

/-- The view point of a block whose text does not say which track it is about. -/
def blank (owner : Side) (h : Header) : ViewPoint where
  id := h.id
  kind := .unmatched owner .clear
  name := "DEV #" ++ h.number
  filters := { timeOfDay := some {} }
  deviations := [h.number]

/-- The view point of the track with this number and part, between these times. -/
def filled (t : Trackers) (owner : Side) (h : Header) (text track part first last : String) :
    ViewPoint :=
  let d := Details.read text
  let span : Filters := { timeOfDay := some ⟨some first, some last⟩ }
  { blank owner h with
    kind := .unmatched owner d.level
    text := some (t.trackText owner track part ++ "\n" ++ String.intercalate "; " d.remarks)
    filters := codeFilters d (trackFilters t owner text track d.level span) }

def viewPoint (t : Trackers) (owner : Side) (h : Header) (text : String) : ViewPoint :=
  match (phrase owner).read text with
  | some [track, part, first, last] => filled t owner h text track part first last
  | _ => blank owner h

end ViewPoints.Unmatched
