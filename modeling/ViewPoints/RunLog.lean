import ViewPoints.Deviation.ShortTrack
import ViewPoints.Text.Search

/-!
Reading a run log, line by line. Section titles tell which run the facts on the following lines
belong to, and already on their own line; outside the two sections in which runs are loaded
facts are passed over. Short tracks are reported anywhere.
-/

namespace ViewPoints.RunLog

inductive Phase where
  | start
  | loading (side : Side)
  | timeFrame
  | correlation
  | comparison
  deriving DecidableEq

namespace Phase

def titles : List (String × Phase) := [
  ("Loading reference run", .loading .reference), ("Loading test run", .loading .test),
  ("Pass 1: Establish common time-frame", .timeFrame),
  ("Pass 2: Correlate system tracks", .correlation),
  ("Pass 3: Compare system track contents", .comparison)]

/-- The section that a line begins. Of several titles on it the last one in the list counts. -/
def ofLine? (line : String) : Option Phase :=
  ((titles.filter fun e => Text.mentions line e.1).map Prod.snd).getLast?

/-- The run to which the facts of a section belong. -/
def side? : Phase → Option Side
  | loading side => some side
  | _ => none

end Phase

/-- What is known of a run. -/
structure Recording where
  identity : Option SensorIdentity := none
  window : Option Window := none
  duration : Option Float := none
  deriving DecidableEq

section Phrases

open Pattern

def isHex (c : Char) : Bool :=
  Text.isPlainDigit c || (0x41 ≤ c.toNat && c.toNat ≤ 0x46) || (0x61 ≤ c.toNat && c.toNat ≤ 0x66)

/-- Two bytes in hexadecimal digits, area code first. -/
def identityPhrase : Pattern :=
  lit "0x" ++ group (one isHex ++ one isHex) ++ group (one isHex ++ one isHex)

/-- For instance `09:00:00.000 UTC ... 12:00:00.000 UTC`. -/
def windowPhrase : Pattern :=
  group Stamp.shape ++ blanks ++ lit "UTC" ++ blanks ++ lit "..." ++ blanks ++
    group Stamp.shape ++ blanks ++ lit "UTC"

/-- A stamp between blanks. -/
def durationPhrase : Pattern :=
  one Text.isBlank ++ group Stamp.shape ++ either (one Text.isBlank) textEnd

end Phrases

def hexValue (c : Char) : Nat :=
  if Text.isPlainDigit c then Text.digitValue c else (Text.lower c).toNat - 0x57

/-- The byte that two hexadecimal digits spell. -/
def byte (s : String) : UInt8 := .ofNat (s.toList.foldl (fun n c => 16 * n + hexValue c) 0)

def identity? (line : String) : Option SensorIdentity :=
  match identityPhrase.read line with
  | some [sac, sic] => some ⟨byte sac, byte sic⟩
  | _ => none

/-- The stamps of the window on a line, start and end. -/
def window? (line : String) : Option (String × String) :=
  match windowPhrase.read line with
  | some [start, stop] => some (start, stop)
  | _ => none

def duration? (line : String) : Option String := (durationPhrase.read line).bind List.head?

/-- Two sources of the same identity are told apart by another identity for the test run. -/
def overrideFor (reference test : Option SensorIdentity) : Option SensorIdentity :=
  match reference, test with
  | some r, some t => if r = t then some t.disambiguated else none
  | _, _ => none

/-- What is known after some lines of the log. What follows from the facts about both runs is
kept beside them. -/
structure Scan where
  phase : Phase := .start
  reference : Recording := {}
  test : Recording := {}
  /-- The other identity of the test run, where its own is that of the reference run. -/
  sensorOverride : Option SensorIdentity := none
  /-- The length of time that both runs cover. -/
  commonDuration : Option Float := none
  shortTracks : Array ViewPoint := #[]
  deriving DecidableEq

namespace Scan

def recording (s : Scan) : Side → Recording
  | .reference => s.reference
  | .test => s.test

def update (s : Scan) (side : Side) (f : Recording → Recording) : Scan :=
  match side with
  | .reference => { s with reference := f s.reference }
  | .test => { s with test := f s.test }

/-- Finds anew how the test run is told apart. -/
def tellApart (s : Scan) : Scan :=
  { s with sensorOverride := overrideFor s.reference.identity s.test.identity }

/-- Measures anew what the windows share, once both are known. -/
def measure (s : Scan) : Scan :=
  { s with
    commonDuration :=
      match s.reference.window, s.test.window with
      | some r, some t => Window.overlap r t
      | _, _ => s.commonDuration }

/-- Takes in the identity of a run, which may change how the test run is told apart. -/
def setIdentity (s : Scan) (side : Side) (i : SensorIdentity) : Scan :=
  (s.update side fun r => { r with identity := some i }).tellApart

/-- Takes in the window of a run, which may change what the windows share. -/
def setWindow (s : Scan) (side : Side) (w : Window) : Scan :=
  (s.update side fun r => { r with window := some w }).measure

def enter (s : Scan) (line : String) : Scan :=
  match Phase.ofLine? line with
  | some phase => { s with phase := phase }
  | none => s

def readIdentity (s : Scan) (line : String) : Scan :=
  if Text.mentions line "Server Identification:" then
    match s.phase.side?, identity? line with
    | some side, some i => s.setIdentity side i
    | _, _ => s
  else s

def readWindow (s : Scan) (line : String) : Except Failure Scan :=
  if Text.mentions line "Time of Updates:" then
    match s.phase.side?, window? line with
    | some side, some (start, stop) => do
      let a ← Stamp.read start
      let b ← Stamp.read stop
      return s.setWindow side ⟨a.seconds, b.seconds⟩
    | _, _ => .ok s
  else .ok s

def readDuration (s : Scan) (line : String) : Except Failure Scan :=
  if Text.mentions line "Duration:" then
    match s.phase.side?, duration? line with
    | some side, some stamp => do
      let d ← Stamp.read stamp
      return s.update side fun r => { r with duration := some d.seconds }
    | _, _ => .ok s
  else .ok s

/-- Short tracks are numbered from `first` on. -/
def readShortTrack (t : Trackers) (first : Nat) (s : Scan) (line : String) : Except Failure Scan :=
  if Text.mentions line "Deviation: Short" then
    (ShortTrack.viewPoint t (first + s.shortTracks.size) line).map fun v =>
      { s with shortTracks := s.shortTracks.push v }
  else .ok s

/-- A line may hold a title and several facts; they are taken in this order. -/
def step (t : Trackers) (first : Nat) (s : Scan) (line : String) : Except Failure Scan := do
  let s ← ((s.enter line).readIdentity line).readWindow line
  let s ← s.readDuration line
  s.readShortTrack t first line

/-- Takes in the next line, if it could be read at all. -/
def feed (t : Trackers) (first : Nat) (s : Scan) (line : Except Failure String) :
    Except Failure Scan :=
  line.bind (s.step t first)

def run (t : Trackers) (first : Nat) (s : Scan) (lines : List (Except Failure String)) :
    Except Failure Scan :=
  lines.foldlM (feed t first) s

@[simp] theorem run_nil (t : Trackers) (first : Nat) (s : Scan) : s.run t first [] = .ok s := rfl

@[simp] theorem run_cons (t : Trackers) (first : Nat) (s : Scan) (line : Except Failure String)
    (lines : List (Except Failure String)) :
    s.run t first (line :: lines) = (s.feed t first line).bind fun s => s.run t first lines := rfl

theorem run_append (t : Trackers) (first : Nat) (s : Scan) (u v : List (Except Failure String)) :
    s.run t first (u ++ v) = (s.run t first u).bind fun s => s.run t first v := by
  simp only [run, List.foldlM_append]
  rfl

end Scan

/-- Reads a whole log. -/
def read (t : Trackers) (first : Nat) (lines : List (Except Failure String)) :
    Except Failure Scan :=
  Scan.run t first {} lines

end ViewPoints.RunLog
