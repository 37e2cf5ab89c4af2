import ViewPoints.Document.Rendering
import ViewPoints.HelperFile
import ViewPoints.RunLog

/-!
The document of a comparison, from its helper file and its run log. The helper file is read to
its end first. The two know nothing of each other but that the numbers of short tracks go on
where those of the helper file stop.
-/

namespace ViewPoints

structure Options where
  trackers : Trackers := {}
  startDate : Option String := none
  deriving DecidableEq

structure Conversion where
  document : Document
  /-- In the order in which they were met. -/
  diagnostics : Array Diagnostic
  deriving DecidableEq

namespace Conversion

def dataset (d : Dataset) (filename : Option String) (r : RunLog.Recording) : Dataset :=
  { d with
    filename := filename
    sac := r.identity.map SensorIdentity.sac
    sic := r.identity.map SensorIdentity.sic
    timeStart := r.window.map Window.start
    timeEnd := r.window.map Window.stop
    duration := r.duration }

def context (o : Options) (h : HelperFile.Scan) (r : RunLog.Scan) : Context :=
  let blank := Context.blank o.trackers.reference o.trackers.test o.startDate
  { blank with
    aocVersion := h.version
    timeNow := h.now
    commonDuration := r.commonDuration
    reference := dataset blank.reference h.referenceFile r.reference
    test :=
      { dataset blank.test h.testFile r.test with
        timeOffset := some h.timeOffset
        sensorOverride := r.sensorOverride } }

/-- What the two scans amount to. -/
def ofScans (o : Options) (h : HelperFile.Scan) (r : RunLog.Scan) : Conversion where
  document := { context := context o h r, viewPoints := h.viewPoints ++ r.shortTracks }
  diagnostics := h.diagnostics

/-- Converts lines, some of which may be unreadable. -/
def ofLines (o : Options) (helper runLog : List (Except Failure String)) :
    Except Failure Conversion := do
  let h ← HelperFile.read o.trackers helper
  let r ← RunLog.read o.trackers h.headers runLog
  return ofScans o h r

/-- The lines of a file, each of which is readable if it is UTF-8. -/
def fileLines (b : ByteArray) : List (Except Failure String) :=
  (Text.linesOfBytes b).map fun
    | some line => .ok line
    | none => .error .invalidText

/-- Converts the contents of two files. -/
def ofBytes (o : Options) (helper runLog : ByteArray) : Except Failure Conversion :=
  ofLines o (fileLines helper) (fileLines runLog)

/-- Converts two texts. -/
def ofTexts (o : Options) (helper runLog : String) : Except Failure Conversion :=
  ofLines o ((Text.lines helper).map .ok) ((Text.lines runLog).map .ok)

/-- Converts two texts that are given by their lines. -/
def ofUnlines (o : Options) (helper runLog : List String) : Except Failure Conversion :=
  ofTexts o (Block.unlines helper) (Block.unlines runLog)

/-- Converts ever longer beginnings of the two inputs: of the helper lines alone, and then of
all of them with more and more lines of the run log. -/
def progress (o : Options) (helper runLog : List String) : List (Except Failure Conversion) :=
  (List.range helper.length).map (fun n => ofUnlines o (helper.take n) []) ++
    (List.range (runLog.length + 1)).map fun n => ofUnlines o helper (runLog.take n)

end Conversion

end ViewPoints
