import ViewPoints.Conversion

/-!
A document that both passes write into, line by line. The first pass counts the headers, and the
second one goes on counting with the short tracks. Nothing has to be put together in the end.
-/

namespace ViewPoints

namespace Context

/-- Finds anew how the test run is told apart. -/
def tellApart (c : Context) : Context :=
  c.update .test fun d =>
    { d with
      sensorOverride :=
        RunLog.overrideFor (c.dataset .reference).sensorIdentity d.sensorIdentity }

/-- Measures anew what the windows share, once both are known. -/
def measure (c : Context) : Context :=
  match (c.dataset .reference).window, (c.dataset .test).window with
  | some r, some t => { c with commonDuration := Window.overlap r t }
  | _, _ => c

end Context

/-- A document in the making, and what is met on the way. -/
structure Assembly where
  document : Document
  /-- The number that the next header takes. -/
  nextHeader : Nat := 0
  diagnostics : Array Diagnostic := #[]
  deriving DecidableEq

namespace Assembly

def start (o : Options) : Assembly where
  document := .blank o.trackers.reference o.trackers.test o.startDate

def push (a : Assembly) (v : ViewPoint) : Assembly :=
  { a with document.viewPoints := a.document.viewPoints.push v }

def report (a : Assembly) (d : Diagnostic) : Assembly :=
  { a with diagnostics := a.diagnostics.push d }

def take (a : Assembly) : Outcome → Assembly
  | .viewPoint v => a.push v
  | .unrecognized d => a.report d
  | .ignored => a

def inContext (a : Assembly) (f : Context → Context) : Assembly :=
  { a with document.context := f a.document.context }

def setFilename (a : Assembly) (side : Side) (name : String) : Assembly :=
  a.inContext fun c => c.update side fun d => { d with filename := some name }

def setOffset (a : Assembly) (offset : TimeOffset) : Assembly :=
  a.inContext fun c => c.update .test fun d => { d with timeOffset := some offset }

def setDuration (a : Assembly) (side : Side) (x : Float) : Assembly :=
  a.inContext fun c => c.update side fun d => { d with duration := some x }

def setIdentity (a : Assembly) (side : Side) (i : SensorIdentity) : Assembly :=
  a.inContext fun c => (c.update side fun d => d.setSensorIdentity i).tellApart

def setWindow (a : Assembly) (side : Side) (w : Window) : Assembly :=
  a.inContext fun c =>
    (c.update side fun d => { d with timeStart := some w.start, timeEnd := some w.stop }).measure

end Assembly

/-! ### The helper file -/

/-- The first pass: the block to which lines may still be added, and the document. -/
structure HelperFile.Pass where
  opened : Option Block := none
  assembly : Assembly
  deriving DecidableEq

namespace HelperFile.Pass

def close (t : Trackers) (p : Pass) : Except Failure Pass :=
  match p.opened with
  | none => .ok p
  | some b => (b.outcome t).map fun o => { opened := none, assembly := p.assembly.take o }

def openBlock (p : Pass) (line : String) : Pass :=
  let header := Header.read? p.assembly.nextHeader line
  { opened := some { header := header, opening := line }
    assembly :=
      { p.assembly with
        nextHeader := if header.isSome then p.assembly.nextHeader + 1 else p.assembly.nextHeader } }

def append (p : Pass) (line : String) : Pass :=
  { p with opened := p.opened.map fun b => b.append line }

/-- Takes in what could be read from a line. -/
def note {α : Type} (p : Pass) (value? : Option α) (f : Assembly → α → Assembly) : Pass :=
  match value? with
  | some v => { p with assembly := f p.assembly v }
  | none => p

def readVersion (p : Pass) (line : String) : Pass :=
  p.note (version? line) fun a v => a.inContext fun c => { c with aocVersion := some v }

def readNow (p : Pass) (line : String) : Pass :=
  p.note (now? line) fun a v => a.inContext fun c => { c with timeNow := some v }

def readFilename (p : Pass) (side : Side) (line : String) : Pass :=
  p.note (filename? line) fun a v => a.setFilename side v

def readOffset (p : Pass) (line : String) : Pass :=
  p.note (offset? line) fun a v =>
    match v with
    | .ok o => a.setOffset o
    | .error d => a.report d

def step (t : Trackers) (p : Pass) (line : String) : Except Failure Pass :=
  match LineKind.of? line with
  | some .deviation => (p.close t).map fun p => p.openBlock line
  | some .version => .ok (p.readVersion line)
  | some .now => .ok (p.readNow line)
  | some (.filename side) => .ok (p.readFilename side line)
  | some .timeOffset => .ok (p.readOffset line)
  | none => if isBlankLine line then p.close t else .ok (p.append line)

def run (t : Trackers) (p : Pass) (lines : List (Except Failure String)) : Except Failure Pass :=
  lines.foldlM (fun p line => line.bind (p.step t)) p

end HelperFile.Pass

/-! ### The run log -/

/-- The second pass: the section, the number that the next short track takes, and the document. -/
structure RunLog.Pass where
  phase : Phase := .start
  nextId : Nat
  assembly : Assembly
  deriving DecidableEq

namespace RunLog.Pass

def enter (p : Pass) (line : String) : Pass :=
  match Phase.ofLine? line with
  | some phase => { p with phase := phase }
  | none => p

/-- Takes in a fact about the run whose section is in force, if the line has the marker and the fact
can be read from it. -/
def fact {α : Type} (p : Pass) (line marker : String) (read? : String → Option α)
    (set : Side → α → Except Failure Assembly) : Except Failure Pass :=
  if Text.mentions line marker then
    match p.phase.side?, read? line with
    | some side, some a => (set side a).map fun assembly => { p with assembly := assembly }
    | _, _ => .ok p
  else .ok p

def readIdentity (p : Pass) (line : String) : Except Failure Pass :=
  p.fact line "Server Identification:" identity? fun side i => .ok (p.assembly.setIdentity side i)

def readWindow (p : Pass) (line : String) : Except Failure Pass :=
  p.fact line "Time of Updates:" window? fun side stamps => do
    let a ← Stamp.read stamps.1
    let b ← Stamp.read stamps.2
    return p.assembly.setWindow side ⟨a.seconds, b.seconds⟩

def readDuration (p : Pass) (line : String) : Except Failure Pass :=
  p.fact line "Duration:" duration? fun side stamp => do
    let d ← Stamp.read stamp
    return p.assembly.setDuration side d.seconds

def readShortTrack (t : Trackers) (p : Pass) (line : String) : Except Failure Pass :=
  if Text.mentions line "Deviation: Short" then
    (ShortTrack.viewPoint t p.nextId line).map fun v =>
      { p with nextId := p.nextId + 1, assembly := p.assembly.push v }
  else .ok p

def step (t : Trackers) (p : Pass) (line : String) : Except Failure Pass := do
  let p ← (p.enter line).readIdentity line
  let p ← p.readWindow line
  let p ← p.readDuration line
  p.readShortTrack t line

def run (t : Trackers) (p : Pass) (lines : List (Except Failure String)) : Except Failure Pass :=
  lines.foldlM (fun p line => line.bind (p.step t)) p

end RunLog.Pass

/-! ### Both files -/

/-- Reads the helper file into a document and then the run log. -/
def Assembly.ofLines (o : Options) (helper runLog : List (Except Failure String)) :
    Except Failure Assembly := do
  let p ← HelperFile.Pass.run o.trackers { assembly := .start o } helper
  let p ← p.close o.trackers
  let q ← RunLog.Pass.run o.trackers
    { nextId := p.assembly.nextHeader, assembly := p.assembly } runLog
  return q.assembly

def Assembly.conversion (a : Assembly) : Conversion := ⟨a.document, a.diagnostics⟩

end ViewPoints
