import ViewPoints.Decimal.Reading
import ViewPoints.Deviation.Kind

/-!
Reading a helper file, line by line. The first three characters tell what a line is. A line
`DEV` opens a block, and lines of no kind go to the open block, which is closed by the next
block, by a blank line or by the end of the file. The other kinds hold facts about the runs;
inside a block they are read as such and do not end it.
-/

namespace ViewPoints.HelperFile

inductive LineKind where
  | version
  | deviation
  | timeOffset
  | now
  | filename (side : Side)
  deriving DecidableEq

/-- The kinds by the characters that lines begin with. -/
def vocabulary : List (String × LineKind) := [
  ("AOC", .version), ("DEV", .deviation), ("DT ", .timeOffset), ("NOW", .now),
  ("REF", .filename .reference), ("TST", .filename .test)]

def LineKind.of? (line : String) : Option LineKind :=
  let s := line.toList
  (vocabulary.find? fun e => Text.startsWith e.1.toList s).map Prod.snd

def isBlankLine (line : String) : Bool := line.toList.all Text.isBlank

section Phrases

open Pattern

/-- For instance `AOC Version V4.2.1`. -/
def versionPhrase : Pattern :=
  lit "AOC" ++ blanks ++ lit "Version" ++ blanks ++ lit "V" ++ group solids ++ textEnd

/-- For instance `NOW 2024-05-06 07:08:09 UTC`. -/
def nowPhrase : Pattern :=
  lit "NOW" ++ blanks ++ group (solids ++ lit " " ++ solids) ++ blanks ++ lit "UTC" ++ textEnd

/-- For instance `REF "reference.rec"`. -/
def filenamePhrase : Pattern := lit "\"" ++ group solids ++ lit "\""

/-- For instance `DT 0.125 secs (STD 0.010 secs)`. -/
def offsetPhrase : Pattern :=
  lit "DT" ++ blanks ++ group solids ++ blanks ++ lit "secs" ++ blanks ++ lit "(STD" ++ blanks ++
    group solids ++ blanks ++ lit "secs)" ++ textEnd

end Phrases

def version? (line : String) : Option String := (versionPhrase.readFront line).bind List.head?

def now? (line : String) : Option String := (nowPhrase.readFront line).bind List.head?

def filename? (line : String) : Option String := (filenamePhrase.read line).bind List.head?

/-- The clock offset on a line. A line of the right form may still hold no numbers. -/
def offset? (line : String) : Option (Except Diagnostic TimeOffset) :=
  match offsetPhrase.readFront line with
  | some [mean, deviation] =>
    match Decimal.readFloat? mean.toList, Decimal.readFloat? deviation.toList with
    | some mean, some deviation => some (.ok ⟨some mean, some deviation⟩)
    | _, _ => some (.error (.invalidTimeOffset line))
  | _ => none

/-- What is known after some lines of the file. -/
structure Scan where
  version : Option String := none
  now : Option String := none
  referenceFile : Option String := none
  testFile : Option String := none
  timeOffset : TimeOffset := {}
  /-- How many headers were read. -/
  headers : Nat := 0
  /-- The block to which lines may still be added. -/
  opened : Option Block := none
  viewPoints : Array ViewPoint := #[]
  diagnostics : Array Diagnostic := #[]
  deriving DecidableEq

namespace Scan

/-- Takes in what a block turned into. -/
def record (s : Scan) : Outcome → Scan
  | .viewPoint v => { s with viewPoints := s.viewPoints.push v }
  | .unrecognized d => { s with diagnostics := s.diagnostics.push d }
  | .ignored => s

/-- Ends the open block, if there is one. -/
def close (t : Trackers) (s : Scan) : Except Failure Scan :=
  match s.opened with
  | none => .ok s
  | some b => (b.outcome t).map fun o => { s with opened := none }.record o

/-- Opens a block. Only a header takes a number. -/
def openBlock (s : Scan) (line : String) : Scan :=
  let header := Header.read? s.headers line
  { s with
    opened := some { header := header, opening := line }
    headers := if header.isSome then s.headers + 1 else s.headers }

/-- Adds a line to the open block, if there is one. -/
def append (s : Scan) (line : String) : Scan :=
  { s with opened := s.opened.map fun b => b.append line }

/-- The text of the open block grows by the lines that belong to it, each with a newline. -/
theorem text_opened (s : Scan) (line : String) :
    (s.openBlock line).opened.map Block.text = some (line ++ "\n") ∧
      (s.append line).opened.map Block.text =
        s.opened.map fun b => b.text ++ line ++ "\n" := by
  constructor
  · exact congrArg some (Block.text_opening _ line)
  · rw [append, Option.map_map]
    exact congrArg (fun f => s.opened.map f) (funext fun b => b.text_append line)

def readVersion (s : Scan) (line : String) : Scan :=
  match version? line with
  | some v => { s with version := some v }
  | none => s

def readNow (s : Scan) (line : String) : Scan :=
  match now? line with
  | some v => { s with now := some v }
  | none => s

def readFilename (s : Scan) (side : Side) (line : String) : Scan :=
  match filename? line, side with
  | some v, .reference => { s with referenceFile := some v }
  | some v, .test => { s with testFile := some v }
  | none, _ => s

def readOffset (s : Scan) (line : String) : Scan :=
  match offset? line with
  | some (.ok o) => { s with timeOffset := o }
  | some (.error d) => { s with diagnostics := s.diagnostics.push d }
  | none => s

def step (t : Trackers) (s : Scan) (line : String) : Except Failure Scan :=
  match LineKind.of? line with
  | some .deviation => (s.close t).map fun s => s.openBlock line
  | some .version => .ok (s.readVersion line)
  | some .now => .ok (s.readNow line)
  | some (.filename side) => .ok (s.readFilename side line)
  | some .timeOffset => .ok (s.readOffset line)
  | none => if isBlankLine line then s.close t else .ok (s.append line)

/-- Takes in the next line, if it could be read at all. -/
def feed (t : Trackers) (s : Scan) (line : Except Failure String) : Except Failure Scan :=
  line.bind (s.step t)

def run (t : Trackers) (s : Scan) (lines : List (Except Failure String)) : Except Failure Scan :=
  lines.foldlM (feed t) s

@[simp] theorem run_nil (t : Trackers) (s : Scan) : s.run t [] = .ok s := rfl

@[simp] theorem run_cons (t : Trackers) (s : Scan) (line : Except Failure String)
    (lines : List (Except Failure String)) :
    s.run t (line :: lines) = (s.feed t line).bind fun s => s.run t lines := rfl

theorem run_append (t : Trackers) (s : Scan) (u v : List (Except Failure String)) :
    s.run t (u ++ v) = (s.run t u).bind fun s => s.run t v := by
  simp only [run, List.foldlM_append]
  rfl

/-- The diagnostics that are met in the lines to come, up to the end or to what fails. Those that
were met before are among them. -/
def met (t : Trackers) (s : Scan) : List (Except Failure String) → Array Diagnostic
  | [] =>
    match s.close t with
    | .ok s => s.diagnostics
    | .error _ => s.diagnostics
  | line :: lines =>
    match s.feed t line with
    | .ok s => s.met t lines
    | .error _ => s.diagnostics

end Scan

/-- Reads a whole file. -/
def read (t : Trackers) (lines : List (Except Failure String)) : Except Failure Scan :=
  (Scan.run t {} lines).bind (Scan.close t)

/-- The diagnostics that are met in a file, whether or not it can be read to its end. -/
def met (t : Trackers) (lines : List (Except Failure String)) : Array Diagnostic :=
  Scan.met t {} lines

end ViewPoints.HelperFile
