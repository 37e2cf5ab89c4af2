import ViewPoints.CommandLine.Styled
import ViewPoints.Conversion

/-!
A conversion in short: what is known of the runs, how many view points there are of each kind,
and what was not understood.
-/

namespace ViewPoints.CommandLine

def endLine : List Piece := plain "\n"

/-- Blanks in front up to a width. -/
def padLeft (width : Nat) (s : String) : String :=
  .ofList (List.replicate (width - s.length) ' ' ++ s.toList)

/-- Blanks behind up to a width. -/
def padRight (width : Nat) (s : String) : String :=
  .ofList (s.toList ++ List.replicate (width - s.length) ' ')

def hexDigit (n : Nat) : Char := (Nat.digitChar n).toUpper

/-- A byte in two hexadecimal digits. -/
def hexByte (b : UInt8) : String := .ofList [hexDigit (b.toNat / 16), hexDigit (b.toNat % 16)]

def identityText (i : SensorIdentity) : String := hexByte i.sac ++ "/" ++ hexByte i.sic

def secondsText (x : Float) : String := Decimal.fixed 3 x

def title (s : String) : List Piece := plain "\n" ++ styled .gray s ++ endLine

/-- The columns of a data set. The names of both are as wide as the longer one. -/
def nameWidth : Nat := 13

def datasetLines (d : Dataset) : List Piece :=
  let sensor := (d.sensorIdentity.map identityText).getD "-"
  let window := (d.window.map fun w => secondsText w.start ++ ".." ++ secondsText w.stop).getD "-"
  plain "  " ++ styled .blue (padRight nameWidth d.name) ++ plain " " ++ styled .bold d.label ++
    plain "  " ++ styled .dim "file:" ++ plain (" " ++ d.filename.getD "-" ++ "  ") ++
    styled .dim "sac/sic:" ++ plain " " ++ styled .cyan sensor ++ plain "  " ++
    styled .dim "window:" ++ plain " " ++ styled .yellow window ++ endLine ++
    match d.sensorOverride with
    | some i =>
      plain ("  " ++ padRight nameWidth "" ++ " ") ++ styled .dim "override:" ++ plain " " ++
        styled .cyan (identityText i) ++ endLine
    | none => []

def contextLines (c : Context) : List Piece :=
  title "━━━ Context ━━━" ++
    plain "  AOC " ++ styled .green (c.aocVersion.getD "?") ++ plain "  │  generated " ++
    styled .dim (c.timeNow.getD "?") ++ endLine ++
    datasetLines c.reference ++ datasetLines c.test ++
    match c.commonDuration with
    | some x =>
      plain "  " ++ styled .dim "common time:" ++ plain " " ++
        styled .green (secondsText x ++ "s") ++ endLine
    | none => plain "  " ++ styled .dim "no common time window" ++ endLine

/-- The number of view points of each label. -/
def tally (l : List ViewPoint) : SortedMap Nat :=
  l.foldl (fun m v => m.alter v.kind.label fun n => n.getD 0 + 1) .empty

def countText (n : Nat) : String := padLeft 5 n.repr

def countLine (entry : String × Nat) : List Piece :=
  plain "  " ++ styled .yellow (countText entry.2) ++ plain " " ++ styled .blue entry.1 ++ endLine

def viewPointLines (l : List ViewPoint) : List Piece :=
  title "━━━ View Points ━━━" ++
    (if l.isEmpty then styled .dim "  No view points produced" ++ endLine
    else (tally l).entries.flatMap countLine) ++
    plain "  " ++ styled .bold (countText l.length) ++ plain " " ++ styled .dim "total" ++ endLine

def diagnosticLine (d : Diagnostic) : List Piece :=
  plain "  " ++ styled .yellow "•" ++ plain (" " ++ d.message) ++ endLine

def diagnosticLines (l : List Diagnostic) : List Piece :=
  if l.isEmpty then [] else title "━━━ Diagnostics ━━━" ++ l.flatMap diagnosticLine

def summary (output : String) (c : Conversion) : List Piece :=
  plain "\n" ++ [{ text := "⚙  Wrote: " ++ output, styles := [.cyan, .bold] }] ++ endLine ++
    contextLines c.document.context ++ viewPointLines c.document.viewPoints.toList ++
    diagnosticLines c.diagnostics.toList ++ endLine

end ViewPoints.CommandLine
