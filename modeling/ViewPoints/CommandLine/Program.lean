import ViewPoints.CommandLine.Arguments
import ViewPoints.CommandLine.Files
import ViewPoints.CommandLine.Summary

/-!
A run of the program. Both inputs are opened before either is read, and the output file is opened
only after the conversion. Every diagnostic is logged when it is met, also in a run that fails later.
-/

namespace ViewPoints.CommandLine

/-- How a conversion went. -/
structure Attempt where
  /-- The diagnostics that were logged. -/
  warnings : List Diagnostic := []
  result : Except Failure Conversion

/-- What a run says, and the code with which it ends: 1 for a failure and 2 for wrong
arguments. -/
structure Report where
  exitCode : UInt8 := 0
  stdout : String := ""
  /-- The diagnostics that are logged, before anything else is said. -/
  warnings : List Diagnostic := []
  stderr : String := ""
  deriving DecidableEq

variable {m : Type → Type} [Monad m]

def convertFiles (files : FileAccess m) (s : Settings) : m Attempt := do
  match ← files.openFile s.helper with
  | .error e => return { result := .error (.os e) }
  | .ok helper =>
    match ← files.openFile s.runLog with
    | .error e => return { result := .error (.os e) }
    | .ok runLog =>
      -- the run log has no diagnostics
      let warnings := (HelperFile.met s.options.trackers helper.lines).toList
      match Conversion.ofLines s.options helper.lines runLog.lines with
      | .error e => return { warnings := warnings, result := .error e }
      | .ok c =>
        match ← files.write s.output c.document.pretty with
        | .error e => return { warnings := warnings, result := .error (.os e) }
        | .ok () => return { warnings := warnings, result := .ok c }

def report (s : Settings) (a : Attempt) : Report :=
  match a.result with
  | .error e =>
    { exitCode := 1, warnings := a.warnings, stderr := "error: " ++ e.message ++ "\n" }
  | .ok c =>
    { stdout := if s.summary then render s.color (summary s.output c) else ""
      warnings := a.warnings }

def run (files : FileAccess m) (terminal : Bool) (args : List String) : m Report :=
  match parse terminal args with
  | .error e => pure { exitCode := 2, stderr := e.message ++ "\n" }
  | .ok .help => pure { stdout := helpText ++ "\n" }
  | .ok .version => pure { stdout := versionText ++ "\n" }
  | .ok (.convert s) => do return report s (← convertFiles files s)

/-! ### The standard streams -/

/-- What becomes of what a run says. The log goes to the stream for errors. By default it shows
every diagnostic as a warning and nothing of lower rank. The stream for errors takes all that is
written to it. -/
structure Streams where
  log : List Diagnostic → String
  log_nil : log [] = ""
  /-- What is taken of a text that is printed, and what is said if that was not possible. -/
  print : String → String × Option String

/-- What a run leaves on its streams, and the code with which it ends. -/
structure Transcript where
  exitCode : UInt8
  stdout : String
  stderr : String
  deriving DecidableEq

namespace Streams

/-- What is said of a text that cannot be printed. Nothing can go wrong if there is no text. -/
def complaint? (o : Streams) (text : String) : Option String :=
  if text = "" then none else (o.print text).2

def printed (o : Streams) (text : String) : String :=
  if text = "" then "" else (o.print text).1

/-- A run that cannot print what it has to say ends in a panic. -/
def transcript (o : Streams) (r : Report) : Transcript where
  exitCode := if (o.complaint? r.stdout).isSome then 101 else r.exitCode
  stdout := o.printed r.stdout
  stderr := o.log r.warnings ++ r.stderr ++ (o.complaint? r.stdout).getD ""

end Streams

end ViewPoints.CommandLine
