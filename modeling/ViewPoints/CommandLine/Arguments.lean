import ViewPoints.Conversion

/-!
The arguments of the program, read from left to right. Help and version end the reading at
once, as does an argument that is not known or lacks its value. A later setting replaces an
earlier one.
-/

namespace ViewPoints.CommandLine

structure Settings where
  helper : String
  runLog : String
  output : String
  options : Options
  summary : Bool
  color : Bool
  deriving DecidableEq

inductive Request where
  | help
  | version
  | convert (s : Settings)
  deriving DecidableEq

inductive UsageError where
  | missingValue (option : String)
  | unknown (argument : String)
  | missingHelper
  | missingRunLog
  deriving DecidableEq

/-- The settings made so far. -/
structure Draft where
  helper : Option String := none
  runLog : Option String := none
  output : String := "aoc_view_points.json"
  options : Options := {}
  summary : Bool := false
  color : Bool
  deriving DecidableEq

namespace Draft

/-- The options without a value. -/
def switches : List (String × (Draft → Draft)) := [
  ("--color", fun d => { d with color := true }),
  ("--no-color", fun d => { d with color := false }),
  ("--summary", fun d => { d with summary := true })]

def setReference (d : Draft) (v : String) : Draft :=
  { d with options.trackers.reference := v }

def setTest (d : Draft) (v : String) : Draft :=
  { d with options.trackers.test := v }

def setStartDate (d : Draft) (v : String) : Draft :=
  { d with options.startDate := some v }

/-- The options whose value is the next argument, whatever it looks like. -/
def settings : List (String × (Draft → String → Draft)) := [
  ("-ah", fun d v => { d with helper := some v }),
  ("-ao", fun d v => { d with runLog := some v }),
  ("-o", fun d v => { d with output := v }),
  ("-sd", setStartDate),
  ("-r", setReference),
  ("-t", setTest)]

/-- Both inputs must be named. -/
def finish (d : Draft) : Except UsageError Request :=
  match d.helper, d.runLog with
  | none, _ => .error .missingHelper
  | _, none => .error .missingRunLog
  | some helper, some runLog =>
    .ok (.convert ⟨helper, runLog, d.output, d.options, d.summary, d.color⟩)

/-- What an argument asks for. -/
inductive Meaning where
  | request (r : Request)
  | switch (f : Draft → Draft)
  | setting (f : Draft → String → Draft)
  | unknown

def meaning (a : String) : Meaning :=
  if a = "-h" || a = "--help" then .request .help
  else if a = "-V" || a = "--version" then .request .version
  else
    match switches.lookup a, settings.lookup a with
    | some f, _ => .switch f
    | none, some f => .setting f
    | none, none => .unknown

/-- Reads the arguments that are left. -/
def read (d : Draft) : List String → Except UsageError Request
  | [] => d.finish
  | a :: rest =>
    match meaning a with
    | .request r => .ok r
    | .switch f => read (f d) rest
    | .setting f =>
      match rest with
      | [] => .error (.missingValue a)
      | v :: rest => read (f d v) rest
    | .unknown => .error (.unknown a)

end Draft

/-- Reads all arguments. Colour is on to begin with when the output is a terminal. -/
def parse (terminal : Bool) (args : List String) : Except UsageError Request :=
  ({ color := terminal } : Draft).read args

def versionText : String := "aocvp 0.1.0"

def helpText : String := versionText ++ "

Convert AOC helper and run-log output into a view-point JSON document.

Usage:
  aocvp -ah <helper.hlp> -ao <run.out> [OPTIONS]

Options:
  -ah <file>                 AOC helper file (required).
  -ao <file>                 AOC run log (required).
  -o <file>                  Output JSON file. Default: aoc_view_points.json
  -sd <date>                 Start date written into the view point context.
  -r <name>                  Reference tracker name. Default: REF
  -t <name>                  Test tracker name. Default: TST
  --summary                  Print a summary of the conversion.
  --color                    Force ANSI color output.
  --no-color                 Disable ANSI color output.
  -h, --help                 Show this help message.
  -V, --version              Print version information.

Logging goes to stderr; set RUST_LOG (e.g. RUST_LOG=aocvp=debug) to adjust.

Exit codes:
  0  Success.
  1  Conversion or I/O error.
  2  Invalid arguments.
"

/-- The message of an error, with the help where the arguments as a whole are wrong. -/
def UsageError.message : UsageError → String
  | missingValue option => "error: " ++ option ++ " expects a value"
  | unknown argument => "error: unknown argument '" ++ argument ++ "'\n\n" ++ helpText
  | missingHelper => "error: missing helper file (-ah)\n\n" ++ helpText
  | missingRunLog => "error: missing run log (-ao)\n\n" ++ helpText

end ViewPoints.CommandLine
