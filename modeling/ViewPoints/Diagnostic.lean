import ViewPoints.Json.Basic
import ViewPoints.Text.Line

/-!
What was met in the input and not understood. A diagnostic stops nothing and adds no view
point.
-/

namespace ViewPoints

inductive Diagnostic where
  /-- A header whose key is not in the vocabulary. -/
  | unknownDeviation (number key : String)
  /-- A block whose first line is no header, with all its text. -/
  | malformedPreamble (text : String)
  /-- A `reported` clause of an unknown field, or none that can be read. -/
  | unknownReportedField (number : String) (field : Option String)
  /-- An `unexpected` clause of an unknown value, or none that can be read. -/
  | unknownUnexpectedValue (number : String) (value : Option String)
  /-- A line that gives the clock offset in something other than numbers. -/
  | invalidTimeOffset (line : String)
  deriving DecidableEq

namespace Diagnostic

def message : Diagnostic → String
  | unknownDeviation number key =>
    "deviation #" ++ number ++ ": no definition for '" ++ key ++ "'"
  | malformedPreamble text => "unexpected deviation preamble: " ++ Text.firstLine text
  | unknownReportedField number (some field) =>
    "deviation #" ++ number ++ ": no definition for reported field '" ++ field ++ "'"
  | unknownReportedField number none =>
    "deviation #" ++ number ++ ": missing 'reported ...; expected ...' clause"
  | unknownUnexpectedValue number (some value) =>
    "deviation #" ++ number ++ ": no definition for unexpected '" ++ value ++ "'"
  | unknownUnexpectedValue number none =>
    "deviation #" ++ number ++ ": missing 'unexpected ...' clause"
  | invalidTimeOffset line => "unreadable time offset: " ++ line

def toJson : Diagnostic → Json
  | unknownDeviation number key =>
    .obj [("kind", .str "unknown_deviation"), ("number", .str number), ("key", .str key)]
  | malformedPreamble text => .obj [("kind", .str "malformed_preamble"), ("text", .str text)]
  | unknownReportedField number field =>
    .obj [("kind", .str "unknown_reported_field"), ("number", .str number),
      ("field", .ofOption .str field)]
  | unknownUnexpectedValue number value =>
    .obj [("kind", .str "unknown_unexpected_value"), ("number", .str number),
      ("value", .ofOption .str value)]
  | invalidTimeOffset line => .obj [("kind", .str "invalid_time_offset"), ("line", .str line)]

end Diagnostic

end ViewPoints
