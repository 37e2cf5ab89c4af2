import Mathlib.Data.List.Basic
import ViewPoints.Diagnostic

/-!
What is said of a diagnostic: the number of the deviation and, in quotes, what is not known of it,
or else the line that was not understood.
-/

namespace ViewPoints

namespace Text

/-- The first line of a text: what stands before its first newline, without one carriage return
before that, or all of it. -/
inductive BeginsWith : String → String → Prop where
  | whole {line : String} (h : '\n' ∉ line.toList) : BeginsWith line line
  | newline {line : String} (rest : String) (h : '\n' ∉ line.toList)
    (hcr : line.toList.getLast? ≠ some '\r') : BeginsWith (line ++ "\n" ++ rest) line
  | crlf {line : String} (rest : String) (h : '\n' ∉ line.toList) :
    BeginsWith (line ++ "\r\n" ++ rest) line

lemma beginsWith_closeLine {u : List Char} (h : '\n' ∉ u) (s : List Char) :
    BeginsWith (.ofList (u ++ '\n' :: s)) (.ofList (closeLine '\r' u.reverse)) := by
  rcases List.eq_nil_or_concat' u with rfl | ⟨v, c, rfl⟩
  · have ht : String.ofList ([] ++ '\n' :: s) = "" ++ "\n" ++ .ofList s := by
      simp
    rw [ht]
    exact .newline _ (by simp) (by simp)
  · rw [List.reverse_append, List.reverse_singleton, List.singleton_append, closeLine]
    split_ifs with hc
    · have ht : String.ofList ((v ++ [c]) ++ '\n' :: s) =
          .ofList v ++ "\r\n" ++ .ofList s := by
        simp [String.ext_iff, hc]
      rw [List.reverse_reverse, ht]
      exact .crlf _ fun hv => h (List.mem_append_left _ (by simpa using hv))
    · have ht : String.ofList ((v ++ [c]) ++ '\n' :: s) =
          .ofList (v ++ [c]) ++ "\n" ++ .ofList s := by
        simp [String.ext_iff]
      rw [List.reverse_cons, List.reverse_reverse, ht]
      exact .newline _ (by simpa using h) (by simpa using hc)

/-- A text begins with its first line. -/
theorem beginsWith_firstLine (text : String) : BeginsWith text (firstLine text) := by
  rw [firstLine, lines]
  by_cases hn : '\n' ∈ text.toList
  · obtain ⟨u, s, hu, h⟩ := List.eq_append_cons_of_mem hn
    rw [hu, split_append _ _ _ _ h, List.map_cons, List.headD_cons, ← String.ofList_toList (s := text), hu]
    exact beginsWith_closeLine h s
  · by_cases he : text.toList = []
    · obtain rfl : text = "" := by simpa using he
      exact .whole hn
    · rw [split_of_not_mem _ _ _ hn he, List.map_singleton, List.headD_cons, String.ofList_toList]
      exact .whole hn

end Text

namespace Diagnostic

/-- What is said of the deviation of a number. -/
def about (number what : String) : String := "deviation #" ++ number ++ ": " ++ what

def quoted (s : String) : String := "'" ++ s ++ "'"

/-- What is said of a diagnostic. -/
inductive Says : Diagnostic → String → Prop where
  | deviation (number key : String) :
    Says (.unknownDeviation number key) (about number ("no definition for " ++ quoted key))
  | preamble {text line : String} (h : Text.BeginsWith text line) :
    Says (.malformedPreamble text) ("unexpected deviation preamble: " ++ line)
  | reported (number field : String) : Says (.unknownReportedField number (some field))
    (about number ("no definition for reported field " ++ quoted field))
  | noReported (number : String) : Says (.unknownReportedField number none)
    (about number ("missing " ++ quoted "reported ...; expected ..." ++ " clause"))
  | unexpected (number value : String) : Says (.unknownUnexpectedValue number (some value))
    (about number ("no definition for unexpected " ++ quoted value))
  | noUnexpected (number : String) : Says (.unknownUnexpectedValue number none)
    (about number ("missing " ++ quoted "unexpected ..." ++ " clause"))
  | offset (line : String) : Says (.invalidTimeOffset line) ("unreadable time offset: " ++ line)

theorem says_message (d : Diagnostic) : Says d d.message := by
  have text {s t : String} (h : Says d s) (he : t.toList = s.toList) : Says d t :=
    String.toList_inj.1 he ▸ h
  unfold message
  cases d with
  | unknownDeviation number key => exact text (.deviation number key) (by simp [about, quoted])
  | malformedPreamble t => exact .preamble (Text.beginsWith_firstLine t)
  | unknownReportedField number field =>
    cases field with
    | none => exact text (.noReported number) (by simp [about, quoted])
    | some field => exact text (.reported number field) (by simp [about, quoted])
  | unknownUnexpectedValue number value =>
    cases value with
    | none => exact text (.noUnexpected number) (by simp [about, quoted])
    | some value => exact text (.unexpected number value) (by simp [about, quoted])
  | invalidTimeOffset line => exact .offset line

end Diagnostic

end ViewPoints
