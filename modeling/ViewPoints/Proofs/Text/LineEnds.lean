import Mathlib.Tactic.Lemma
import ViewPoints.Text.Line

/-!
How lines end. A newline with a carriage return before it ends a line as a newline alone does, and
the last line may lack its newline. A newline more than that is an empty line.
-/

namespace ViewPoints.Text

/-- A text with a carriage return before each newline. -/
def withReturns (s : String) : String :=
  .ofList (s.toList.flatMap fun c => if c = '\n' then ['\r', '\n'] else [c])

/-- What may be done to the ends of the lines of a text: a carriage return is put before each
newline, where there was none, or a newline is added, unless that would take a carriage return
away. -/
inductive Reended : String → String → Prop where
  | same (s : String) : Reended s s
  | returns {s : String} (h : '\r' ∉ s.toList) : Reended s (withReturns s)
  | newline {s : String} (h : s.toList.getLast? ≠ some '\r') : Reended s (s ++ "\n")

section Splitting

variable {α : Type} [DecidableEq α] {nl cr : α}

lemma closeLine_of_ne {line : List α} (h : line.head? ≠ some cr) :
    closeLine cr line = line.reverse := by
  cases line with
  | nil => rfl
  | cons c line => exact if_neg fun hc => h (congrArg some hc)

/-- The carriage returns go with the ends of the lines. -/
lemma splitFrom_returns (hne : cr ≠ nl) {s line : List α} (hs : cr ∉ s) (hl : cr ∉ line)
    (done : List (List α)) :
    splitFrom nl cr (s.flatMap fun c => if c = nl then [cr, nl] else [c]) line done =
      splitFrom nl cr s line done := by
  induction s generalizing line done with
  | nil => rfl
  | cons c s ih =>
    simp only [List.mem_cons, not_or] at hs
    rw [List.flatMap_cons]
    by_cases hn : c = nl
    · have hh : line.head? ≠ some cr := fun h => hl (List.mem_of_mem_head? h)
      have he : closeLine cr (cr :: line) = closeLine cr line := by
        rw [closeLine_of_ne hh]
        exact if_pos rfl
      simp only [hn, if_true, List.cons_append, List.nil_append, splitFrom, if_neg hne, he]
      exact ih hs.2 List.not_mem_nil _
    · have hl' : cr ∉ c :: line := by simp [hs.1, hl]
      simp only [if_neg hn, List.cons_append, List.nil_append, splitFrom]
      exact ih hs.2 hl' _

/-- A newline at the end ends the line in progress, or is a line of its own. -/
lemma splitFrom_newline {s line : List α} (h : (line.reverse ++ s).getLast? ≠ some cr)
    (done : List (List α)) :
    splitFrom nl cr (s ++ [nl]) line done = splitFrom nl cr s line done ∨
      splitFrom nl cr (s ++ [nl]) line done = splitFrom nl cr s line done ++ [[]] := by
  induction s generalizing line done with
  | nil =>
    have hh : line.head? ≠ some cr := by simpa using h
    cases line with
    | nil => exact .inr (by simp [splitFrom, closeLine])
    | cons c line => exact .inl (by simp [splitFrom, closeLine_of_ne hh])
  | cons c s ih =>
    simp only [List.cons_append, splitFrom]
    split
    next =>
      refine ih (fun hr => h ?_) _
      rw [List.getLast?_append, List.getLast?_cons]
      rw [List.reverse_nil, List.nil_append] at hr
      simp [hr]
    next => exact ih (by simpa using h) _

/-- The lines behind a newline are those of the text behind it. -/
lemma split_newline_append (u s : List α) :
    split nl cr (u ++ nl :: s) = split nl cr (u ++ [nl]) ++ split nl cr s := by
  have go (line : List α) (done : List (List α)) :
      splitFrom nl cr (u ++ nl :: s) line done =
        splitFrom nl cr (u ++ [nl]) line done ++ split nl cr s := by
    induction u generalizing line done with
    | nil =>
      simp only [List.nil_append, splitFrom, if_true]
      exact splitFrom_eq ..
    | cons c u ih =>
      simp only [List.cons_append, splitFrom]
      split
      next => exact ih ..
      next => exact ih ..
  exact go [] []

end Splitting

variable {s : String}

theorem lines_withReturns (h : '\r' ∉ s.toList) : lines (withReturns s) = lines s := by
  have hs := splitFrom_returns (show '\r' ≠ '\n' by decide) h List.not_mem_nil []
  rw [lines, withReturns, String.toList_ofList, split, hs]
  rfl

theorem lines_append_newline (h : s.toList.getLast? ≠ some '\r') :
    lines (s ++ "\n") = lines s ∨ lines (s ++ "\n") = lines s ++ [""] := by
  have hs := @splitFrom_newline _ _ '\n' '\r' s.toList [] h []
  rw [lines, String.toList_append]
  rcases hs with hs | hs
  · left
    exact congrArg (List.map String.ofList) hs
  · right
    exact (congrArg (List.map String.ofList) hs).trans List.map_append

/-- The lines stay as they are, but for an empty line behind them. -/
theorem Reended.lines_eq {s s' : String} (h : Reended s s') :
    lines s' = lines s ∨ lines s' = lines s ++ [""] := by
  cases h with
  | same => exact .inl rfl
  | returns h => exact .inl (lines_withReturns h)
  | newline h => exact lines_append_newline h

end ViewPoints.Text
