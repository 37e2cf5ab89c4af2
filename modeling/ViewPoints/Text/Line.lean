/-!
The lines of a text. A newline ends a line and takes with it one carriage return directly
before it; any other carriage return stays. What follows the last newline is a line unless
it is empty. The text may be of characters or of bytes.
-/

namespace ViewPoints.Text

variable {α : Type} [DecidableEq α]

/-- A finished line, without the carriage return it ends with; `line` is written backwards. -/
def closeLine (cr : α) : List α → List α
  | [] => []
  | c :: line => if c = cr then line.reverse else (c :: line).reverse

/-- Splits what is left of a text. The line in progress and the lines before it are written
backwards. -/
def splitFrom (nl cr : α) : List α → List α → List (List α) → List (List α)
  | [], [], done => done.reverse
  | [], c :: line, done => ((c :: line).reverse :: done).reverse
  | c :: s, line, done =>
    if c = nl then splitFrom nl cr s [] (closeLine cr line :: done)
    else splitFrom nl cr s (c :: line) done

def split (nl cr : α) (s : List α) : List (List α) := splitFrom nl cr s [] []

theorem splitFrom_eq (nl cr : α) (s line : List α) (done : List (List α)) :
    splitFrom nl cr s line done = done.reverse ++ splitFrom nl cr s line [] := by
  induction s generalizing line done with
  | nil => cases line <;> simp [splitFrom]
  | cons c s ih =>
    simp only [splitFrom]
    split
    · rw [ih, ih [] [closeLine cr line]]
      simp
    · exact ih _ _

@[simp] theorem split_nil (nl cr : α) : split nl cr [] = [] := rfl

/-- The lines up to a newline do not depend on what follows it. -/
theorem splitFrom_append (nl cr : α) (u s line : List α) (done : List (List α)) (h : nl ∉ u) :
    splitFrom nl cr (u ++ nl :: s) line done =
      splitFrom nl cr s [] (closeLine cr (u.reverse ++ line) :: done) := by
  induction u generalizing line with
  | nil => simp [splitFrom]
  | cons c u ih =>
    simp only [List.mem_cons, not_or] at h
    have hc : c ≠ nl := fun e => h.1 e.symm
    simp [splitFrom, hc, ih _ h.2]

theorem split_append (nl cr : α) (u s : List α) (h : nl ∉ u) :
    split nl cr (u ++ nl :: s) = closeLine cr u.reverse :: split nl cr s := by
  rw [split, splitFrom_append nl cr u s [] [] h, splitFrom_eq]
  simp [split]

/-- The last line may lack its newline. -/
theorem split_of_not_mem (nl cr : α) (u : List α) (h : nl ∉ u) (hu : u ≠ []) :
    split nl cr u = [u] := by
  have go : ∀ (u line : List α), nl ∉ u → u ++ line ≠ [] →
      splitFrom nl cr u line [] = [line.reverse ++ u] := by
    intro u
    induction u with
    | nil =>
      intro line _ hl
      cases line with
      | nil => simp at hl
      | cons => simp [splitFrom]
    | cons c u ih =>
      intro line h _
      simp only [List.mem_cons, not_or] at h
      have hc : c ≠ nl := fun e => h.1 e.symm
      simp only [splitFrom, hc, if_false]
      rw [ih _ h.2 (by simp)]
      simp
  simpa [split] using go u [] h (by simpa using hu)

theorem mem_of_mem_closeLine {cr c : α} {line : List α}
    (h : c ∈ closeLine cr line) : c ∈ line := by
  cases line with
  | nil => simp [closeLine] at h
  | cons d line =>
    simp only [closeLine] at h
    split at h
    · exact List.mem_cons_of_mem _ (List.mem_reverse.1 h)
    · exact List.mem_reverse.1 h

/-- What stands on a line stands in the text. -/
theorem mem_of_mem_splitFrom {nl cr c : α} {s line : List α} {done : List (List α)} {l : List α}
    (hl : l ∈ splitFrom nl cr s line done) (hc : c ∈ l) : c ∈ s ∨ c ∈ line ∨ ∃ d ∈ done, c ∈ d := by
  induction s generalizing line done with
  | nil =>
    cases line with
    | nil => exact .inr (.inr ⟨l, by simpa [splitFrom] using hl, hc⟩)
    | cons d line =>
      simp only [splitFrom, List.mem_reverse, List.mem_cons] at hl
      rcases hl with rfl | hl
      · exact .inr (.inl (List.mem_reverse.1 hc))
      · exact .inr (.inr ⟨l, hl, hc⟩)
  | cons d s ih =>
    simp only [splitFrom] at hl
    split at hl
    · rcases ih hl with h | h | ⟨k, hk, h⟩
      · exact .inl (List.mem_cons_of_mem _ h)
      · simp at h
      · rcases List.mem_cons.1 hk with rfl | hk
        · exact .inr (.inl (mem_of_mem_closeLine h))
        · exact .inr (.inr ⟨k, hk, h⟩)
    · rcases ih hl with h | h | h
      · exact .inl (List.mem_cons_of_mem _ h)
      · rcases List.mem_cons.1 h with rfl | h
        · exact .inl List.mem_cons_self
        · exact .inr (.inl h)
      · exact .inr (.inr h)

/-- The lines of a text. -/
def lines (s : String) : List String :=
  (split '\n' '\r' s.toList).map String.ofList

theorem mem_of_mem_lines {s line : String} {c : Char} (hl : line ∈ lines s)
    (hc : c ∈ line.toList) : c ∈ s.toList := by
  obtain ⟨l, hs, rfl⟩ := List.mem_map.1 hl
  rcases mem_of_mem_splitFrom hs (by simpa using hc) with h | h | ⟨_, h, _⟩
  · exact h
  · simp at h
  · simp at h

/-- The lines of a file, each read as UTF-8; `none` stands for one that is not. -/
def linesOfBytes (b : ByteArray) : List (Option String) :=
  (split 0x0A 0x0D b.data.toList).map fun line => String.fromUTF8? ⟨line.toArray⟩

/-- The first line of a text, without the end of line that follows it. -/
def firstLine (s : String) : String := (lines s).headD ""

end ViewPoints.Text
