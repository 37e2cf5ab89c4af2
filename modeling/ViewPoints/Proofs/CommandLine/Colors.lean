import ViewPoints.CommandLine.Styled
import ViewPoints.Proofs.Text.Digits

/-!
Text without its escape sequences. What is painted has exactly the sequences that the paint has put
there, as long as there was none before.
-/

namespace ViewPoints.CommandLine

/-- The character that every sequence begins with. -/
def escape : Char := '\x1b'

/-- A text that no terminal takes for anything else. -/
def Unescaped (s : String) : Prop := escape ∉ s.toList

instance (s : String) : Decidable (Unescaped s) := inferInstanceAs (Decidable (escape ∉ s.toList))

/-! ### Removing the sequences -/

/-- The parameters of a style are numbers with semicolons between them. -/
def isParameter (c : Char) : Bool := c.isDigit || c == ';'

/-- How much of a text belongs to a sequence for a style, when an escape stands before it. -/
def sequenceLength? : List Char → Option ℕ
  | '[' :: s =>
    match s.span isParameter with
    | (parameters, 'm' :: _) => some (parameters.length + 2)
    | _ => none
  | _ => none

/-- A text without sequences for styles. The first characters, so many of them, belong to a sequence
that has begun. -/
def withoutSequences : ℕ → List Char → List Char
  | _, [] => []
  | n + 1, _ :: s => withoutSequences n s
  | 0, c :: s =>
    match (if c = escape then sequenceLength? s else none) with
    | some n => withoutSequences n s
    | none => c :: withoutSequences 0 s

def withoutStyles (s : String) : String := .ofList (withoutSequences 0 s.toList)

example : withoutStyles "\x1b[1m\x1b[36mWrote\x1b[0m\x1b[0m" = "Wrote" := by decide +kernel

/-- Whatever follows `s`, all that is left of it is `t`. -/
def Leaves (s t : List Char) : Prop :=
  ∀ u, withoutSequences 0 (s ++ u) = t ++ withoutSequences 0 u

variable {s s' t t' : List Char} {p : Piece} {l u v : List Piece}

lemma leaves_nil : Leaves [] [] := fun _ => rfl

lemma Leaves.append (h : Leaves s t) (h' : Leaves s' t') : Leaves (s ++ s') (t ++ t') := by
  intro u
  rw [List.append_assoc, h, h', List.append_assoc]

lemma leaves_of_not_mem (h : escape ∉ s) : Leaves s s := by
  intro u
  induction s with
  | nil => rfl
  | cons c s ih =>
    rw [List.mem_cons, not_or] at h
    rw [List.cons_append, withoutSequences, if_neg (Ne.symm h.1)]
    exact congrArg (c :: ·) (ih h.2)

/-- The rest of a sequence is left out. -/
lemma withoutSequences_append (s u : List Char) :
    withoutSequences s.length (s ++ u) = withoutSequences 0 u := by
  induction s with
  | nil => rfl
  | cons c s ih => exact ih

lemma leaves_sequence {parameters : List Char} (h : parameters.all isParameter = true) :
    Leaves (escape :: '[' :: parameters ++ ['m']) [] := by
  intro u
  have hspan : (parameters ++ 'm' :: u).span isParameter = (parameters, 'm' :: u) :=
    Text.span_append (List.all_eq_true.1 h) (by simp [isParameter])
  have hlength : sequenceLength? ('[' :: parameters ++ 'm' :: u) =
      some ('[' :: parameters ++ ['m']).length := by
    rw [List.cons_append, sequenceLength?, hspan]
    simp
  have happ : escape :: '[' :: parameters ++ ['m'] ++ u =
      escape :: ('[' :: parameters ++ 'm' :: u) := by simp
  rw [happ, withoutSequences, if_pos rfl, hlength]
  have hrest := withoutSequences_append ('[' :: parameters ++ ['m']) u
  simpa using hrest

/-! ### Painted text -/

lemma leaves_code (style : Style) : Leaves style.code.toList [] := by
  have h : ∃ parameters, style.code.toList = escape :: '[' :: parameters ++ ['m'] ∧
      parameters.all isParameter = true := by
    cases style
    case bold => exact ⟨['1'], rfl, rfl⟩
    case dim => exact ⟨['2'], rfl, rfl⟩
    case green => exact ⟨['3', '2'], rfl, rfl⟩
    case yellow => exact ⟨['3', '3'], rfl, rfl⟩
    case blue => exact ⟨['3', '4'], rfl, rfl⟩
    case cyan => exact ⟨['3', '6'], rfl, rfl⟩
    case gray => exact ⟨['9', '0'], rfl, rfl⟩
  obtain ⟨parameters, hcode, hp⟩ := h
  rw [hcode]
  exact leaves_sequence hp

lemma leaves_resetCode : Leaves resetCode.toList [] := @leaves_sequence ['0'] rfl

/-- A text may be painted over and over. -/
lemma leaves_piece (h : Unescaped p.text) :
    Leaves (p.render true).toList (p.render false).toList := by
  -- the styles are laid on from the inside, and the text is left at every step
  have paint (styles : List Style) {s : String} (hs : Leaves s.toList p.text.toList) :
      Leaves (styles.foldl (fun s style => style.code ++ s ++ resetCode) s).toList
        p.text.toList := by
    induction styles generalizing s with
    | nil => exact hs
    | cons style styles ih =>
      refine ih ?_
      have h := ((leaves_code style).append hs).append leaves_resetCode
      rwa [List.nil_append, List.append_nil, ← String.toList_append, ← String.toList_append] at h
  exact paint p.styles (leaves_of_not_mem h)

/-- Nothing of the text is an escape but what paints it. -/
def Clean (l : List Piece) : Prop := ∀ p ∈ l, Unescaped p.text

lemma leaves_render (h : Clean l) : Leaves (render true l).toList (render false l).toList := by
  induction l with
  | nil => exact leaves_nil
  | cons p l ih =>
    have hp := leaves_piece (h p List.mem_cons_self)
    have hl := ih fun q hq => h q (List.mem_cons_of_mem _ hq)
    have hcons (color : Bool) : render color (p :: l) = p.render color ++ render color l := by
      rw [render, List.map_cons, String.join_cons, render]
    rw [hcons, hcons, String.toList_append, String.toList_append]
    exact hp.append hl

theorem withoutStyles_render (h : Clean l) : withoutStyles (render true l) = render false l := by
  have hu := leaves_render h []
  rw [List.append_nil] at hu
  rw [withoutStyles, hu, withoutSequences, List.append_nil, String.ofList_toList]

/-! ### Texts without an escape -/

@[simp] lemma unescaped_append {a b : String} :
    Unescaped (a ++ b) ↔ Unescaped a ∧ Unescaped b := by
  simp [Unescaped]

@[simp] lemma clean_append : Clean (u ++ v) ↔ Clean u ∧ Clean v := List.forall_mem_append

@[simp] lemma clean_plain {a : String} : Clean (plain a) ↔ Unescaped a := List.forall_mem_singleton

@[simp] lemma clean_styled {style : Style} {a : String} : Clean (styled style a) ↔ Unescaped a :=
  List.forall_mem_singleton

lemma clean_flatMap {α : Type} {l : List α} {f : α → List Piece} (h : ∀ a ∈ l, Clean (f a)) :
    Clean (l.flatMap f) := by
  intro p hp
  obtain ⟨a, ha, hp⟩ := List.mem_flatMap.1 hp
  exact h a ha p hp

end ViewPoints.CommandLine
