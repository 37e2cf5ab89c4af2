/-!
A word inside a text: at its beginning, or anywhere.
-/

namespace ViewPoints.Text

/-- What follows `w` in a text that begins with it. -/
def after? : List Char → List Char → Option (List Char)
  | [], s => some s
  | _ :: _, [] => none
  | a :: w, c :: s => if a = c then after? w s else none

@[simp] theorem after?_nil (s : List Char) : after? [] s = some s := by
  cases s <;> rfl

theorem after?_eq_some_iff {w s r : List Char} : after? w s = some r ↔ s = w ++ r := by
  induction w generalizing s with
  | nil => simp [eq_comm]
  | cons a w ih =>
    cases s with
    | nil => simp [after?]
    | cons c s =>
      by_cases h : a = c
      · subst h
        simp [after?, ih]
      · have h' : c ≠ a := fun e => h e.symm
        simp [after?, h, h']

@[simp] theorem after?_append (w r : List Char) : after? w (w ++ r) = some r :=
  after?_eq_some_iff.2 rfl

/-- Whether the text begins with `w`. -/
def startsWith (w s : List Char) : Bool := (after? w s).isSome

theorem startsWith_iff {w s : List Char} : startsWith w s = true ↔ ∃ r, s = w ++ r := by
  simp [startsWith, Option.isSome_iff_exists, after?_eq_some_iff]

/-- Whether `w` stands anywhere in the text. -/
def occurs (w : List Char) : List Char → Bool
  | [] => w.isEmpty
  | c :: s => startsWith w (c :: s) || occurs w s

theorem occurs_iff {w s : List Char} : occurs w s = true ↔ ∃ u r, s = u ++ (w ++ r) := by
  induction s with
  | nil => simp [occurs]
  | cons c s ih =>
    rw [occurs, Bool.or_eq_true, startsWith_iff, ih]
    constructor
    · rintro (⟨r, h⟩ | ⟨u, r, rfl⟩)
      · exact ⟨[], r, h⟩
      · exact ⟨c :: u, r, rfl⟩
    · rintro ⟨u, r, h⟩
      cases u with
      | nil => exact .inl ⟨r, h⟩
      | cons d u => exact .inr ⟨u, r, (List.cons.inj h).2⟩

/-- Whether the word `w` stands anywhere in the line. -/
def mentions (line w : String) : Bool := occurs w.toList line.toList

theorem mentions_iff {line w : String} :
    mentions line w = true ↔ ∃ u r, line.toList = u ++ (w.toList ++ r) :=
  occurs_iff

end ViewPoints.Text
