/-!
The order of texts by their UTF-8 bytes, which is total and decides every sorted list and map
of the project.
-/

namespace ViewPoints.Text

/-- The UTF-8 form of a text. -/
def bytes (s : String) : List UInt8 := s.toByteArray.data.toList

theorem bytes_inj {a b : String} (h : bytes a = bytes b) : a = b :=
  String.toByteArray_inj.1 (ByteArray.ext (Array.toList_inj.1 h))

/-- Lexicographic order: a proper beginning comes first. -/
def precedes : List UInt8 → List UInt8 → Bool
  | _, [] => false
  | [], _ :: _ => true
  | a :: s, b :: t => a.toNat < b.toNat || (a.toNat == b.toNat && precedes s t)

@[simp] theorem precedes_nil (s : List UInt8) : precedes s [] = false := by
  cases s <;> rfl

@[simp] theorem nil_precedes_cons (b : UInt8) (t : List UInt8) : precedes [] (b :: t) = true := rfl

theorem cons_precedes_cons {a b : UInt8} {s t : List UInt8} :
    precedes (a :: s) (b :: t) = true ↔
      a.toNat < b.toNat ∨ a.toNat = b.toNat ∧ precedes s t = true := by
  simp [precedes]

theorem precedes_irrefl (s : List UInt8) : precedes s s = false := by
  induction s with
  | nil => rfl
  | cons a s ih => simp [precedes, ih]

theorem precedes_trans {s t u : List UInt8} (h1 : precedes s t = true)
    (h2 : precedes t u = true) : precedes s u = true := by
  induction s generalizing t u with
  | nil =>
    cases u with
    | nil => simp at h2
    | cons => rfl
  | cons a s ih =>
    cases t with
    | nil => simp at h1
    | cons b t =>
      cases u with
      | nil => simp at h2
      | cons c u =>
        rw [cons_precedes_cons] at *
        rcases h1 with h1 | ⟨h1, h1'⟩ <;> rcases h2 with h2 | ⟨h2, h2'⟩
        · exact .inl (by omega)
        · exact .inl (by omega)
        · exact .inl (by omega)
        · exact .inr ⟨by omega, ih h1' h2'⟩

theorem precedes_total {s t : List UInt8} (h1 : precedes s t = false)
    (h2 : precedes t s = false) : s = t := by
  induction s generalizing t with
  | nil =>
    cases t with
    | nil => rfl
    | cons => simp at h1
  | cons a s ih =>
    cases t with
    | nil => simp at h2
    | cons b t =>
      rw [← Bool.not_eq_true, cons_precedes_cons] at h1 h2
      have hab : a.toNat = b.toNat := by omega
      have := UInt8.toNat_inj.1 hab
      subst this
      rw [ih (by simpa using fun h => h1 (.inr ⟨rfl, h⟩)) (by simpa using fun h => h2 (.inr ⟨rfl, h⟩))]

/-- `a` comes before `b`, byte by byte. -/
def before (a b : String) : Bool := precedes (bytes a) (bytes b)

theorem before_irrefl (a : String) : before a a = false := precedes_irrefl _

theorem before_trans {a b c : String} (h1 : before a b = true) (h2 : before b c = true) :
    before a c = true :=
  precedes_trans h1 h2

theorem before_total {a b : String} (h1 : before a b = false) (h2 : before b a = false) : a = b :=
  bytes_inj (precedes_total h1 h2)

theorem before_asymm {a b : String} (h : before a b = true) : before b a = false := by
  cases h' : before b a
  · rfl
  · simpa [before_irrefl] using before_trans h h'

end ViewPoints.Text
