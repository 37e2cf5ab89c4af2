import ViewPoints.Text.Digit

/-!
White space: the characters with the property `White_Space`. No digit is one.
-/

namespace ViewPoints.Text

/-- The runs of blank code points, first and last. -/
def blankRanges : List (Nat × Nat) := [
  (0x9, 0xD), (0x20, 0x20), (0x85, 0x85), (0xA0, 0xA0), (0x1680, 0x1680), (0x2000, 0x200A),
  (0x2028, 0x2029), (0x202F, 0x202F), (0x205F, 0x205F), (0x3000, 0x3000)]

def isBlank (c : Char) : Bool :=
  blankRanges.any fun r => r.1 ≤ c.toNat && c.toNat ≤ r.2

/-- A character that ends no word. -/
def isSolid (c : Char) : Bool := !isBlank c

theorem isBlank_iff {c : Char} :
    isBlank c = true ↔ ∃ r ∈ blankRanges, r.1 ≤ c.toNat ∧ c.toNat ≤ r.2 := by
  simp [isBlank]

theorem isSolid_of_isDigit {c : Char} (h : isDigit c = true) : isSolid c = true := by
  have apart : ∀ z ∈ digitZeros, ∀ r ∈ blankRanges, z + 9 < r.1 ∨ r.2 < z := by decide +kernel
  obtain ⟨z, hz, h1, h2⟩ := isDigit_iff.1 h
  cases hb : isBlank c
  · simp [isSolid, hb]
  · obtain ⟨r, hr, h3, h4⟩ := isBlank_iff.1 hb
    have := apart z hz r hr
    omega

/-- A text without the blanks it begins with. -/
def trimStart : List Char → List Char := List.dropWhile isBlank

end ViewPoints.Text
