import Mathlib.Data.Rat.Defs
import Mathlib.Algebra.Order.Field.Rat
import ViewPoints.Json.Reader

/-!
The texts of JSON and what they stand for, after RFC 8259. A text may have gaps around every token,
any character of a string may be escaped, and a character beyond the first plane also by a pair of
units.
-/

namespace ViewPoints.Json

/-! ### Numbers -/

def Digits (s : List Char) : Prop := s ≠ [] ∧ ∀ c ∈ s, Text.isPlainDigit c = true

/-- The digits before the point. Only a zero that stands alone may come first. -/
def Whole (s : List Char) : Prop := Digits s ∧ (s.head? = some '0' → s = ['0'])

/-- What may follow the whole part, and the digits behind the point. -/
inductive Fraction : List Char → List Char → Prop where
  | none : Fraction [] []
  | point {s : List Char} (h : Digits s) : Fraction ('.' :: s) s

/-- What may follow the digits, and the power of ten. -/
inductive Power : List Char → Int → Prop where
  | none : Power [] 0
  | plain {letter : Char} {s : List Char} (hl : letter = 'e' ∨ letter = 'E') (h : Digits s) :
    Power (letter :: s) (Text.ofDigits s)
  | plus {letter : Char} {s : List Char} (hl : letter = 'e' ∨ letter = 'E') (h : Digits s) :
    Power (letter :: '+' :: s) (Text.ofDigits s)
  | minus {letter : Char} {s : List Char} (hl : letter = 'e' ∨ letter = 'E') (h : Digits s) :
    Power (letter :: '-' :: s) (-Text.ofDigits s)

/-- The text of a number without a sign, and the number. -/
inductive Magnitude : List Char → ℚ → Prop where
  | mk {whole point fraction tail : List Char} {power : Int} (hw : Whole whole)
    (hf : Fraction point fraction) (hp : Power tail power) :
    Magnitude (whole ++ point ++ tail)
      (Text.ofDigits (whole ++ fraction) * 10 ^ (power - fraction.length))

inductive Number : List Char → Prop where
  | plain {s : List Char} {q : ℚ} (h : Magnitude s q) : Number s
  | minus {s : List Char} {q : ℚ} (h : Magnitude s q) : Number ('-' :: s)

lemma Digits.exists_cons {s : List Char} (h : Digits s) :
    ∃ c t, s = c :: t ∧ Text.isPlainDigit c = true := by
  obtain ⟨hne, hs⟩ := h
  cases s with
  | nil => exact absurd rfl hne
  | cons c t => exact ⟨c, t, rfl, hs c List.mem_cons_self⟩

/-- A number begins with a digit. -/
lemma Magnitude.exists_cons {s : List Char} {q : ℚ} (h : Magnitude s q) :
    ∃ c t, s = c :: t ∧ Text.isPlainDigit c = true := by
  cases h with
  | @mk _ point _ tail _ hw hf hp =>
    obtain ⟨c, t, rfl, hc⟩ := hw.1.exists_cons
    exact ⟨c, t ++ point ++ tail, by simp, hc⟩

/-- Digits do not go on behind the fraction. -/
lemma Power.head? {s : List Char} {n : Int} (h : Power s n) :
    ∀ c ∈ s.head?, Text.isPlainDigit c = false := by
  cases h with
  | none => simp
  | plain hl h => rcases hl with rfl | rfl <;> simp [Text.isPlainDigit]
  | plus hl h => rcases hl with rfl | rfl <;> simp [Text.isPlainDigit]
  | minus hl h => rcases hl with rfl | rfl <;> simp [Text.isPlainDigit]

/-- Nor do they behind the whole part. -/
lemma Fraction.head? {s f t : List Char} {n : Int} (h : Fraction s f) (ht : Power t n) :
    ∀ c ∈ (s ++ t).head?, Text.isPlainDigit c = false := by
  cases h with
  | none => exact ht.head?
  | point h => simp [Text.isPlainDigit]

/-! ### Strings -/

/-- The letters behind a backslash, and the characters that they stand for. -/
def shortEscapes : List (Char × Char) := [
  ('"', '"'), ('\\', '\\'), ('/', '/'), ('b', '\x08'), ('f', '\x0c'), ('n', '\n'), ('r', '\r'),
  ('t', '\t')]

/-- The text between the quotes, and the characters that it stands for. -/
inductive Chars : List Char → List Char → Prop where
  | nil : Chars [] []
  | plain {c : Char} {s cs : List Char} (hq : c ≠ '"') (hb : c ≠ '\\') (hc : 0x20 ≤ c.toNat)
    (h : Chars s cs) : Chars (c :: s) (c :: cs)
  | short {letter c : Char} {s cs : List Char} (he : (letter, c) ∈ shortEscapes)
    (h : Chars s cs) : Chars ('\\' :: letter :: s) (c :: cs)
  | unit {a b c d : Char} {n : Nat} {s cs : List Char} (hu : hexUnit? a b c d = some n)
    (hh : isHighHalf n = false) (hl : isLowHalf n = false) (h : Chars s cs) :
    Chars ('\\' :: 'u' :: a :: b :: c :: d :: s) (Char.ofNat n :: cs)
  | pair {a b c d a' b' c' d' : Char} {n n' : Nat} {s cs : List Char}
    (hu : hexUnit? a b c d = some n) (hh : isHighHalf n = true)
    (hu' : hexUnit? a' b' c' d' = some n') (hl : isLowHalf n' = true) (h : Chars s cs) :
    Chars ('\\' :: 'u' :: a :: b :: c :: d :: '\\' :: 'u' :: a' :: b' :: c' :: d' :: s)
      (Char.ofNat (0x10000 + (n - 0xD800) * 0x400 + (n' - 0xDC00)) :: cs)

/-! ### Values -/

def Gap (s : List Char) : Prop := ∀ c ∈ s, isGap c = true

/-- What a text may stand for: a value, alone or with gaps around it, the items of an array, or
the members of an object. -/
inductive Part where
  | value (j : Json)
  | spaced (j : Json)
  | items (l : List Json)
  | member (m : String × Json)
  | members (l : List (String × Json))

/-- The texts of values and of their parts. There is at least one item and at least one member. -/
inductive Spells : Part → List Char → Prop where
  | null : Spells (.value null) ['n', 'u', 'l', 'l']
  | yes : Spells (.value (bool true)) ['t', 'r', 'u', 'e']
  | no : Spells (.value (bool false)) ['f', 'a', 'l', 's', 'e']
  | num {s : List Char} (h : Number s) : Spells (.value (num (.ofList s))) s
  | str {s cs : List Char} (h : Chars s cs) :
    Spells (.value (str (.ofList cs))) ('"' :: s ++ ['"'])
  | emptyArray {u : List Char} (hu : Gap u) : Spells (.value (arr [])) ('[' :: u ++ [']'])
  | array {l : List Json} {s : List Char} (h : Spells (.items l) s) :
    Spells (.value (arr l)) ('[' :: s ++ [']'])
  | emptyObject {u : List Char} (hu : Gap u) : Spells (.value (obj [])) ('{' :: u ++ ['}'])
  | object {l : List (String × Json)} {s : List Char} (h : Spells (.members l) s) :
    Spells (.value (obj l)) ('{' :: s ++ ['}'])
  | spaced {j : Json} {u s v : List Char} (hu : Gap u) (h : Spells (.value j) s) (hv : Gap v) :
    Spells (.spaced j) (u ++ s ++ v)
  | lastItem {j : Json} {s : List Char} (h : Spells (.spaced j) s) : Spells (.items [j]) s
  | item {j : Json} {l : List Json} {s t : List Char} (h : Spells (.spaced j) s)
    (ht : Spells (.items l) t) : Spells (.items (j :: l)) (s ++ ',' :: t)
  | member {j : Json} {u k cs v s : List Char} (hu : Gap u) (hk : Chars k cs) (hv : Gap v)
    (h : Spells (.spaced j) s) :
    Spells (.member (.ofList cs, j)) (u ++ '"' :: k ++ '"' :: v ++ ':' :: s)
  | lastMember {m : String × Json} {s : List Char} (h : Spells (.member m) s) :
    Spells (.members [m]) s
  | consMember {m : String × Json} {l : List (String × Json)} {s t : List Char}
    (h : Spells (.member m) s) (ht : Spells (.members l) t) :
    Spells (.members (m :: l)) (s ++ ',' :: t)

/-- A text stands for a value, with gaps around it. -/
def Denotes (text : String) (j : Json) : Prop := Spells (.spaced j) text.toList

end ViewPoints.Json
