import ViewPoints.Text.Digit

/-!
The letters of the Latin alphabet without marks.
-/

namespace ViewPoints.Text

def isPlainLetter (c : Char) : Bool :=
  (0x41 ≤ c.toNat && c.toNat ≤ 0x5A) || (0x61 ≤ c.toNat && c.toNat ≤ 0x7A)

/-- The small letter of a plain capital; any other character stays. -/
def lower (c : Char) : Char :=
  if 0x41 ≤ c.toNat && c.toNat ≤ 0x5A then Char.ofNat (c.toNat + 0x20) else c

end ViewPoints.Text
