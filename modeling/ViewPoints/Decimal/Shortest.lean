import ViewPoints.Decimal.Binary

/-!
The shortest decimal that reads back as a given float: a point of the coarsest decimal grid
that meets the numbers rounding to the float, and of two such points the nearer.
-/

namespace ViewPoints

/-- The number `coefficient * 10 ^ exponent`. -/
structure Decimal where
  coefficient : Nat
  exponent : Int
  deriving DecidableEq

namespace Decimal

/-- The numbers that round to a float, from `low` to `high` around `value`, all counted in
units of the last of so many decimal places. -/
structure Range where
  places : Nat
  value : Nat
  low : Nat
  high : Nat
  /-- Whether the ends belong to the range. -/
  closed : Bool

/-- The range of the float `m * 2 ^ e`. It reaches halfway to the neighbours; below a power of
two the neighbour is at half the distance. A number halfway rounds to the even mantissa. -/
def Range.of (m : Nat) (e : Int) : Range :=
  let places := (2 - e).toNat
  let gap := Nat.pow 2 (e + places).toNat * Nat.pow 5 places
  { places
    value := m * gap
    low := m * gap - (if m = Binary.full ∧ Binary.least < e then gap / 4 else gap / 2)
    high := m * gap + gap / 2
    closed := m % 2 == 0 }

namespace Range

variable (r : Range)

def contains (n : Nat) : Bool :=
  if r.closed then r.low ≤ n && n ≤ r.high else r.low < n && n < r.high

/-- The multiple of `step` in the range that is nearest to the value, by its factor. A tie goes
to the even factor. -/
def nearest? (step : Nat) : Option Nat :=
  let below := r.value / step
  let inBelow := r.contains (below * step)
  let inAbove := r.contains ((below + 1) * step)
  let rest := 2 * (r.value % step)
  if inBelow && inAbove then
    if rest < step || (rest == step && below % 2 == 0) then some below else some (below + 1)
  else if inBelow then some below
  else if inAbove then some (below + 1)
  else none

/-- The coarsest grid of at most `10 ^ k` that meets the range. The grid of units always does,
with the value itself. -/
def coarsest : Nat → Decimal
  | 0 => ⟨r.value, -r.places⟩
  | k + 1 =>
    match r.nearest? (Nat.pow 10 (k + 1)) with
    | some n => ⟨n, (k + 1 : Nat) - (r.places : Int)⟩
    | none => coarsest k

end Range

/-- The shortest decimal for `m * 2 ^ e`. A grid of more digits than the range's upper end has
no point in it. -/
def shortest (m : Nat) (e : Int) : Decimal :=
  if m = 0 then ⟨0, 0⟩
  else
    let r := Range.of m e
    r.coarsest (Nat.log2 r.high / 3 + 1)

end Decimal

end ViewPoints
