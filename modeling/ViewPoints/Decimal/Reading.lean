import ViewPoints.Decimal.Shortest
import ViewPoints.Text.Letter

/-!
Reading a float from its written form: an optional sign, then `inf`, `infinity` or `nan` in
any case, or digits with an optional point and an optional power of ten. A point needs a digit
on one of its sides only. The float nearest to the number is read, infinity where it is beyond
all.
-/

namespace ViewPoints.Decimal

/-- A number of one digit or more. -/
def readNat? (s : List Char) : Option Nat :=
  if s ≠ [] && s.all Text.isPlainDigit then some (Text.ofDigits s) else none

def readInt? : List Char → Option Int
  | '-' :: s => (readNat? s).map fun n => -(n : Int)
  | '+' :: s => (readNat? s).map Int.ofNat
  | s => (readNat? s).map Int.ofNat

/-- The power of ten that ends a number. -/
def readPower? : List Char → Option Int
  | [] => some 0
  | c :: s => if c = 'e' || c = 'E' then readInt? s else none

/-- The digits after a point and what follows them. -/
def readFraction : List Char → List Char × List Char
  | '.' :: s => s.span Text.isPlainDigit
  | s => ([], s)

/-- A number without a sign. -/
def read? (s : List Char) : Option Decimal :=
  let (whole, s) := s.span Text.isPlainDigit
  let (fraction, s) := readFraction s
  if whole = [] && fraction = [] then none
  else (readPower? s).map fun power => ⟨Text.ofDigits (whole ++ fraction), power - fraction.length⟩

/-- The nearest float. Beyond these sizes every number is infinite or zero. -/
def toFloat (d : Decimal) : Float :=
  let size : Int := (Nat.toDigits 10 d.coefficient).length + d.exponent
  if d.coefficient = 0 || size < -330 then 0
  else if 310 < size then Float.ofBits 0x7FF0000000000000
  else Float.ofScientific d.coefficient (d.exponent < 0) d.exponent.natAbs

/-- A float without a sign. -/
def readMagnitude? (s : List Char) : Option Float :=
  let word := s.map Text.lower
  if word = ['i', 'n', 'f'] || word = ['i', 'n', 'f', 'i', 'n', 'i', 't', 'y'] then
    some (Float.ofBits 0x7FF0000000000000)
  else if word = ['n', 'a', 'n'] then some (Float.ofBits 0x7FF8000000000000)
  else (read? s).map toFloat

def readFloat? : List Char → Option Float
  | '-' :: s => (readMagnitude? s).map fun x => -x
  | '+' :: s => readMagnitude? s
  | s => readMagnitude? s

end ViewPoints.Decimal
