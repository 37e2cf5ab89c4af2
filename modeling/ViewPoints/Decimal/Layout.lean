import ViewPoints.Decimal.Shortest

/-!
Written forms of floats: the shortest one, positional or scientific, and the one with a fixed
number of places.
-/

namespace ViewPoints.Decimal

def zeroDigits (n : Nat) : List Char := List.replicate n '0'

def natChars (n : Nat) : List Char := Nat.toDigits 10 n

def signChars (negative : Bool) : List Char := if negative then ['-'] else []

/-- Where the positional form ends: the most digits before the point, and the most zeros
right behind it. -/
structure Layout where
  wholeDigits : Int
  leadingZeros : Int

/-- Ten to the sixteenth and numbers below a hundred-thousandth are scientific. -/
def Layout.standard : Layout where
  wholeDigits := 16
  leadingZeros := 4

def scientific (digits : List Char) (power : Int) : List Char :=
  let tail := match digits with
    | d :: (c :: r) => d :: '.' :: c :: r
    | _ => digits
  tail ++ ['e', if power < 0 then '-' else '+'] ++ natChars power.natAbs

/-- The positional form has a digit on either side of the point. -/
def Layout.write (l : Layout) (d : Decimal) : List Char :=
  let digits := natChars d.coefficient
  let point : Int := digits.length + d.exponent
  if 0 ≤ d.exponent && point ≤ l.wholeDigits then
    digits ++ zeroDigits d.exponent.toNat ++ ['.', '0']
  else if 0 < point && point ≤ l.wholeDigits then
    digits.take point.toNat ++ ['.'] ++ digits.drop point.toNat
  else if point ≤ 0 && -l.leadingZeros ≤ point then
    ['0', '.'] ++ zeroDigits (-point).toNat ++ digits
  else scientific digits (point - 1)

/-- The shortest form of a finite float. -/
def shortestChars? (x : Float) : Option (List Char) :=
  match Binary.ofFloat x with
  | .finite negative m e => some (signChars negative ++ Layout.standard.write (shortest m e))
  | _ => none

/-- A quotient rounded to a whole number, ties to even. -/
def roundEven (num den : Nat) : Nat :=
  let q := num / den
  let rest := 2 * (num % den)
  if rest < den || (rest == den && q % 2 == 0) then q else q + 1

/-- The form with `places` digits behind the point, the last one rounded. -/
def fixedChars (places : Nat) (x : Float) : List Char :=
  match Binary.ofFloat x with
  | .nan => ['N', 'a', 'N']
  | .infinite negative => signChars negative ++ ['i', 'n', 'f']
  | .finite negative m e =>
    let unit := Nat.pow 10 places
    let n := roundEven (m * Nat.pow 2 e.toNat * unit) (Nat.pow 2 (-e).toNat)
    let fraction := natChars (n % unit)
    signChars negative ++ natChars (n / unit) ++
      (if places = 0 then [] else '.' :: zeroDigits (places - fraction.length) ++ fraction)

def fixed (places : Nat) (x : Float) : String := .ofList (fixedChars places x)

end ViewPoints.Decimal
