/-!
A float taken apart into sign, mantissa and exponent, and the whole number nearest to it.
-/

namespace ViewPoints

/-- The value is `m * 2 ^ e` with the sign. -/
inductive Binary where
  | nan
  | infinite (negative : Bool)
  | finite (negative : Bool) (m : Nat) (e : Int)
  deriving DecidableEq

namespace Binary

/-- The exponent of the smallest positive float. -/
def least : Int := -1074

/-- The smallest mantissa that takes all its bits. -/
def full : Nat := 0x10000000000000

def ofFloat (x : Float) : Binary :=
  let bits := x.toBits.toNat
  let negative := bits / 0x8000000000000000 == 1
  let exponent := bits / full % 2048
  let fraction := bits % full
  if exponent = 2047 then (if fraction = 0 then infinite negative else nan)
  else if exponent = 0 then finite negative fraction least
  else finite negative (full + fraction) (least + (exponent - 1))

/-- A whole number as a float; a zero has a sign too. -/
def whole (negative : Bool) (n : Nat) : Float :=
  if negative then -(Float.ofNat n) else Float.ofNat n

/-- The nearest whole number; a half goes away from zero. -/
def nearestWhole (x : Float) : Float :=
  match ofFloat x with
  | finite negative m e =>
    if 0 ≤ e then x
    else
      let unit := Nat.pow 2 (-e).toNat
      whole negative ((m + unit / 2) / unit)
  | _ => x

def isFinite (x : Float) : Bool :=
  match ofFloat x with
  | finite _ _ _ => true
  | _ => false

end Binary

end ViewPoints
