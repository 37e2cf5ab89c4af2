import ViewPoints.Json.Basic
import ViewPoints.Text.Digit

/-!
Reading JSON text. Numbers keep their literal.
-/

namespace ViewPoints.Json

def isGap (c : Char) : Bool := c == ' ' || c == '\n' || c == '\r' || c == '\t'

def skipGaps : List Char → List Char := List.dropWhile isGap

def hexValue? (c : Char) : Option Nat :=
  let n := c.toNat
  if 0x30 ≤ n && n ≤ 0x39 then some (n - 0x30)
  else if 0x41 ≤ n && n ≤ 0x46 then some (n - 0x37)
  else if 0x61 ≤ n && n ≤ 0x66 then some (n - 0x57)
  else none

def hexUnit? (a b c d : Char) : Option Nat := do
  let a ← hexValue? a
  let b ← hexValue? b
  let c ← hexValue? c
  let d ← hexValue? d
  return ((a * 16 + b) * 16 + c) * 16 + d

def isHighHalf (n : Nat) : Bool := 0xD800 ≤ n && n ≤ 0xDBFF

def isLowHalf (n : Nat) : Bool := 0xDC00 ≤ n && n ≤ 0xDFFF

def unescape? (c : Char) : Option Char :=
  if c = '"' || c = '\\' || c = '/' then some c
  else if c = 'n' then some '\n'
  else if c = 'r' then some '\r'
  else if c = 't' then some '\t'
  else if c = 'b' then some '\x08'
  else if c = 'f' then some '\x0c'
  else none

/-- The characters up to the closing quote, and the rest. `high` is the first half of a pair
whose second half must follow; `done` is written backwards. -/
def readChars (high : Option Nat) (done : List Char) :
    List Char → Option (List Char × List Char)
  | [] => none
  | '"' :: s => if high.isNone then some (done.reverse, s) else none
  | '\\' :: 'u' :: a :: b :: c :: d :: s =>
    match hexUnit? a b c d, high with
    | none, _ => none
    | some n, some h =>
      if isLowHalf n then
        readChars none (Char.ofNat (0x10000 + (h - 0xD800) * 0x400 + (n - 0xDC00)) :: done) s
      else none
    | some n, none =>
      if isHighHalf n then readChars (some n) done s
      else if isLowHalf n then none
      else readChars none (Char.ofNat n :: done) s
  | '\\' :: c :: s =>
    match unescape? c, high with
    | some c, none => readChars none (c :: done) s
    | _, _ => none
  | c :: s => if high.isSome || c.toNat < 0x20 then none else readChars none (c :: done) s

def isNumberChar (c : Char) : Bool :=
  Text.isPlainDigit c || c == '-' || c == '+' || c == '.' || c == 'e' || c == 'E'

def allDigits (s : List Char) : Bool := !s.isEmpty && s.all Text.isPlainDigit

/-- What may follow the letter of a power of ten. -/
def isPower : List Char → Bool
  | '-' :: s => allDigits s
  | '+' :: s => allDigits s
  | s => allDigits s

def isTail (s : List Char) : Bool :=
  match s with
  | [] => true
  | c :: s => (c == 'e' || c == 'E') && isPower s

/-- What may follow the whole part of a number. -/
def isFraction (s : List Char) : Bool :=
  match s with
  | '.' :: s =>
    let (fraction, s) := s.span Text.isPlainDigit
    !fraction.isEmpty && isTail s
  | s => isTail s

/-- A literal without its sign: a whole part without needless zeros in front. -/
def isMagnitude (s : List Char) : Bool :=
  let (whole, s) := s.span Text.isPlainDigit
  !whole.isEmpty && (whole.length == 1 || whole.head? != some '0') && isFraction s

def isNumber : List Char → Bool
  | '-' :: s => isMagnitude s
  | s => isMagnitude s

def readNumber (s : List Char) : Option (Json × List Char) :=
  let (literal, s) := s.span isNumberChar
  if isNumber literal then some (num (.ofList literal), s) else none

mutual

/-- Reads one value. The depth of calls is bounded by `fuel`; the length of the text is enough. -/
def readValue : Nat → List Char → Option (Json × List Char)
  | 0, _ => none
  | fuel + 1, s =>
    match skipGaps s with
    | 'n' :: 'u' :: 'l' :: 'l' :: s => some (null, s)
    | 't' :: 'r' :: 'u' :: 'e' :: s => some (bool true, s)
    | 'f' :: 'a' :: 'l' :: 's' :: 'e' :: s => some (bool false, s)
    | '"' :: s => (readChars none [] s).map fun (cs, s) => (str (.ofList cs), s)
    | '[' :: s =>
      match skipGaps s with
      | ']' :: s => some (arr [], s)
      | s => readItems fuel [] s
    | '{' :: s =>
      match skipGaps s with
      | '}' :: s => some (obj [], s)
      | s => readMembers fuel [] s
    | s => readNumber s

/-- The items of an array from the next one on; `done` is written backwards. -/
def readItems : Nat → List Json → List Char → Option (Json × List Char)
  | 0, _, _ => none
  | fuel + 1, done, s =>
    match readValue fuel s with
    | none => none
    | some (j, s) =>
      match skipGaps s with
      | ',' :: s => readItems fuel (j :: done) s
      | ']' :: s => some (arr (j :: done).reverse, s)
      | _ => none

/-- The members of an object from the next one on; `done` is written backwards. -/
def readMembers : Nat → List (String × Json) → List Char → Option (Json × List Char)
  | 0, _, _ => none
  | fuel + 1, done, s =>
    match skipGaps s with
    | '"' :: s =>
      match readChars none [] s with
      | none => none
      | some (key, s) =>
        match skipGaps s with
        | ':' :: s =>
          match readValue fuel s with
          | none => none
          | some (j, s) =>
            match skipGaps s with
            | ',' :: s => readMembers fuel ((.ofList key, j) :: done) s
            | '}' :: s => some (obj ((.ofList key, j) :: done).reverse, s)
            | _ => none
        | _ => none
    | _ => none

end

/-- The value a text holds, with nothing but gaps around it. -/
def parse? (s : String) : Option Json :=
  match readValue (s.length + 1) s.toList with
  | some (j, rest) => if (skipGaps rest).isEmpty then some j else none
  | none => none

end ViewPoints.Json
