import ViewPoints.Json.Basic

/-!
JSON text. The printer leaves all characters as they are, except the quote, the backslash and
the control characters below the space.
-/

namespace ViewPoints.Json

/-- The low hexadecimal digit of a number. -/
def hexDigit (n : Nat) : Char := Nat.digitChar (n % 16)

def escape (c : Char) : List Char :=
  if c = '"' then ['\\', '"']
  else if c = '\\' then ['\\', '\\']
  else if c = '\n' then ['\\', 'n']
  else if c = '\r' then ['\\', 'r']
  else if c = '\t' then ['\\', 't']
  else if c = '\x08' then ['\\', 'b']
  else if c = '\x0c' then ['\\', 'f']
  else if c.toNat < 0x20 then ['\\', 'u', '0', '0', hexDigit (c.toNat / 16), hexDigit c.toNat]
  else [c]

def quoted (s : String) : List Char := '"' :: s.toList.flatMap escape ++ ['"']

/-- The blanks of a layout: before an item at a given depth, and behind the colon. -/
structure Style where
  lineBreak : Nat → List Char
  gap : List Char

/-- One item a line, each depth four blanks further in. -/
def Style.pretty : Style where
  lineBreak depth := '\n' :: List.replicate (4 * depth) ' '
  gap := [' ']

/-- All on one line. -/
def Style.compact : Style where
  lineBreak _ := []
  gap := []

mutual

def write (style : Style) (depth : Nat) : Json → List Char
  | null => ['n', 'u', 'l', 'l']
  | bool true => ['t', 'r', 'u', 'e']
  | bool false => ['f', 'a', 'l', 's', 'e']
  | num literal => literal.toList
  | str s => quoted s
  | arr [] => ['[', ']']
  | arr (j :: js) =>
    '[' :: style.lineBreak (depth + 1) ++ write style (depth + 1) j ++
      writeItems style (depth + 1) js ++ style.lineBreak depth ++ [']']
  | obj [] => ['{', '}']
  | obj (m :: ms) =>
    '{' :: style.lineBreak (depth + 1) ++ writeMember style (depth + 1) m ++
      writeMembers style (depth + 1) ms ++ style.lineBreak depth ++ ['}']

/-- The items after the first one. -/
def writeItems (style : Style) (depth : Nat) : List Json → List Char
  | [] => []
  | j :: js => ',' :: style.lineBreak depth ++ write style depth j ++ writeItems style depth js

def writeMember (style : Style) (depth : Nat) : String × Json → List Char
  | (key, j) => quoted key ++ ':' :: style.gap ++ write style depth j

/-- The members after the first one. -/
def writeMembers (style : Style) (depth : Nat) : List (String × Json) → List Char
  | [] => []
  | m :: ms =>
    ',' :: style.lineBreak depth ++ writeMember style depth m ++ writeMembers style depth ms

end

def pretty (j : Json) : String := .ofList (write .pretty 0 j)

def compact (j : Json) : String := .ofList (write .compact 0 j)

end ViewPoints.Json
