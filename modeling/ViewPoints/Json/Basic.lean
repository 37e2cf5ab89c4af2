import ViewPoints.Decimal.Layout

/-!
JSON values. A number is held by its literal, so that writing and reading decide nothing about
its value. An object keeps the order of its members.
-/

namespace ViewPoints

inductive Json where
  | null
  | bool (b : Bool)
  | num (literal : String)
  | str (s : String)
  | arr (items : List Json)
  | obj (members : List (String × Json))
  deriving Inhabited

namespace Json

def ofNat (n : Nat) : Json := num n.repr

/-- A float by its shortest literal; JSON has none for an infinity or for what is no number. -/
def ofFloat (x : Float) : Json :=
  match Decimal.shortestChars? x with
  | some s => num (.ofList s)
  | none => null

variable {α : Type}

def ofOption (f : α → Json) : Option α → Json
  | some a => f a
  | none => null

def ofStrings (l : List String) : Json := arr (l.map str)

/-- A member that is missing when there is no value. -/
def optional (key : String) (f : α → Json) : Option α → List (String × Json)
  | some a => [(key, f a)]
  | none => []

/-- The value of the first member of that name. -/
def field? (key : String) : Json → Option Json
  | obj members => members.lookup key
  | _ => none

end Json

end ViewPoints
