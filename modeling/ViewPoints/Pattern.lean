import ViewPoints.Text.Search
import ViewPoints.Text.Word

/-!
Patterns of text and their matches. Repetition is of single characters only, so a match is
found by recursion on the pattern and on the text. Of several matches at one place the
preferred one counts: a run takes as much as it can, a sparing run as little, and of two
alternatives the first comes first. Of several places the leftmost counts.
-/

namespace ViewPoints

inductive Pattern where
  | empty
  /-- These characters. -/
  | exactly (w : List Char)
  /-- One character of a class. -/
  | one (p : Char → Bool)
  /-- A run of the class, the longest first. -/
  | run (p : Char → Bool)
  /-- A run of the class, the shortest first. -/
  | spare (p : Char → Bool)
  | seq (a b : Pattern)
  | either (a b : Pattern)
  /-- What `a` matches is a group of the match. -/
  | group (a : Pattern)
  | textEnd
  | lineEnd

/-- A part of a text, by the two places that bound it. A place is what follows it. -/
structure Span where
  start : List Char
  stop : List Char

def Span.chars (g : Span) : List Char := g.start.take (g.start.length - g.stop.length)

def Span.text (g : Span) : String := .ofList g.chars

@[simp] theorem Span.chars_append (u r : List Char) : Span.chars ⟨u ++ r, r⟩ = u := by
  simp [Span.chars]

namespace Pattern

instance : Append Pattern := ⟨seq⟩

def lit (w : String) : Pattern := exactly w.toList

/-- A run of at least one. -/
def many (p : Char → Bool) : Pattern := one p ++ run p

/-- A sparing run of at least one. -/
def few (p : Char → Bool) : Pattern := one p ++ spare p

def optional (a : Pattern) : Pattern := either a empty

variable {β : Type}

/-- Tries `k` after the longest run of `p`, then after ever shorter ones. -/
def longest (p : Char → Bool) (k : List Char → Option β) : List Char → Option β
  | [] => k []
  | c :: s => if p c then (longest p k s).orElse fun _ => k (c :: s) else k (c :: s)

/-- Tries `k` after the shortest run of `p`, then after ever longer ones. -/
def shortest (p : Char → Bool) (k : List Char → Option β) : List Char → Option β
  | [] => k []
  | c :: s => (k (c :: s)).orElse fun _ => if p c then shortest p k s else none

/-- Matches a pattern at the front of a text, with `gs` the groups so far, and hands the
groups and the rest to `k`. A match that `k` refuses makes way for the next in preference. -/
def matching : Pattern → List Span → List Char → (List Span → List Char → Option β) → Option β
  | empty, gs, s, k => k gs s
  | exactly w, gs, s, k => (Text.after? w s).bind (k gs)
  | one _, _, [], _ => none
  | one p, gs, c :: s, k => if p c then k gs s else none
  | run p, gs, s, k => longest p (k gs) s
  | spare p, gs, s, k => shortest p (k gs) s
  | seq a b, gs, s, k => a.matching gs s fun gs r => b.matching gs r k
  | either a b, gs, s, k => (a.matching gs s k).orElse fun _ => b.matching gs s k
  | group a, gs, s, k => a.matching gs s fun gs r => k (gs ++ [⟨s, r⟩]) r
  | textEnd, gs, s, k => if s.isEmpty then k gs s else none
  | lineEnd, gs, s, k => if s.isEmpty || s.head? == some '\n' then k gs s else none

/-- The groups of the match at the front of a text. -/
def atFront (p : Pattern) (s : List Char) : Option (List Span) :=
  p.matching [] s fun gs _ => some gs

/-- The groups of the leftmost match. -/
def leftmost (p : Pattern) : List Char → Option (List Span)
  | [] => p.atFront []
  | c :: s =>
    match p.atFront (c :: s) with
    | some gs => some gs
    | none => p.leftmost s

/-- The groups of the matches at every place, from left to right. Of a pattern whose matches
never overlap these are the matches met by reading on behind each. -/
def everywhere (p : Pattern) : List Char → List (List Span)
  | [] => (p.atFront []).toList
  | c :: s =>
    match p.atFront (c :: s) with
    | some gs => gs :: p.everywhere s
    | none => p.everywhere s

/-- The texts of the groups of the match at the front. -/
def readFront (p : Pattern) (s : String) : Option (List String) :=
  (p.atFront s.toList).map (List.map Span.text)

/-- The texts of the groups of the leftmost match. -/
def read (p : Pattern) (s : String) : Option (List String) :=
  (p.leftmost s.toList).map (List.map Span.text)

/-- The text of the first group of every match. -/
def readAll (p : Pattern) (s : String) : List String :=
  (p.everywhere s.toList).filterMap fun gs => gs.head?.map Span.text

/-! ### One equation for each shape -/

section

variable (gs : List Span) (s : List Char) (k : List Span → List Char → Option β)

@[simp] theorem matching_empty : empty.matching gs s k = k gs s := by
  cases s <;> rfl

@[simp] theorem matching_exactly (w : List Char) :
    (exactly w).matching gs s k = (Text.after? w s).bind (k gs) := by
  cases s <;> rfl

@[simp] theorem matching_one_nil (p : Char → Bool) : (one p).matching gs [] k = none := rfl

@[simp] theorem matching_one_cons (p : Char → Bool) (c : Char) :
    (one p).matching gs (c :: s) k = if p c then k gs s else none := rfl

@[simp] theorem matching_run (p : Char → Bool) :
    (run p).matching gs s k = longest p (k gs) s := by
  cases s <;> rfl

@[simp] theorem matching_spare (p : Char → Bool) :
    (spare p).matching gs s k = shortest p (k gs) s := by
  cases s <;> rfl

@[simp] theorem matching_append (a b : Pattern) :
    (a ++ b).matching gs s k = a.matching gs s fun gs r => b.matching gs r k := by
  cases s <;> rfl

@[simp] theorem matching_either (a b : Pattern) :
    (either a b).matching gs s k = (a.matching gs s k).orElse fun _ => b.matching gs s k := by
  cases s <;> rfl

@[simp] theorem matching_group (a : Pattern) :
    (group a).matching gs s k = a.matching gs s fun gs r => k (gs ++ [⟨s, r⟩]) r := by
  cases s <;> rfl

@[simp] theorem matching_textEnd :
    textEnd.matching gs s k = if s.isEmpty then k gs s else none := by
  cases s <;> rfl

@[simp] theorem matching_lineEnd :
    lineEnd.matching gs s k = if s.isEmpty || s.head? == some '\n' then k gs s else none := by
  cases s <;> rfl

end

/-! ### Classes in frequent use -/

def blanks : Pattern := many Text.isBlank

def solids : Pattern := many Text.isSolid

def digits : Pattern := many Text.isDigit

def words : Pattern := many Text.isWord

end Pattern

end ViewPoints
