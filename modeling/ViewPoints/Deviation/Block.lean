import ViewPoints.Pattern

/-!
The blocks of a helper file. A block opens with a line that should be a header
`DEV #<number>: <type> <qualifier>`; the lines behind it are its body.
-/

namespace ViewPoints

structure Header where
  /-- The position among the headers of the file. -/
  id : Nat
  number : String
  kind : String
  qualifier : String
  deriving DecidableEq

namespace Header

open Pattern in
/-- For instance `DEV #12: Extra test`. -/
def phrase : Pattern :=
  lit "DEV" ++ blanks ++ lit "#" ++ group digits ++ lit ":" ++ blanks ++ group solids ++ blanks ++
    group solids

def read? (id : Nat) (line : String) : Option Header :=
  match phrase.readFront line with
  | some [number, kind, qualifier] => some ⟨id, number, kind, qualifier⟩
  | _ => none

/-- Type and qualifier, one blank apart. -/
def key (h : Header) : String := h.kind ++ " " ++ h.qualifier

end Header

structure Block where
  header : Option Header
  opening : String
  following : List String := []
  deriving DecidableEq

namespace Block

/-- Lines as a text, each with its newline. -/
def unlines (lines : List String) : String := .join (lines.map (· ++ "\n"))

def text (b : Block) : String := unlines (b.opening :: b.following)

def body (b : Block) : String := unlines b.following

def append (b : Block) (line : String) : Block :=
  { b with following := b.following ++ [line] }

theorem unlines_append (u v : List String) : unlines (u ++ v) = unlines u ++ unlines v := by
  rw [unlines, List.map_append, String.join_append]
  rfl

theorem unlines_singleton (s : String) : unlines [s] = s ++ "\n" := by
  simp [unlines]

theorem toList_unlines (lines : List String) :
    (unlines lines).toList = lines.flatMap fun line => line.toList ++ ['\n'] := by
  simp [unlines, List.flatMap_map]

theorem toList_unlines_cons (line : String) (lines : List String) :
    (unlines (line :: lines)).toList = line.toList ++ ('\n' :: (unlines lines).toList) := by
  rw [toList_unlines, toList_unlines, List.flatMap_cons, List.append_assoc, List.singleton_append]

/-- The text of a block begins as the line that opens it. -/
theorem text_opening (header : Option Header) (line : String) :
    ({ header := header, opening := line } : Block).text = line ++ "\n" :=
  unlines_singleton line

/-- A line is put behind the text. -/
theorem text_append (b : Block) (line : String) :
    (b.append line).text = b.text ++ line ++ "\n" := by
  rw [text, append, ← List.cons_append, unlines_append, unlines_singleton, String.append_assoc]
  rfl

end Block

end ViewPoints
