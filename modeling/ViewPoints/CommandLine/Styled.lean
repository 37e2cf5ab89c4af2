/-!
Text with colours, which are shown by escape sequences or not at all.
-/

namespace ViewPoints.CommandLine

inductive Style where
  | bold
  | dim
  | green
  | yellow
  | blue
  | cyan
  | gray
  deriving DecidableEq

def Style.code : Style → String
  | bold => "\x1b[1m"
  | dim => "\x1b[2m"
  | green => "\x1b[32m"
  | yellow => "\x1b[33m"
  | blue => "\x1b[34m"
  | cyan => "\x1b[36m"
  | gray => "\x1b[90m"

def resetCode : String := "\x1b[0m"

/-- A text with styles laid around it, the innermost first. -/
structure Piece where
  text : String
  styles : List Style := []

namespace Piece

def render (color : Bool) (p : Piece) : String :=
  if color then p.styles.foldl (fun s style => style.code ++ s ++ resetCode) p.text else p.text

end Piece

/-- A text without style. -/
def plain (text : String) : List Piece := [{ text := text }]

def styled (style : Style) (text : String) : List Piece := [{ text := text, styles := [style] }]

def render (color : Bool) (l : List Piece) : String := .join (l.map (Piece.render color))

theorem render_append (color : Bool) (u v : List Piece) :
    render color (u ++ v) = render color u ++ render color v := by
  apply String.toList_injective
  simp [render, String.toList_join]

end ViewPoints.CommandLine
