import ViewPoints.Deviation.Content
import ViewPoints.Deviation.Unmatched
import ViewPoints.Text.Letter

/-!
The kinds of deviations, and how the kind of a block decides what it turns into. A block
without a header is reported, unless it is the title of a section.
-/

namespace ViewPoints

inductive DeviationKind where
  /-- Only the owner has the track. -/
  | unmatched (owner : Side)
  | contents
  deriving DecidableEq

namespace DeviationKind

def vocabulary : List (String × DeviationKind) := [
  ("Extra test", .unmatched .test), ("Missing reference", .unmatched .reference),
  ("Track contents", .contents)]

def ofKey? (key : String) : Option DeviationKind := vocabulary.lookup key

/-- The first kind of the vocabulary whose key the text mentions. -/
def within? (text : String) : Option DeviationKind :=
  (vocabulary.find? fun e => Text.mentions text e.1).map Prod.snd

/-- The kind that the header names, else one that the body mentions. -/
def ofBlock? (h : Header) (b : Block) : Option DeviationKind :=
  match ofKey? h.key with
  | some kind => some kind
  | none => within? b.body

end DeviationKind

namespace Block

/-- A line in small letters, as far as they are plain letters, without the blanks in front. -/
def plainLine (s : String) : List Char := (Text.trimStart s.toList).map Text.lower

/-- The title of a section begins like a header and is not one. -/
def isTitle (b : Block) : Bool :=
  Text.startsWith "deviations by type".toList (plainLine (Text.firstLine b.text))

def outcome (t : Trackers) (b : Block) : Except Failure Outcome :=
  match b.header with
  | none =>
    if b.isTitle then .ok .ignored else .ok (.unrecognized (.malformedPreamble b.text))
  | some h =>
    match DeviationKind.ofBlock? h b with
    | some (.unmatched owner) => .ok (.viewPoint (Unmatched.viewPoint t owner h b.text))
    | some .contents => Content.outcome t h b.text
    | none => .ok (.unrecognized (.unknownDeviation h.number h.key))

end Block

end ViewPoints
