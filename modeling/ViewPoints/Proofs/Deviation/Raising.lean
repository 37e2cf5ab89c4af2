import ViewPoints.Deviation.Kind
import ViewPoints.Proofs.Success

/-!
The number of a header does nothing but number the view point of its block. A block whose header
comes after `n` more headers turns into the same, with a number that is higher by `n`.
-/

namespace ViewPoints

/-- The view point when `n` more headers stand before it. -/
def ViewPoint.raise (n : Nat) (v : ViewPoint) : ViewPoint := { v with id := v.id + n }

def Header.raise (n : Nat) (h : Header) : Header := { h with id := h.id + n }

def Block.raise (n : Nat) (b : Block) : Block := { b with header := b.header.map (Header.raise n) }

def Outcome.raise (n : Nat) : Outcome → Outcome
  | viewPoint v => viewPoint (v.raise n)
  | unrecognized d => unrecognized d
  | ignored => ignored

variable (t : Trackers) (n : Nat) (h : Header) (text : String)

lemma Header.read?_add (id : Nat) (line : String) :
    read? (id + n) line = (read? id line).map (raise n) := by
  unfold read?
  split <;> rfl

lemma Unmatched.viewPoint_raise (owner : Side) :
    viewPoint t owner (h.raise n) text = (viewPoint t owner h text).raise n := by
  unfold viewPoint
  split <;> rfl

namespace Content

lemma viewPoint_raise (s : Subject) (kind : ContentKind) (payload : String) :
    viewPoint t (h.raise n) text s kind payload =
      (viewPoint t h text s kind payload).map (ViewPoint.raise n) := by
  unfold viewPoint
  cases Stamp.read s.stamp with
  | error => rfl
  | ok time => cases timeSpan text <;> rfl

lemma clause?_raise (word : String) : clause? (h.raise n) text word = clause? h text word := rfl

lemma outcome_raise : outcome t (h.raise n) text = (outcome t h text).map (Outcome.raise n) := by
  unfold outcome
  split
  next testTrack testPart referenceTrack referencePart stamp word _ =>
    rw [clause?_raise]
    split
    next kind payload _ =>
      rw [viewPoint_raise, map_map, map_map]
      rfl
    next => rfl
    next => rfl
  next => rfl

end Content

namespace Block

variable (b : Block)

lemma raise_append (line : String) : (b.append line).raise n = (b.raise n).append line := rfl

lemma ofBlock?_raise :
    DeviationKind.ofBlock? (h.raise n) (b.raise n) = DeviationKind.ofBlock? h b := rfl

/-- What a block turns into depends on the number of its header for the number alone. -/
theorem outcome_raise : (b.raise n).outcome t = (b.outcome t).map (Outcome.raise n) := by
  have ht : (b.raise n).text = b.text := rfl
  have hi : (b.raise n).isTitle = b.isTitle := rfl
  have hh : (b.raise n).header = b.header.map (Header.raise n) := rfl
  unfold outcome
  rw [hh, ht, hi]
  cases b.header with
  | none => simp only [Option.map_none]; split <;> rfl
  | some h =>
    simp only [Option.map_some, ofBlock?_raise]
    split
    next owner _ => rw [Unmatched.viewPoint_raise]; rfl
    next => exact Content.outcome_raise t n h b.text
    next => rfl

end Block

end ViewPoints
