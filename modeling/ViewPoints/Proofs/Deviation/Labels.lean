import ViewPoints.Deviation.Kind
import ViewPoints.Deviation.ShortTrack
import ViewPoints.Proofs.Success

/-!
The names of the trackers are for display. They stand in the text of a view point and key its track
numbers, and nothing else about a deviation depends on them: neither what it is recognised as nor
whether it can be read.
-/

namespace ViewPoints

def Filters.unlabelled (f : Filters) : Filters := { f with trackNumbers := .empty }

/-- A view point without what shows the names of the trackers. Of its text it is kept whether there
is one. -/
def ViewPoint.unlabelled (v : ViewPoint) : ViewPoint :=
  { v with text := v.text.map fun _ => "", filters := v.filters.unlabelled }

def Outcome.unlabelled : Outcome → Outcome
  | viewPoint v => viewPoint v.unlabelled
  | unrecognized d => unrecognized d
  | ignored => ignored

variable (t t' : Trackers) (h : Header) (text : String)

@[simp] lemma ViewPoint.unlabelled_unlabelled (v : ViewPoint) :
    v.unlabelled.unlabelled = v.unlabelled := by
  cases ht : v.text <;> simp [unlabelled, Filters.unlabelled, ht]

@[simp] lemma Filters.unlabelled_setTrackNumber (f : Filters) (tracker value : String) :
    (f.setTrackNumber tracker value).unlabelled = f.unlabelled := rfl

/-! ### Tracks that only one run has -/

namespace Unmatched

lemma unlabelled_trackFilters (owner : Side) (track : String) (level : Dubiousness) (f : Filters) :
    (trackFilters t owner text track level f).unlabelled = f.unlabelled := by
  unfold trackFilters
  split <;> simp

lemma unlabelled_codeFilters (d : Details) (f : Filters) :
    (codeFilters d f).unlabelled = codeFilters d f.unlabelled := by
  unfold codeFilters
  split <;> rfl

lemma unlabelled_filled (owner : Side) (track part first last : String) :
    (filled t owner h text track part first last).unlabelled =
      (filled t' owner h text track part first last).unlabelled := by
  simp only [filled, ViewPoint.unlabelled, unlabelled_codeFilters, unlabelled_trackFilters,
    Option.map_some]

lemma unlabelled_viewPoint (owner : Side) :
    (viewPoint t owner h text).unlabelled = (viewPoint t' owner h text).unlabelled := by
  unfold viewPoint
  split
  next track part first last _ => exact unlabelled_filled t t' h text owner track part first last
  next => rfl

end Unmatched

/-! ### Contents -/

namespace Content

lemma unlabelled_viewPoint (s : Subject) (kind : ContentKind) (payload : String) :
    (viewPoint t h text s kind payload).map ViewPoint.unlabelled =
      (viewPoint t' h text s kind payload).map ViewPoint.unlabelled := by
  unfold viewPoint
  cases Stamp.read s.stamp with
  | error => rfl
  | ok time => cases timeSpan text <;> rfl

lemma unlabelled_outcome :
    (outcome t h text).map Outcome.unlabelled = (outcome t' h text).map Outcome.unlabelled := by
  unfold outcome
  split
  next testTrack testPart referenceTrack referencePart stamp word _ =>
    split
    next kind payload _ =>
      have hv := unlabelled_viewPoint t t' h text
        ⟨testTrack, testPart, referenceTrack, referencePart, stamp⟩ kind payload
      have hm (x : Except Failure ViewPoint) :
          (x.map Outcome.viewPoint).map Outcome.unlabelled =
            (x.map ViewPoint.unlabelled).map Outcome.viewPoint := by
        rw [map_map, map_map]
        rfl
      rw [hm, hm, hv]
    next => rfl
    next => rfl
  next => rfl

end Content

/-- What a block turns into depends on the names of the trackers for display alone. -/
theorem Block.unlabelled_outcome (b : Block) :
    (b.outcome t).map Outcome.unlabelled = (b.outcome t').map Outcome.unlabelled := by
  unfold outcome
  split
  next => split <;> rfl
  next h _ =>
    split
    next owner _ =>
      have hv := Unmatched.unlabelled_viewPoint t t' h b.text owner
      exact congrArg (fun v => Except.ok (Outcome.viewPoint v)) hv
    next => exact Content.unlabelled_outcome t t' h b.text
    next => rfl

/-- What a line of the run log turns into does so too. -/
theorem ShortTrack.unlabelled_viewPoint (id : Nat) (line : String) :
    (viewPoint t id line).map ViewPoint.unlabelled =
      (viewPoint t' id line).map ViewPoint.unlabelled := by
  unfold viewPoint
  split
  next side track _ counterpart code address stamp diff _ => cases Stamp.read stamp <;> rfl
  next => rfl

end ViewPoints
