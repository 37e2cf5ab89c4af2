import ViewPoints.Proofs.Conversion.Passes
import ViewPoints.Proofs.HelperFile.Concatenation

/-!
The conversion of two helper files that follow one another, put together from the conversion of
each of them.
-/

namespace ViewPoints

/-- The dataset `a` with what a later helper file says of the run in `b`. -/
def Dataset.withLater (a b : Dataset) : Dataset :=
  { a with
    filename := b.filename.or a.filename
    timeOffset := .merge TimeOffset.or b.timeOffset a.timeOffset }

namespace Conversion

open HelperFile

/-- The conversion `a` of a helper file with `n` headers and `b` of the one behind it. -/
def followedBy (a : Conversion) (n : Nat) (b : Conversion) : Conversion where
  document := {
    context := { a.document.context with
      aocVersion := b.document.context.aocVersion.or a.document.context.aocVersion
      timeNow := b.document.context.timeNow.or a.document.context.timeNow
      reference := a.document.context.reference.withLater b.document.context.reference
      test := a.document.context.test.withLater b.document.context.test }
    viewPoints := a.document.viewPoints ++ b.document.viewPoints.map (ViewPoint.raise n) }
  diagnostics := a.diagnostics ++ b.diagnostics

variable {o : Options}

lemma ofScans_followedBy (s r : HelperFile.Scan) :
    ofScans o (s.followedBy r) {} = (ofScans o s {}).followedBy s.headers (ofScans o r {}) := by
  rw [ofScans_nil_right, ofScans_nil_right, ofScans_nil_right]
  rfl

/-- Where the first of two helper files leaves no block open, or the second begins by ending it,
their concatenation is converted as each of them is alone. The first one that fails decides. What
both state, the second one decides, and its view points are numbered on. -/
theorem ofLines_append (o : Options) {u v : List String} (h : Separate u v) :
    ofLines o ((u ++ v).map .ok) [] = (ofLines o (u.map .ok) []).bind fun a =>
      (ofLines o (v.map .ok) []).map fun b => a.followedBy (u.countP isHeader) b := by
  rw [ofLines_nil_right, ofLines_nil_right, ofLines_nil_right, read_append h, bind_map, map_bind]
  refine bind_congr_ok fun s hs => ?_
  rw [map_map, map_map, ← headers_of_read hs]
  exact map_congr_ok fun r _ => ofScans_followedBy s r

/-- The first file ends with a blank line, and the second states the version once more. -/
theorem ofLines_append_extra :
    Separate (["AOC Version V1", "DEV #7: Extra test"] ++ [" "])
      ["AOC Version V2", "DEV #8: Extra test"] ∧
    ofLines {} (["AOC Version V1", "DEV #7: Extra test", " ", "AOC Version V2",
      "DEV #8: Extra test"].map .ok) [] =
        (ofLines {} (["AOC Version V1", "DEV #7: Extra test", " "].map .ok) []).bind fun a =>
          (ofLines {} (["AOC Version V2", "DEV #8: Extra test"].map .ok) []).map fun b =>
            a.followedBy 1 b := by
  have h : Separate (["AOC Version V1", "DEV #7: Extra test"] ++ [" "])
      ["AOC Version V2", "DEV #8: Extra test"] := .inl (unfinished?_of_blank _ (by decide))
  have hn : (["AOC Version V1", "DEV #7: Extra test"] ++ [" "]).countP isHeader = 1 := by
    decide +kernel
  have hc := ofLines_append {} h
  rw [hn] at hc
  exact ⟨h, hc⟩

end Conversion

end ViewPoints
