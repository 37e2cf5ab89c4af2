import ViewPoints.Conversion
import ViewPoints.Proofs.HelperFile.Batch
import ViewPoints.Proofs.RunLog.Renumbering

/-!
The two files of a conversion are read on their own. A conversion of both is put together from
the conversion of each beside an empty one.
-/

namespace ViewPoints

/-- The dataset `a` with what a run log says of the run in `b`. -/
def Dataset.withRun (a b : Dataset) : Dataset :=
  { a with
    sac := b.sac
    sic := b.sic
    timeStart := b.timeStart
    timeEnd := b.timeEnd
    duration := b.duration
    sensorOverride := b.sensorOverride }

namespace Conversion

/-- The conversion `a` of a helper file with `n` headers and `b` of a run log, put together. -/
def join (n : Nat) (a b : Conversion) : Conversion where
  document := {
    context := { a.document.context with
      commonDuration := b.document.context.commonDuration
      reference := a.document.context.reference.withRun b.document.context.reference
      test := a.document.context.test.withRun b.document.context.test }
    viewPoints := a.document.viewPoints ++ b.document.viewPoints.map (ViewPoint.renumber n) }
  diagnostics := a.diagnostics

variable {o : Options} {h : HelperFile.Scan} {r : RunLog.Scan}

lemma ofLines_eq_bind (o : Options) (helper runLog : List (Except Failure String)) :
    ofLines o helper runLog = (HelperFile.read o.trackers helper).bind fun h =>
      (RunLog.read o.trackers h.headers runLog).map (ofScans o h) := rfl

lemma ofLines_eq_ok_iff {helper runLog : List (Except Failure String)} {c : Conversion} :
    ofLines o helper runLog = .ok c ↔ ∃ h r, HelperFile.read o.trackers helper = .ok h ∧
      RunLog.read o.trackers h.headers runLog = .ok r ∧ ofScans o h r = c := by
  rw [ofLines_eq_bind, bind_eq_ok_iff]
  simp only [map_eq_ok_iff, exists_and_left]

/-! What a document says of a run is what the run log does. -/

section Datasets

variable (o : Options) (h : HelperFile.Scan) (r : RunLog.Scan) (side : Side)

lemma sac_context : ((context o h r).dataset side).sac = (r.recording side).identity.map (·.sac) := by
  cases side <;> rfl

lemma sic_context : ((context o h r).dataset side).sic = (r.recording side).identity.map (·.sic) := by
  cases side <;> rfl

lemma timeStart_context :
    ((context o h r).dataset side).timeStart = (r.recording side).window.map (·.start) := by
  cases side <;> rfl

lemma timeEnd_context :
    ((context o h r).dataset side).timeEnd = (r.recording side).window.map (·.stop) := by
  cases side <;> rfl

lemma duration_context : ((context o h r).dataset side).duration = (r.recording side).duration := by
  cases side <;> rfl

end Datasets

/-- Files that are read through are readable. -/
lemma exists_texts_of_ofLines {helper runLog : List (Except Failure String)} {c : Conversion}
    (hc : ofLines o helper runLog = .ok c) :
    ∃ u v : List String, helper = u.map .ok ∧ runLog = v.map .ok := by
  obtain ⟨h, r, hh, hr, -⟩ := ofLines_eq_ok_iff.1 hc
  obtain ⟨s, hs, -⟩ := bind_eq_ok_iff.1 hh
  obtain ⟨u, hu⟩ := exists_inputs_of_foldlM hs
  obtain ⟨v, hv⟩ := exists_inputs_of_foldlM hr
  exact ⟨u, v, hu, hv⟩

lemma ofLines_nil_right (o : Options) (helper : List (Except Failure String)) :
    ofLines o helper [] = (HelperFile.read o.trackers helper).map fun h => ofScans o h {} := by
  rw [ofLines_eq_bind]
  cases HelperFile.read o.trackers helper <;> rfl

lemma ofLines_nil_left (o : Options) (runLog : List (Except Failure String)) :
    ofLines o [] runLog = (RunLog.read o.trackers 0 runLog).map (ofScans o {}) := rfl

/-- Without a run log all view points are those of the helper file. -/
lemma ofScans_nil_right (o : Options) (h : HelperFile.Scan) :
    ofScans o h {} = ⟨⟨context o h {}, h.viewPoints⟩, h.diagnostics⟩ :=
  congrArg (fun vs => Conversion.mk ⟨context o h {}, vs⟩ h.diagnostics) Array.append_empty

/-- The parts of a document that come from one of the files do not depend on the other. -/
lemma ofScans_renumber (n : Nat) :
    ofScans o h (r.renumber n) = join n (ofScans o h {}) (ofScans o {} r) := by
  have hv : h.viewPoints ++ (({} : RunLog.Scan)).shortTracks = h.viewPoints := Array.append_empty
  have hs : ({} : HelperFile.Scan).viewPoints ++ r.shortTracks = r.shortTracks :=
    Array.empty_append
  simp only [ofScans, join, hv, hs]
  rfl

/-- The two passes know nothing of each other but the number of headers, from which the short
tracks are numbered on. -/
theorem ofTexts_eq_join (o : Options) (helper runLog : String) :
    ofTexts o helper runLog =
      (ofTexts o helper "").bind fun a =>
        (ofTexts o "" runLog).map
          (join ((Text.lines helper).countP HelperFile.isHeader) a) := by
  change ofLines o _ _ = (ofLines o _ []).bind fun a => (ofLines o [] _).map _
  rw [ofLines_nil_right, ofLines_nil_left, ofLines_eq_bind, map_bind]
  cases hh : HelperFile.read o.trackers ((Text.lines helper).map .ok) with
  | error => rfl
  | ok h =>
    rw [ok_bind, ok_bind, RunLog.read_eq_renumber, map_map, map_map,
      HelperFile.headers_of_read hh]
    exact map_congr_ok fun r _ => ofScans_renumber _

end Conversion

end ViewPoints
