import ViewPoints.Proofs.Conversion.Passes
import ViewPoints.Proofs.Deviation.Labels

/-!
Conversions of the same inputs under other names and with another date. The names are shown as
labels, in texts and in the keys of track numbers, the date is shown in the context, and neither is
ever read.
-/

namespace ViewPoints

/-! ### Helper files -/

namespace HelperFile

namespace Scan

def unlabelled (s : Scan) : Scan := { s with viewPoints := s.viewPoints.map ViewPoint.unlabelled }

variable (t t' : Trackers) (s : Scan) (line : String)

@[simp] lemma unlabelled_unlabelled : s.unlabelled.unlabelled = s.unlabelled := by
  simp [unlabelled, Function.comp_def]

lemma unlabelled_pass : (s.pass line).unlabelled = s.unlabelled.pass line := by
  unfold pass
  split
  next => rfl
  next => unfold readVersion; split <;> rfl
  next => unfold readNow; split <;> rfl
  next side _ => unfold readFilename; split <;> rfl
  next => unfold readOffset; split <;> rfl
  next => rfl

lemma unlabelled_record (o : Outcome) :
    (s.record o).unlabelled = s.unlabelled.record o.unlabelled := by
  cases o <;> simp [record, unlabelled, Outcome.unlabelled]

lemma unlabelled_close :
    (s.close t).map unlabelled = (s.unlabelled.close t').map unlabelled := by
  have ho : s.unlabelled.opened = s.opened := rfl
  cases hb : s.opened with
  | none =>
    rw [close_none hb, close_none (ho.trans hb), ok_map, ok_map, unlabelled_unlabelled]
  | some b =>
    have hclosed (s : Scan) (x : Except Failure Outcome) :
        (x.map s.record).map unlabelled = (x.map Outcome.unlabelled).map s.unlabelled.record := by
      rw [map_map, map_map]
      exact map_congr_ok fun o _ => unlabelled_record s o
    have hs : ({ s.unlabelled with opened := none } : Scan).unlabelled =
        ({ s with opened := none } : Scan).unlabelled := unlabelled_unlabelled { s with opened := none }
    rw [close_some hb, close_some (ho.trans hb), hclosed, hclosed, hs,
      Block.unlabelled_outcome t t' b]

lemma unlabelled_step :
    (s.step t line).map unlabelled = (s.unlabelled.step t' line).map unlabelled := by
  have hpass (x : Except Failure Scan) :
      (x.map (pass · line)).map unlabelled = (x.map unlabelled).map (pass · line) := by
    rw [map_map, map_map]
    exact map_congr_ok fun s _ => unlabelled_pass s line
  rw [step_eq, step_eq, hpass, hpass]
  split
  next => rw [unlabelled_close t t' s]
  next => simp only [ok_map, unlabelled_unlabelled]

lemma unlabelled_feed {s s' : Scan} (line : Except Failure String)
    (h : s.unlabelled = s'.unlabelled) :
    (s.feed t line).map unlabelled = (s'.feed t' line).map unlabelled := by
  cases line with
  | error => rfl
  | ok line =>
    change (s.step t line).map unlabelled = (s'.step t' line).map unlabelled
    rw [unlabelled_step t t' s, unlabelled_step t' t' s', h]

lemma unlabelled_run (lines : List (Except Failure String)) :
    (s.run t lines).map unlabelled = (s.run t' lines).map unlabelled :=
  map_foldlM_congr (fun _ _ line h => unlabelled_feed t t' line h) lines rfl

end Scan

lemma unlabelled_read (t t' : Trackers) (lines : List (Except Failure String)) :
    (read t lines).map Scan.unlabelled = (read t' lines).map Scan.unlabelled := by
  have next (t : Trackers) : (read t lines).map Scan.unlabelled =
      ((Scan.run t {} lines).map Scan.unlabelled).bind fun s =>
        (s.close t').map Scan.unlabelled := by
    rw [read, bind_map, map_bind]
    exact bind_congr_ok fun s _ => Scan.unlabelled_close t t' s
  rw [next t, next t', Scan.unlabelled_run t t']

end HelperFile

/-! ### Run logs -/

namespace RunLog

namespace Scan

def unlabelled (s : Scan) : Scan := s.mapShortTracks ViewPoint.unlabelled

variable (t t' : Trackers) (first : Nat) (s : Scan) (line : String)

@[simp] lemma unlabelled_unlabelled : s.unlabelled.unlabelled = s.unlabelled := by
  simp [unlabelled, mapShortTracks, Function.comp_def]

lemma unlabelled_readShortTrack :
    (s.readShortTrack t first line).map unlabelled =
      (s.unlabelled.readShortTrack t' first line).map unlabelled := by
  unfold readShortTrack
  split
  next =>
    have hn : s.unlabelled.shortTracks.size = s.shortTracks.size := Array.size_map
    have hpush (s : Scan) (x : Except Failure ViewPoint) :
        (x.map fun v => { s with shortTracks := s.shortTracks.push v }).map unlabelled =
          (x.map ViewPoint.unlabelled).map fun v =>
            { s.unlabelled with shortTracks := s.unlabelled.shortTracks.push v } := by
      rw [map_map, map_map]
      exact map_congr_ok fun v _ => by simp [unlabelled, mapShortTracks]
    rw [hpush, hpush, hn, unlabelled_unlabelled, ShortTrack.unlabelled_viewPoint t t']
  next => rw [ok_map, ok_map, unlabelled_unlabelled]

lemma unlabelled_step :
    (s.step t first line).map unlabelled = (s.unlabelled.step t' first line).map unlabelled := by
  have hs : s.unlabelled.takeFacts line = (s.takeFacts line).map unlabelled :=
    mapShortTracks_takeFacts s line ViewPoint.unlabelled
  rw [step_eq_bind, step_eq_bind, hs, bind_map, map_bind, bind_map]
  exact bind_congr_ok fun s' _ => unlabelled_readShortTrack t t' first s' line

lemma unlabelled_feed {s s' : Scan} (line : Except Failure String)
    (h : s.unlabelled = s'.unlabelled) :
    (s.feed t first line).map unlabelled = (s'.feed t' first line).map unlabelled := by
  cases line with
  | error => rfl
  | ok line =>
    change (s.step t first line).map unlabelled = (s'.step t' first line).map unlabelled
    rw [unlabelled_step t t' first s, unlabelled_step t' t' first s', h]

end Scan

lemma unlabelled_read (t t' : Trackers) (first : Nat) (lines : List (Except Failure String)) :
    (read t first lines).map Scan.unlabelled = (read t' first lines).map Scan.unlabelled :=
  map_foldlM_congr (fun _ _ line h => Scan.unlabelled_feed t t' first line h) lines rfl

end RunLog

/-! ### Conversions -/

/-- A context without the names of the trackers and without the date. -/
def Context.unlabelled (c : Context) : Context :=
  { c with
    startDate := none
    reference := { c.reference with label := "" }
    test := { c.test with label := "" } }

namespace Conversion

/-- A conversion without what shows the names of the trackers or the date. -/
def unlabelled (c : Conversion) : Conversion where
  document := {
    context := c.document.context.unlabelled
    viewPoints := c.document.viewPoints.map ViewPoint.unlabelled }
  diagnostics := c.diagnostics

/-- A conversion with another date. -/
def dated (date : Option String) (c : Conversion) : Conversion :=
  { c with document.context.startDate := date }

variable (o o' : Options) (helper runLog : List (Except Failure String))

lemma unlabelled_ofScans (h : HelperFile.Scan) (r : RunLog.Scan) :
    (ofScans o h r).unlabelled = (ofScans o' h.unlabelled r.unlabelled).unlabelled := by
  simp only [ofScans, unlabelled, HelperFile.Scan.unlabelled, RunLog.Scan.unlabelled,
    RunLog.Scan.mapShortTracks, Array.map_append, Array.map_map, Function.comp_def,
    ViewPoint.unlabelled_unlabelled]
  rfl

lemma unlabelled_ofLines :
    (ofLines o helper runLog).map unlabelled = (ofLines o' helper runLog).map unlabelled := by
  -- behind the helper file, and then behind both, what is known is put together without the names
  have next (o : Options) : (ofLines o helper runLog).map unlabelled =
      ((HelperFile.read o.trackers helper).map HelperFile.Scan.unlabelled).bind fun h =>
        ((RunLog.read o'.trackers h.headers runLog).map RunLog.Scan.unlabelled).map fun r =>
          (ofScans o' h r).unlabelled := by
    rw [ofLines_eq_bind, bind_map, map_bind]
    refine bind_congr_ok fun h _ => ?_
    have hh : h.unlabelled.headers = h.headers := rfl
    rw [hh, ← RunLog.unlabelled_read o.trackers o'.trackers, map_map, map_map]
    exact map_congr_ok fun r _ => unlabelled_ofScans o o' h r
  rw [next o, next o', HelperFile.unlabelled_read o.trackers o'.trackers]

/-- The names of the trackers and the date are for display. Under other names and with another date
a conversion fails in the same way, or it differs in nothing but what shows them; with another date
alone it differs in the date alone. -/
theorem displayed_only (o o' : Options) (date : Option String)
    (helper runLog : List (Except Failure String)) :
    (ofLines o helper runLog).map unlabelled = (ofLines o' helper runLog).map unlabelled ∧
      ofLines { o with startDate := date } helper runLog =
        (ofLines o helper runLog).map (dated date) := by
  refine ⟨unlabelled_ofLines o o' helper runLog, ?_⟩
  rw [ofLines_eq_bind, ofLines_eq_bind, bind_map]
  refine bind_congr_ok fun h _ => ?_
  rw [map_map]
  rfl

end Conversion

end ViewPoints
