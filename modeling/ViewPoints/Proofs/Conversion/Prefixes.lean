import ViewPoints.Proofs.Conversion.Passes
import ViewPoints.Proofs.HelperFile.Growth
import ViewPoints.Proofs.Text.LineEnds

/-!
Conversions of ever longer inputs. What has been recorded is neither changed nor taken back later
on. Only the block that is open at the end of a helper file may still become something else.
-/

namespace ViewPoints

namespace RunLog

variable {t : Trackers} {first : Nat} {s s' : Scan}

lemma shortTracks_of_step {line : String} (h : s.step t first line = .ok s') :
    s.shortTracks.toList <+: s'.shortTracks.toList := by
  rcases (Scan.taken_of_step h).shortTracks with ⟨-, v, -, hv⟩ | ⟨-, hv⟩
  · rw [hv, Array.toList_push]
    exact List.prefix_append ..
  · exact hv ▸ List.prefix_rfl

/-- A longer log reports the short tracks of a shorter one first. -/
lemma shortTracks_of_run {lines : List (Except Failure String)} (h : s.run t first lines = .ok s') :
    s.shortTracks.toList <+: s'.shortTracks.toList :=
  Scan.run_induction (P := fun m => s.shortTracks.toList <+: m.shortTracks.toList)
    (fun _ _ _ hm h => hm.trans (shortTracks_of_step h)) h List.prefix_rfl

end RunLog

namespace Conversion

open HelperFile

variable {o : Options} {helper early late : List (Except Failure String)} {a c : Conversion}

lemma failure_of_early {e : Failure} (h : ofLines o helper early = .error e) :
    ofLines o helper (early ++ late) = .error e := by
  rw [ofLines_eq_bind, bind_eq_error_iff] at h ⊢
  rcases h with h | ⟨s, hs, h⟩
  · exact .inl h
  · rw [map_eq_error_iff, RunLog.read] at h
    refine .inr ⟨s, hs, ?_⟩
    rw [RunLog.read, RunLog.Scan.run_append, h, error_bind, error_map]

lemma early_of_ofLines (h : ofLines o helper (early ++ late) = .ok c) :
    ∃ a, ofLines o helper early = .ok a ∧
      a.document.viewPoints.toList <+: c.document.viewPoints.toList ∧
      a.diagnostics = c.diagnostics := by
  obtain ⟨s, r, hs, hr, rfl⟩ := ofLines_eq_ok_iff.1 h
  rw [RunLog.read, RunLog.Scan.run_append, bind_eq_ok_iff] at hr
  obtain ⟨m, hm, hr⟩ := hr
  refine ⟨ofScans o s m, ofLines_eq_ok_iff.2 ⟨s, m, hs, hm, rfl⟩, ?_, rfl⟩
  simp only [ofScans, Array.toList_append]
  exact (List.prefix_append_right_inj _).2 (RunLog.shortTracks_of_run hr)

lemma committed_of_ofLines {early late : List String} (h : ofLines o (early.map .ok) [] = .ok a)
    (h' : ofLines o ((early ++ late).map .ok) [] = .ok c) :
    ∃ vs ds,
      a.document.viewPoints.toList =
        vs ++ ((lastOutcome? o.trackers early).bind Outcome.viewPoint?).toList ∧
      vs <+: c.document.viewPoints.toList ∧
      a.diagnostics.toList =
        ds ++ ((lastOutcome? o.trackers early).bind Outcome.diagnostic?).toList ∧
      ds <+: c.diagnostics.toList := by
  rw [ofLines_nil_right, map_eq_ok_iff] at h h'
  obtain ⟨s, hs, rfl⟩ := h
  obtain ⟨s', hs', rfl⟩ := h'
  rw [ofScans_nil_right, ofScans_nil_right]
  exact committed_of_read hs hs'

/-- Records are only ever appended. A run log that fails does so however it goes on, and one that
does not fail has what was recorded before in front. The same holds of a helper file that does not
fail, apart from what its unfinished block turned into. -/
theorem append_only (o : Options) :
    (∀ helper early late e, ofLines o helper early = .error e →
      ofLines o helper (early ++ late) = .error e) ∧
    (∀ helper early late c, ofLines o helper (early ++ late) = .ok c →
      ∃ a, ofLines o helper early = .ok a ∧
        a.document.viewPoints.toList <+: c.document.viewPoints.toList ∧
        a.diagnostics = c.diagnostics) ∧
    (∀ (early late : List String) (a c : Conversion), ofLines o (early.map .ok) [] = .ok a →
      ofLines o ((early ++ late).map .ok) [] = .ok c →
      ∃ vs ds,
        a.document.viewPoints.toList =
          vs ++ ((lastOutcome? o.trackers early).bind Outcome.viewPoint?).toList ∧
        vs <+: c.document.viewPoints.toList ∧
        a.diagnostics.toList =
          ds ++ ((lastOutcome? o.trackers early).bind Outcome.diagnostic?).toList ∧
        ds <+: c.diagnostics.toList) :=
  ⟨fun _ _ _ _ => failure_of_early, fun _ _ _ _ => early_of_ofLines,
    fun _ _ _ _ => committed_of_ofLines⟩

/-- A line may still make a view point of a block that would be reported at the end of the file. -/
theorem append_only_reported : ∃ a c f d,
    ofLines {} [] [.error .invalidText] = .error f ∧
    ofLines {} [] ([.error .invalidText] ++ [.ok "Deviation: Short"]) = .error f ∧
    ofLines {} [] ([.ok "Deviation: Short"] ++ [.ok "Deviation: Short"]) = .ok d ∧
    (∃ b, ofLines {} [] [.ok "Deviation: Short"] = .ok b ∧
      b.document.viewPoints.toList <+: d.document.viewPoints.toList ∧
      b.diagnostics = d.diagnostics) ∧
    ofLines {} (["DEV #1: Extra track"].map .ok) [] = .ok a ∧
    a.diagnostics = #[.unknownDeviation "1" "Extra track"] ∧
    ofLines {} ((["DEV #1: Extra track"] ++ ["Extra test track"]).map .ok) [] = .ok c ∧
    c.diagnostics = #[] ∧
    ∃ vs ds,
      a.document.viewPoints.toList = vs ++
        ((lastOutcome? {} ["DEV #1: Extra track"]).bind Outcome.viewPoint?).toList ∧
      vs <+: c.document.viewPoints.toList ∧
      a.diagnostics.toList = ds ++
        ((lastOutcome? {} ["DEV #1: Extra track"]).bind Outcome.diagnostic?).toList ∧
      ds <+: c.diagnostics.toList := by
  obtain ⟨failure, growth, committed⟩ := append_only {}
  have hf : ofLines {} [] [.error .invalidText] = .error .invalidText := by rfl
  obtain ⟨d, hd, -⟩ := exists_ok_of_toOption (show (ofLines {} []
    ([.ok "Deviation: Short"] ++ [.ok "Deviation: Short"])).toOption.map (fun _ => ()) =
      some () by decide +kernel)
  obtain ⟨a, ha, hra⟩ := exists_ok_of_toOption (show (ofLines {}
    (["DEV #1: Extra track"].map .ok) []).toOption.map Conversion.diagnostics =
      some #[.unknownDeviation "1" "Extra track"] by decide +kernel)
  obtain ⟨c, hc, hrc⟩ := exists_ok_of_toOption (show (ofLines {}
    ((["DEV #1: Extra track"] ++ ["Extra test track"]).map .ok) []).toOption.map
      Conversion.diagnostics = some #[] by decide +kernel)
  exact ⟨a, c, _, d, hf, failure _ _ _ _ hf, hd, growth _ _ _ _ hd, ha, hra, hc, hrc,
    committed _ _ a c ha hc⟩

/-! ### Step by step -/

lemma lines_unlines_append (u v : List String) :
    Text.lines (Block.unlines (u ++ v)) =
      Text.lines (Block.unlines u) ++ Text.lines (Block.unlines v) := by
  rcases List.eq_nil_or_concat u with rfl | ⟨u, line, rfl⟩
  case inl => rfl
  case inr =>
    have hu : (Block.unlines (u ++ [line])).toList =
        ((Block.unlines u).toList ++ line.toList) ++ ['\n'] := by
      rw [Block.unlines_append, Block.unlines_singleton]
      simp
    have hv : (Block.unlines (u ++ [line] ++ v)).toList =
        ((Block.unlines u).toList ++ line.toList) ++ '\n' :: (Block.unlines v).toList := by
      rw [Block.unlines_append, String.toList_append, hu]
      simp
    rw [Text.lines, Text.lines, Text.lines, List.concat_eq_append, hv, hu,
      Text.split_newline_append, List.map_append]

/-- What a conversion of less comes to beside one of more: it fails only as the latter does, and
what it has recorded is not taken back. -/
structure Grows (x y : Except Failure Conversion) : Prop where
  failure : ∀ e, x = .error e → y = .error e
  growth : ∀ c, y = .ok c → ∃ a, x = .ok a ∧
    a.document.viewPoints.toList <+: c.document.viewPoints.toList ∧ a.diagnostics = c.diagnostics

lemma grows_ofUnlines (helper u v : List String) :
    Grows (ofUnlines o helper u) (ofUnlines o helper (u ++ v)) := by
  have hv : ofUnlines o helper (u ++ v) =
      ofLines o ((Text.lines (Block.unlines helper)).map .ok)
        ((Text.lines (Block.unlines u)).map .ok ++ (Text.lines (Block.unlines v)).map .ok) := by
    rw [ofUnlines, ofTexts, lines_unlines_append, List.map_append]
  rw [hv]
  exact ⟨fun e => failure_of_early, fun c => early_of_ofLines⟩

/-- From where the helper file has been read, each step of a conversion grows on all those before
it. The last step is the conversion of both files. -/
theorem progress_grows (o : Options) (helper runLog : List String) :
    ((progress o helper runLog).drop helper.length).Pairwise Grows ∧
      (progress o helper runLog).getLast? = some (ofUnlines o helper runLog) := by
  have hl : ((List.range helper.length).map fun n =>
      ofUnlines o (helper.take n) []).length = helper.length := by simp
  constructor
  · rw [progress, List.drop_left' hl, List.pairwise_map]
    refine List.pairwise_lt_range.imp fun h => ?_
    obtain ⟨v, hv⟩ := List.take_prefix_take_left (l := runLog) (Nat.le_of_lt h)
    rw [← hv]
    exact grows_ofUnlines ..
  · rw [progress, List.getLast?_append, List.range_succ, List.map_append, List.map_singleton,
      List.getLast?_concat, List.take_length]
    rfl

end Conversion

end ViewPoints
