import ViewPoints.Proofs.Conversion.Passes
import ViewPoints.Proofs.Text.LineEnds

/-!
The ends of lines in a conversion. An empty line at the end of a helper file ends a block that the
end of the file would end as well, and a run log makes nothing of it.
-/

namespace ViewPoints

namespace HelperFile

/-- A blank line at the end ends what the end of the file ends. -/
lemma read_snoc_blank (t : Trackers) (lines : List String) {line : String}
    (h : isBlankLine line = true) :
    read t ((lines ++ [line]).map .ok) = read t (lines.map .ok) := by
  have hstep (s : Scan) : s.step t line = s.close t := by
    simp [Scan.step, of?_of_isBlankLine h, h]
  have hclose (s : Scan) : (s.close t).bind (Scan.close t) = s.close t := by
    cases hs : s.close t with
    | error => rfl
    | ok s' => exact Scan.close_none (Scan.opened_of_close hs)
  have hrun (s : Scan) : (s.run t [.ok line]).bind (Scan.close t) = s.close t := by
    rw [Scan.run_cons, bind_bind]
    change (s.step t line).bind (Scan.close t) = _
    rw [hstep, hclose]
  rw [read, List.map_append, Scan.run_append, bind_bind, read]
  exact bind_congr_ok fun s _ => hrun s

end HelperFile

namespace RunLog

variable {t : Trackers} {first : Nat} {s : Scan}

lemma Scan.enter_of_untitled {line : String} (h : Phase.ofLine? line = none) :
    s.enter line = s := by
  rw [enter, h]

/-- An empty line has no title and no marker. -/
lemma Scan.step_empty : s.step t first "" = .ok s := by
  have hm {w : String} (hw : Text.mentions "" w = false) : ¬ Text.mentions "" w = true := by
    simp [hw]
  rw [step_eq, enter_of_untitled (by decide), Attribute.take_of_unmarked (hm (by decide)), ok_bind,
    Attribute.take_of_unmarked (hm (by decide)), ok_bind,
    Attribute.take_of_unmarked (hm (by decide)), ok_bind]
  exact if_neg (hm (by decide))

lemma read_snoc_empty (t : Trackers) (first : Nat) (lines : List String) :
    read t first ((lines ++ [""]).map .ok) = read t first (lines.map .ok) := by
  rw [read, List.map_append, Scan.run_append, read]
  have hrun (s : Scan) : s.run t first ([""].map .ok) = .ok s := by
    change (s.step t first "").bind .ok = _
    rw [Scan.step_empty, ok_bind]
  simp only [hrun]
  cases Scan.run t first {} (lines.map .ok) <;> rfl

end RunLog

namespace Conversion

open Text

lemma read_helper_of_reended {s s' : String} (h : Reended s s') (t : Trackers) :
    HelperFile.read t ((lines s').map .ok) = HelperFile.read t ((lines s).map .ok) := by
  rcases h.lines_eq with hl | hl
  · rw [hl]
  · rw [hl, HelperFile.read_snoc_blank t _ (by decide)]

lemma read_runLog_of_reended {s s' : String} (h : Reended s s') (t : Trackers) (first : Nat) :
    RunLog.read t first ((lines s').map .ok) = RunLog.read t first ((lines s).map .ok) := by
  rcases h.lines_eq with hl | hl
  · rw [hl]
  · rw [hl, RunLog.read_snoc_empty]

/-- How the lines of the two texts end makes no difference to a conversion, nor to its failure. -/
theorem ofTexts_reended (o : Options) {helper helper' runLog runLog' : String}
    (hh : Reended helper helper') (hr : Reended runLog runLog') :
    ofTexts o helper' runLog' = ofTexts o helper runLog := by
  rw [ofTexts, ofTexts, ofLines_eq_bind, ofLines_eq_bind, read_helper_of_reended hh]
  exact bind_congr_ok fun h _ => by rw [read_runLog_of_reended hr]

/-- The phrase of the version ends with its line, and the block is open at the end of the file. -/
theorem ofTexts_reended_open : ∃ c,
    ofTexts {} "AOC Version V1\nDEV #7: Extra test" "Loading test run\nDuration: 00:00:01.000" =
      .ok c ∧
    c.document.context.aocVersion = some "1" ∧ c.document.viewPoints.size = 1 ∧
    c.document.context.test.duration = some 1 ∧
    Reended "AOC Version V1\nDEV #7: Extra test" "AOC Version V1\r\nDEV #7: Extra test" ∧
    Reended "AOC Version V1\nDEV #7: Extra test" "AOC Version V1\nDEV #7: Extra test\n" ∧
    Reended "Loading test run\nDuration: 00:00:01.000"
      "Loading test run\r\nDuration: 00:00:01.000" ∧
    ofTexts {} "AOC Version V1\r\nDEV #7: Extra test" "Loading test run\r\nDuration: 00:00:01.000" =
      .ok c ∧
    ofTexts {} "AOC Version V1\nDEV #7: Extra test\n" "Loading test run\r\nDuration: 00:00:01.000" =
      .ok c := by
  obtain ⟨c, hc, hs⟩ := exists_ok_of_toOption (show
    (ofTexts {} "AOC Version V1\nDEV #7: Extra test"
      "Loading test run\nDuration: 00:00:01.000").toOption.map (fun c =>
        (c.document.context.aocVersion, c.document.viewPoints.size,
          c.document.context.test.duration)) = some (some "1", 1, some 1) by decide +kernel)
  obtain ⟨hv, hs⟩ := Prod.mk.inj hs
  obtain ⟨hn, hd⟩ := Prod.mk.inj hs
  have hreturns : Reended "AOC Version V1\nDEV #7: Extra test"
      "AOC Version V1\r\nDEV #7: Extra test" := .returns (by decide)
  have hnewline : Reended "AOC Version V1\nDEV #7: Extra test"
      "AOC Version V1\nDEV #7: Extra test\n" := .newline (by decide)
  have hlog : Reended "Loading test run\nDuration: 00:00:01.000"
      "Loading test run\r\nDuration: 00:00:01.000" := .returns (by decide)
  exact ⟨c, hc, hv, hn, hd, hreturns, hnewline, hlog, (ofTexts_reended {} hreturns hlog).trans hc,
    (ofTexts_reended {} hnewline hlog).trans hc⟩

end Conversion

end ViewPoints
