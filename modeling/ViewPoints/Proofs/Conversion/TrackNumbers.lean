import ViewPoints.Proofs.Conversion.Passes
import ViewPoints.Proofs.Deviation.TrackNumbers
import ViewPoints.Proofs.HelperFile.Numbering
import ViewPoints.Proofs.RunLog.ShortTracks

/-!
The numbers of tracks in a document. A view point about tracks of both runs keeps the numbers of
both, except where the two trackers have one name.
-/

namespace ViewPoints

open HelperFile RunLog

/-- The text that a view point is made from: that of a block, or a line of the run log. -/
inductive ViewPoint.MadeFrom (t : Trackers) (helper runLog : List String) (v : ViewPoint) :
    String → Prop where
  | block (e : Nat × Block) (mem : e ∈ blocks helper)
    (made : e.2.outcome t = .ok (.viewPoint v)) : MadeFrom t helper runLog v e.2.text
  | line (line : String) (mem : line ∈ runLog)
    (made : ShortTrack.viewPoint t v.id line = .ok v) : MadeFrom t helper runLog v line

namespace Conversion

variable {o : Options} {helper runLog : List String} {c : Conversion} {v : ViewPoint}

lemma cases_of_ofLines (hc : ofLines o (helper.map .ok) (runLog.map .ok) = .ok c)
    (hv : v ∈ c.document.viewPoints) :
    (∃ e ∈ blocks helper, e.2.outcome o.trackers = .ok (.viewPoint v)) ∨
      ∃ line ∈ runLog, ShortTrack.viewPoint o.trackers v.id line = .ok v := by
  obtain ⟨h, r, hh, hr, rfl⟩ := ofLines_eq_ok_iff.1 hc
  rcases Array.mem_append.1 hv with hv | hv
  · rw [← Array.mem_toList_iff, viewPoints_of_read hh] at hv
    obtain ⟨e, he, hv⟩ := List.mem_filterMap.1 hv
    exact .inl ⟨_, List.mem_map_of_mem he, Block.viewPoint?_eq_some_iff.1 hv⟩
  · exact .inr ((reported_of_run hr).exists_line (Array.mem_toList_iff.2 hv))

/-- A view point about tracks of both runs keeps the two numbers that its text states, each under
the name of its tracker, exactly where the trackers have two names or the numbers are one. -/
theorem keeps_iff_of_ofLines (hc : ofLines o (helper.map .ok) (runLog.map .ok) = .ok c)
    (hv : v ∈ c.document.viewPoints) (hb : v.OfBoth) :
    ∃ text numbers, v.MadeFrom o.trackers helper runLog text ∧
      v.kind.trackNumbers? text = some numbers ∧
      (v.Keeps o.trackers numbers ↔ o.trackers.TellApart numbers) := by
  rcases cases_of_ofLines hc hv with ⟨e, he, ho⟩ | ⟨line, hl, ho⟩
  · obtain ⟨numbers, hn, hk⟩ := Block.keeps_of_outcome ho hb
    exact ⟨_, numbers, .block e he ho, hn, hk⟩
  · have hk : v.kind = .shortTrack := (ShortTrack.isShortTrack ho).kind
    rw [ViewPoint.OfBoth, hk] at hb
    obtain ⟨numbers, hn⟩ := (ShortTrack.text_ne_none_iff ho).1 hb
    refine ⟨line, numbers, .line line hl ho, ?_, ShortTrack.keeps_of_viewPoint ho hn⟩
    rw [hk]
    exact hn

/-- Two trackers of different names. -/
theorem keeps_iff_of_ofLines_apart : ∃ c v,
    ofLines {} (["DEV #1: Track contents", "Test track #12.1 (reference track #40.2) near " ++
      "10:15:00.000 UTC: reported rocd=1200; expected 900"].map .ok) ([].map .ok) = .ok c ∧
    v ∈ c.document.viewPoints ∧ v.OfBoth ∧
    v.filters.trackNumber "REF" = some "40" ∧ v.filters.trackNumber "TST" = some "12" ∧
    ∃ text numbers, v.MadeFrom {} ["DEV #1: Track contents",
        "Test track #12.1 (reference track #40.2) near " ++
          "10:15:00.000 UTC: reported rocd=1200; expected 900"] [] text ∧
      v.kind.trackNumbers? text = some numbers ∧
      (v.Keeps {} numbers ↔ ({} : Trackers).TellApart numbers) := by
  obtain ⟨c, hc, hs⟩ := exists_ok_of_toOption (show
    (ofLines {} (["DEV #1: Track contents", "Test track #12.1 (reference track #40.2) near " ++
      "10:15:00.000 UTC: reported rocd=1200; expected 900"].map .ok) ([].map .ok)).toOption.map
        (fun c => c.document.viewPoints[0]?.map fun v =>
          (v.kind, v.filters.trackNumber "REF", v.filters.trackNumber "TST")) =
      some (some (.content .climbRate, some "40", some "12")) by decide +kernel)
  obtain ⟨v, hv, he⟩ := Option.map_eq_some_iff.1 hs
  obtain ⟨hk, he⟩ := Prod.mk.inj he
  obtain ⟨hr, ht⟩ := Prod.mk.inj he
  have hv := Array.mem_of_getElem? hv
  have hb : v.OfBoth := by rw [ViewPoint.OfBoth, hk]; trivial
  exact ⟨c, v, hc, hv, hb, hr, ht, keeps_iff_of_ofLines hc hv hb⟩

/-- Two trackers of one name, under which only the number of the test track is kept. -/
theorem not_keeps_of_same_name : ∃ c v numbers,
    ofLines { trackers := ⟨"A", "A"⟩ } (["DEV #1: Track contents",
      "Test track #12.1 (reference track #40.2) near " ++
        "10:15:00.000 UTC: reported rocd=1200; expected 900"].map .ok) [] = .ok c ∧
    v ∈ c.document.viewPoints ∧ v.kind = .content .climbRate ∧
    Content.trackNumbers? (Block.unlines ["DEV #1: Track contents",
      "Test track #12.1 (reference track #40.2) near " ++
        "10:15:00.000 UTC: reported rocd=1200; expected 900"]) = some numbers ∧
    numbers .reference = "40" ∧ numbers .test = "12" ∧
    v.filters.trackNumber "A" = some "12" ∧ ¬ v.Keeps ⟨"A", "A"⟩ numbers := by
  obtain ⟨c, hc, hs⟩ := exists_ok_of_toOption (show
    (ofLines { trackers := ⟨"A", "A"⟩ } (["DEV #1: Track contents",
      "Test track #12.1 (reference track #40.2) near " ++
        "10:15:00.000 UTC: reported rocd=1200; expected 900"].map .ok) []).toOption.map
        (fun c => c.document.viewPoints[0]?.map fun v =>
          (v.kind, v.filters.trackNumber "A")) =
      some (some (.content .climbRate, some "12")) by decide +kernel)
  obtain ⟨v, hv, he⟩ := Option.map_eq_some_iff.1 hs
  obtain ⟨hk, ha⟩ := Prod.mk.inj he
  obtain ⟨numbers, hn, he⟩ := Option.map_eq_some_iff.1 (show
    (Content.trackNumbers? (Block.unlines ["DEV #1: Track contents",
      "Test track #12.1 (reference track #40.2) near " ++
        "10:15:00.000 UTC: reported rocd=1200; expected 900"])).map
        (fun n => (n .reference, n .test)) = some ("40", "12") by decide +kernel)
  obtain ⟨hr, ht⟩ := Prod.mk.inj he
  refine ⟨c, v, numbers, hc, Array.mem_of_getElem? hv, hk, hn, hr, ht, ha, fun h => ?_⟩
  have hl : some "12" = some (numbers .reference) := ha ▸ h .reference
  rw [hr] at hl
  simp at hl

end Conversion

end ViewPoints
