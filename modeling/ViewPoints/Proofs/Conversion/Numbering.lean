import ViewPoints.Proofs.Conversion.Passes
import ViewPoints.Proofs.HelperFile.Numbering
import ViewPoints.Proofs.RunLog.ShortTracks

/-!
The numbers of the view points of a document, and the lines of the two files that they are given
for.
-/

namespace ViewPoints

open HelperFile RunLog

/-- How the view points of a document are numbered: those of blocks by the rank of the header, and
those of short tracks from the number of headers on. -/
structure Numbered (t : Trackers) (helper runLog : List String) (own short : List ViewPoint) :
    Prop where
  increasing : ((own ++ short).map ViewPoint.id).Pairwise (· < ·)
  own_eq : own = (openings helper).filterMap (viewPointAt? t helper)
  ranked : ∀ e ∈ openings helper, ∀ v, viewPointAt? t helper e = some v →
    isHeader e.1 = true ∧ v.id = rank helper e.2 ∧ v.kind ≠ .shortTrack
  unused : ∀ e ∈ openings helper, isHeader e.1 = true → viewPointAt? t helper e = none →
    rank helper e.2 ∉ (own ++ short).map ViewPoint.id
  reported : Reported t (helper.countP isHeader) runLog short
  numbered : ∀ k (hk : k < short.length), short[k].IsShortTrack (helper.countP isHeader + k)

variable {t : Trackers} {helper runLog : List String} {short : List ViewPoint}

lemma id_lt_of_mem {v : ViewPoint}
    (hv : v ∈ (openings helper).filterMap (viewPointAt? t helper)) :
    v.id < helper.countP isHeader := by
  obtain ⟨e, he, hv⟩ := List.mem_filterMap.1 hv
  obtain ⟨hh, hid, -⟩ := numbered_of_viewPointAt? hv
  rw [hid]
  exact rank_lt_countP (mem_of_mem_openings he) hh

lemma numbered_of_reported (hs : Reported t (helper.countP isHeader) runLog short) :
    Numbered t helper runLog ((openings helper).filterMap (viewPointAt? t helper)) short := by
  constructor
  case increasing =>
    rw [List.pairwise_map, List.pairwise_append]
    refine ⟨pairwise_viewPointAt? t helper, hs.pairwise, fun v hv w hw => ?_⟩
    have hlt := id_lt_of_mem hv
    have hle := hs.le_id hw
    omega
  case own_eq => rfl
  case ranked =>
    intro e _ v hv
    exact numbered_of_viewPointAt? hv
  case unused =>
    intro e he hh hn hm
    have hlt := rank_lt_countP (mem_of_mem_openings he) hh
    obtain ⟨v, hv, hid⟩ := List.mem_map.1 hm
    rcases List.mem_append.1 hv with hv | hv
    · obtain ⟨f, hf, hv⟩ := List.mem_filterMap.1 hv
      obtain ⟨hh', hid', -⟩ := numbered_of_viewPointAt? hv
      obtain rfl := eq_of_rank_eq (mem_of_mem_openings he) (mem_of_mem_openings hf) hh hh'
        (hid.symm.trans hid')
      rw [hn] at hv
      simp at hv
    · have hle := hs.le_id hv
      omega
  case reported => exact hs
  case numbered => exact hs.isShortTrack

namespace Conversion

variable {o : Options}

/-- Numbers are unique and increase, and each is accounted for. -/
theorem numbered_of_ofTexts {helper runLog : String} {c : Conversion}
    (hc : ofTexts o helper runLog = .ok c) :
    ∃ own short, c.document.viewPoints.toList = own ++ short ∧
      Numbered o.trackers (Text.lines helper) (Text.lines runLog) own short := by
  obtain ⟨h, r, hh, hr, rfl⟩ := ofLines_eq_ok_iff.1 hc
  refine ⟨h.viewPoints.toList, r.shortTracks.toList, Array.toList_append, ?_⟩
  rw [headers_of_read hh] at hr
  rw [viewPoints_of_read hh]
  exact numbered_of_reported (reported_of_run hr)

/-- The second block is of no kind, and its number stays unused. -/
theorem numbered_of_ofTexts_gap : ∃ c,
    ofTexts {} "DEV #1: Extra test\nDEV #2: a b\nDEV #3: Extra test\n" "Deviation: Short\n" =
      .ok c ∧
    c.document.viewPoints.toList.map ViewPoint.id = [0, 2, 3] ∧
    ∃ own short, c.document.viewPoints.toList = own ++ short ∧
      Numbered {} (Text.lines "DEV #1: Extra test\nDEV #2: a b\nDEV #3: Extra test\n")
        (Text.lines "Deviation: Short\n") own short := by
  obtain ⟨c, hc, hi⟩ := exists_ok_of_toOption (show
    (ofTexts {} "DEV #1: Extra test\nDEV #2: a b\nDEV #3: Extra test\n"
      "Deviation: Short\n").toOption.map (fun c => c.document.viewPoints.toList.map ViewPoint.id) =
        some [0, 2, 3] by decide +kernel)
  exact ⟨c, hc, hi, numbered_of_ofTexts hc⟩

end Conversion

end ViewPoints
