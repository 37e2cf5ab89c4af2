import ViewPoints.Proofs.Conversion.Passes
import ViewPoints.Proofs.Deviation.Shape
import ViewPoints.Proofs.HelperFile.Numbering
import ViewPoints.Proofs.RunLog.ShortTracks

/-!
The shape of the view points of a document: whatever the two files hold, a view point has the
fields of its kind.
-/

namespace ViewPoints.Conversion

open HelperFile RunLog

variable {o : Options} {helper runLog : List (Except Failure String)} {c : Conversion}

lemma shaped_of_viewPointAt? {t : Trackers} {lines : List String} {v : ViewPoint}
    (hv : v ∈ (openings lines).filterMap (viewPointAt? t lines)) : v.Shaped t := by
  obtain ⟨e, -, hv⟩ := List.mem_filterMap.1 hv
  exact Block.shaped_of_outcome (Block.viewPoint?_eq_some_iff.1 hv)

lemma shaped_of_reported {t : Trackers} {first : Nat} {lines : List String} {vs : List ViewPoint}
    (h : Reported t first lines vs) {v : ViewPoint} (hv : v ∈ vs) : v.Shaped t := by
  obtain ⟨line, -, hv⟩ := h.exists_line hv
  exact ShortTrack.shaped_of_viewPoint hv

/-- All view points of a document have the shape of their kind. -/
theorem shaped_of_ofLines (hc : ofLines o helper runLog = .ok c) {v : ViewPoint}
    (hv : v ∈ c.document.viewPoints) : v.Shaped o.trackers := by
  obtain ⟨u, w, rfl, rfl⟩ := exists_texts_of_ofLines hc
  obtain ⟨h, r, hh, hr, rfl⟩ := ofLines_eq_ok_iff.1 hc
  rcases Array.mem_append.1 hv with hv | hv
  · rw [← Array.mem_toList_iff, viewPoints_of_read hh] at hv
    exact shaped_of_viewPointAt? hv
  · exact shaped_of_reported (reported_of_run hr) (Array.mem_toList_iff.2 hv)

/-- A track of the test run with two candidates, of which a code is known. -/
theorem shaped_of_ofLines_candidates : ∃ c v,
    ofLines {} (["DEV #4: Extra test", "Extra test track #7.2",
      "Time of first update: 10:00:00.000 UTC", "Time of last update: 10:00:05.000 UTC",
      "searching ... 2 candidates found", "#8.1 SSR mode 3/A code; value=01234", "#9.1"].map .ok)
        [] = .ok c ∧
    v ∈ c.document.viewPoints ∧ v.kind = .unmatched .test .multiple ∧
    v.filters.trackNumbers.keys = ["REF track_num", "TST track_num"] ∧
    v.filters.mode3A = some "1234" ∧ v.Shaped {} := by
  obtain ⟨c, hc, hs⟩ := exists_ok_of_toOption (show
    (ofLines {} (["DEV #4: Extra test", "Extra test track #7.2",
      "Time of first update: 10:00:00.000 UTC", "Time of last update: 10:00:05.000 UTC",
      "searching ... 2 candidates found", "#8.1 SSR mode 3/A code; value=01234", "#9.1"].map .ok)
        []).toOption.map (fun c => c.document.viewPoints[0]?.map fun v =>
          (v.kind, v.filters.trackNumbers.keys, v.filters.mode3A)) =
        some (some (.unmatched .test .multiple, ["REF track_num", "TST track_num"],
          some "1234")) by decide +kernel)
  obtain ⟨v, hv, he⟩ := Option.map_eq_some_iff.1 hs
  obtain ⟨hk, he⟩ := Prod.mk.inj he
  obtain ⟨ht, hm⟩ := Prod.mk.inj he
  have hv := Array.mem_of_getElem? hv
  exact ⟨c, v, hc, hv, hk, ht, hm, shaped_of_ofLines hc hv⟩

end ViewPoints.Conversion
