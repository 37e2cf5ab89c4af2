import ViewPoints.Proofs.Deviation.Outcomes
import ViewPoints.Proofs.HelperFile.Batch

/-!
The numbers of the view points of a helper file. A view point is numbered by the rank of the line
that opens its block among the headers of the file, so the numbers increase, and a header whose
block gives no view point leaves a gap.
-/

namespace ViewPoints

variable {t : Trackers}

lemma Header.id_of_read? {n : Nat} {line : String} {h : Header} (hh : read? n line = some h) :
    h.id = n := by
  unfold read? at hh
  split at hh
  next => exact (congrArg Header.id (Option.some.inj hh)).symm
  next => simp at hh

lemma Unmatched.viewPoint_id (owner : Side) (h : Header) (text : String) :
    (viewPoint t owner h text).id = h.id ∧ (viewPoint t owner h text).kind ≠ .shortTrack := by
  unfold viewPoint
  split
  next => exact ⟨rfl, by simp [filled]⟩
  next => exact ⟨rfl, by simp [blank]⟩

lemma Content.id_of_outcome {h : Header} {text : String} {v : ViewPoint}
    (hv : outcome t h text = .ok (.viewPoint v)) : v.id = h.id ∧ v.kind ≠ .shortTrack := by
  obtain ⟨s, kind, payload, word, -, -, hv⟩ := viewPoint_of_outcome hv
  obtain ⟨time, -, hv⟩ := bind_eq_ok_iff.1 hv
  obtain ⟨span, -, hv⟩ := bind_eq_ok_iff.1 hv
  obtain rfl := Except.ok.inj hv
  exact ⟨rfl, by simp⟩

/-- Only a block with a header turns into a view point, which has the number of the header. -/
lemma Block.id_of_outcome {b : Block} {v : ViewPoint} (hv : b.outcome t = .ok (.viewPoint v)) :
    ∃ h, b.header = some h ∧ v.id = h.id ∧ v.kind ≠ .shortTrack := by
  obtain ⟨h, hh, ⟨owner, rfl⟩ | hv⟩ := viewPoint_cases hv
  · exact ⟨h, hh, Unmatched.viewPoint_id owner h b.text⟩
  · exact ⟨h, hh, Content.id_of_outcome hv⟩

namespace HelperFile

variable {lines : List String} {e f : String × Nat} {v : ViewPoint}

/-- The view point of the block that a line opens, by the line and its place. -/
def viewPointAt? (t : Trackers) (lines : List String) (e : String × Nat) : Option ViewPoint :=
  (blockAt lines e.1 e.2).viewPoint? t

/-! ### Ranks -/

lemma rank_le {i j : Nat} (h : i ≤ j) : rank lines i ≤ rank lines j :=
  (List.take_sublist_take_left h).countP_le

lemma rank_le_countP (i : Nat) : rank lines i ≤ lines.countP isHeader :=
  (List.take_sublist i lines).countP_le

lemma rank_succ (he : e ∈ lines.zipIdx) (hh : isHeader e.1 = true) :
    rank lines (e.2 + 1) = rank lines e.2 + 1 := by
  obtain ⟨-, hi, hl⟩ := List.mem_zipIdx he
  have hi : e.2 < lines.length := by omega
  have hl : lines[e.2] = e.1 := by simpa using hl.symm
  rw [rank, List.take_succ_eq_append_getElem hi, List.countP_append, hl]
  simp [rank, hh]

lemma rank_lt_rank (he : e ∈ lines.zipIdx) (hh : isHeader e.1 = true) (h : e.2 < f.2) :
    rank lines e.2 < rank lines f.2 := by
  have hs := rank_succ he hh
  have hle : rank lines (e.2 + 1) ≤ rank lines f.2 := rank_le h
  omega

lemma rank_lt_countP (he : e ∈ lines.zipIdx) (hh : isHeader e.1 = true) :
    rank lines e.2 < lines.countP isHeader := by
  have hs := rank_succ he hh
  have hle : rank lines (e.2 + 1) ≤ lines.countP isHeader := rank_le_countP _
  omega

/-- No two headers have one rank. -/
lemma eq_of_rank_eq (he : e ∈ lines.zipIdx) (hf : f ∈ lines.zipIdx) (hh : isHeader e.1 = true)
    (hh' : isHeader f.1 = true) (h : rank lines e.2 = rank lines f.2) : e = f := by
  have hp : e.2 = f.2 := by
    rcases Nat.lt_trichotomy e.2 f.2 with hlt | heq | hgt
    · have := rank_lt_rank he hh hlt
      omega
    · exact heq
    · have := rank_lt_rank hf hh' hgt
      omega
  have hl : e.1 = f.1 := by
    rw [(List.mem_zipIdx he).2.2, (List.mem_zipIdx hf).2.2]
    simp only [hp]
  exact Prod.ext hl hp

/-! ### View points -/

lemma mem_of_mem_openings (he : e ∈ openings lines) : e ∈ lines.zipIdx :=
  (List.mem_filter.1 he).1

lemma pairwise_openings (lines : List String) : (openings lines).Pairwise fun e f => e.2 < f.2 := by
  have h : (lines.zipIdx.map Prod.snd).Pairwise (· < ·) := by
    rw [List.zipIdx_map_snd]
    exact List.pairwise_lt_range'
  exact (List.pairwise_map.1 h).filter _

lemma numbered_of_viewPointAt? (hv : viewPointAt? t lines e = some v) :
    isHeader e.1 = true ∧ v.id = rank lines e.2 ∧ v.kind ≠ .shortTrack := by
  obtain ⟨h, hh, hid, hk⟩ := Block.id_of_outcome (Block.viewPoint?_eq_some_iff.1 hv)
  refine ⟨?_, ?_, hk⟩
  · rw [← isSome_header_read? (rank lines e.2)]
    exact Option.isSome_iff_exists.2 ⟨h, hh⟩
  · rw [hid, Header.id_of_read? hh]

lemma viewPoints_of_classified {l : List (Nat × Block)} {outcomes : List (Nat × Outcome)}
    (h : l.mapM (classify t) = .ok outcomes) :
    (outcomes.filterMap fun e => e.2.viewPoint?) = l.filterMap fun e => e.2.viewPoint? t := by
  replace h := mapM_eq_ok_iff.1 h
  induction h with
  | nil => rfl
  | cons ha _ ih =>
    obtain ⟨o, ho, rfl⟩ := map_eq_ok_iff.1 ha
    rw [List.filterMap_cons, List.filterMap_cons, ih, Block.viewPoint?, ho]
    cases o <;> rfl

/-- The view points of a file are those of its blocks, in the order in which they open. -/
theorem viewPoints_of_read {s : Scan} (h : read t (lines.map .ok) = .ok s) :
    s.viewPoints.toList = (openings lines).filterMap (viewPointAt? t lines) := by
  rw [read_eq_complete, map_eq_ok_iff] at h
  obtain ⟨outcomes, ho, rfl⟩ := h
  have hv : (({} : Scan).complete 0 lines outcomes).viewPoints.toList =
      outcomes.filterMap fun e => e.2.viewPoint? := by
    simp [Scan.complete]
  rw [hv, viewPoints_of_classified ho, blocks, List.filterMap_map]
  rfl

/-- Their numbers increase. -/
theorem pairwise_viewPointAt? (t : Trackers) (lines : List String) :
    ((openings lines).filterMap (viewPointAt? t lines)).Pairwise fun v w => v.id < w.id := by
  rw [List.pairwise_filterMap]
  refine (pairwise_openings lines).imp_of_mem fun {e f} he _ hlt v hv w hw => ?_
  obtain ⟨hh, hid, -⟩ := numbered_of_viewPointAt? hv
  obtain ⟨-, hid', -⟩ := numbered_of_viewPointAt? hw
  rw [hid, hid']
  exact rank_lt_rank (mem_of_mem_openings he) hh hlt

end HelperFile

end ViewPoints
