import Mathlib.Data.List.Induction
import ViewPoints.Proofs.RunLog.Step

/-!
The short tracks of a run log: one view point for each line that reports one, in the order of the
lines and numbered from the first number on.
-/

namespace ViewPoints

/-- The view point of a short track that is numbered `n`. -/
structure ViewPoint.IsShortTrack (n : Nat) (v : ViewPoint) : Prop where
  id : v.id = n
  kind : v.kind = .shortTrack
  name : v.name = "DEV #" ++ (n + 1).repr
  deviations : v.deviations = [(n + 1).repr]

lemma ShortTrack.isShortTrack {t : Trackers} {id : Nat} {line : String} {v : ViewPoint}
    (h : viewPoint t id line = .ok v) : v.IsShortTrack id := by
  unfold viewPoint at h
  split at h
  next =>
    obtain ⟨time, -, h⟩ := bind_eq_ok_iff.1 h
    obtain rfl := Except.ok.inj h
    exact ⟨rfl, rfl, rfl, rfl⟩
  next =>
    obtain rfl := Except.ok.inj h
    exact ⟨rfl, rfl, rfl, rfl⟩

namespace RunLog

/-- The lines that report a short track. -/
def shortTrackLines (lines : List String) : List String :=
  lines.filter fun l => Text.mentions l "Deviation: Short"

/-- The view points of these lines, numbered from `first` on. -/
def Reported (t : Trackers) (first : Nat) (lines : List String) (vs : List ViewPoint) : Prop :=
  List.Forall₂ (fun e v => ShortTrack.viewPoint t (first + e.2) e.1 = .ok v)
    (shortTrackLines lines).zipIdx vs

variable {t : Trackers} {first : Nat} {lines : List String} {line : String}
  {vs : List ViewPoint} {v : ViewPoint}

lemma Reported.length_eq (h : Reported t first lines vs) :
    vs.length = (shortTrackLines lines).length := by
  rw [← List.Forall₂.length_eq h, List.length_zipIdx]

lemma Reported.append (h : Reported t first lines vs)
    (hm : Text.mentions line "Deviation: Short" = true)
    (hv : ShortTrack.viewPoint t (first + vs.length) line = .ok v) :
    Reported t first (lines ++ [line]) (vs ++ [v]) := by
  have hl : shortTrackLines (lines ++ [line]) = shortTrackLines lines ++ [line] := by
    simp [shortTrackLines, hm]
  rw [Reported, hl, List.zipIdx_append, List.zipIdx_singleton]
  refine List.rel_append h (List.Forall₂.cons ?_ .nil)
  rw [Nat.zero_add, ← h.length_eq]
  exact hv

lemma Reported.skip (h : Reported t first lines vs)
    (hm : Text.mentions line "Deviation: Short" = false) :
    Reported t first (lines ++ [line]) vs := by
  have hl : shortTrackLines (lines ++ [line]) = shortTrackLines lines := by
    simp [shortTrackLines, hm]
  rw [Reported, hl]
  exact h

/-- Whatever the section, each line that reports a short track gives the next view point. -/
theorem reported_of_run {s : Scan} (h : Scan.run t first {} (lines.map .ok) = .ok s) :
    Reported t first lines s.shortTracks.toList := by
  induction lines using List.reverseRecOn generalizing s with
  | nil =>
    obtain rfl := Except.ok.inj h
    exact .nil
  | append_singleton lines line ih =>
    obtain ⟨m, hm, h⟩ := Scan.run_snoc.1 h
    rcases (Scan.taken_of_step h).shortTracks with ⟨hs, v, hv, hp⟩ | ⟨hs, hp⟩
    · rw [hp, Array.toList_push]
      exact (ih hm).append hs hv
    · rw [hp]
      exact (ih hm).skip hs

lemma Reported.isShortTrack (h : Reported t first lines vs) (k : Nat) (hk : k < vs.length) :
    vs[k].IsShortTrack (first + k) := by
  have hk' : k < (shortTrackLines lines).zipIdx.length := by
    rw [List.length_zipIdx, ← h.length_eq]
    exact hk
  have hv := List.Forall₂.get h hk' hk
  simp only [List.get_eq_getElem, List.getElem_zipIdx, Nat.zero_add] at hv
  exact ShortTrack.isShortTrack hv

/-- Each of them is made from a line. -/
lemma Reported.exists_line (h : Reported t first lines vs) (hv : v ∈ vs) :
    ∃ line ∈ lines, ShortTrack.viewPoint t v.id line = .ok v := by
  obtain ⟨k, hk, rfl⟩ := List.getElem_of_mem hv
  have hk' : k < (shortTrackLines lines).length := h.length_eq ▸ hk
  refine ⟨(shortTrackLines lines)[k], (List.mem_filter.1 (List.getElem_mem hk')).1, ?_⟩
  have hl := List.Forall₂.get h (by rwa [List.length_zipIdx]) hk
  simp only [List.get_eq_getElem, List.getElem_zipIdx, Nat.zero_add] at hl
  rw [(h.isShortTrack k hk).id]
  exact hl

/-- Their numbers increase. -/
lemma Reported.pairwise (h : Reported t first lines vs) : vs.Pairwise fun v w => v.id < w.id := by
  rw [List.pairwise_iff_getElem]
  intro i j hi hj hij
  rw [(h.isShortTrack i hi).id, (h.isShortTrack j hj).id]
  omega

lemma Reported.le_id (h : Reported t first lines vs) (hv : v ∈ vs) : first ≤ v.id := by
  obtain ⟨k, hk, rfl⟩ := List.getElem_of_mem hv
  rw [(h.isShortTrack k hk).id]
  omega

end RunLog

end ViewPoints
