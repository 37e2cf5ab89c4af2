import ViewPoints.Proofs.RunLog.Step

/-!
Reading a run log does not depend on the number of its first short track, apart from the numbers
that the short tracks are given. The facts about the runs do not depend on the short tracks at all.
-/

namespace ViewPoints

/-- The view point of a short track when `n` more view points have been numbered before it. -/
def ViewPoint.renumber (n : Nat) (v : ViewPoint) : ViewPoint :=
  { v with
    id := v.id + n
    name := "DEV #" ++ (v.id + n + 1).repr
    deviations := [(v.id + n + 1).repr] }

lemma ShortTrack.viewPoint_add (t : Trackers) (id n : Nat) (line : String) :
    viewPoint t (id + n) line = (viewPoint t id line).map (ViewPoint.renumber n) := by
  unfold viewPoint
  split
  next _ side track _ counterpart code address stamp diff _ =>
    cases Stamp.read stamp <;> rfl
  next => rfl

namespace RunLog.Scan

/-- The scan with something else in the place of each short track. -/
def mapShortTracks (f : ViewPoint → ViewPoint) (s : Scan) : Scan :=
  { s with shortTracks := s.shortTracks.map f }

def renumber (n : Nat) (s : Scan) : Scan :=
  { s with shortTracks := s.shortTracks.map (ViewPoint.renumber n) }

/-- What a line does apart from reporting a short track. -/
def takeFacts (s : Scan) (line : String) : Except Failure Scan :=
  (Attribute.identity.take (s.enter line) line).bind fun s =>
    (Attribute.window.take s line).bind fun s => Attribute.duration.take s line

variable (t : Trackers) (first n : Nat) (s : Scan) (line : String)

lemma step_eq_bind : s.step t first line =
    (s.takeFacts line).bind fun s => s.readShortTrack t first line := by
  rw [step_eq, takeFacts, bind_bind]
  simp only [bind_bind]

/-! ### Facts are taken whatever the short tracks are -/

section Facts

variable (f : ViewPoint → ViewPoint)

lemma phase_mapShortTracks : (s.mapShortTracks f).phase = s.phase := rfl

lemma mapShortTracks_update (side : Side) (g : Recording → Recording) :
    (s.mapShortTracks f).update side g = (s.update side g).mapShortTracks f := by
  cases side <;> rfl

lemma mapShortTracks_settle {α β : Type} (A : Attribute α β) :
    A.settle (s.mapShortTracks f) = (A.settle s).mapShortTracks f := rfl

lemma mapShortTracks_enter :
    (s.mapShortTracks f).enter line = (s.enter line).mapShortTracks f := by
  unfold enter
  cases Phase.ofLine? line <;> rfl

lemma mapShortTracks_take {α β : Type} (A : Attribute α β) :
    A.take (s.mapShortTracks f) line = (A.take s line).map (mapShortTracks f) := by
  unfold Attribute.take
  rw [phase_mapShortTracks]
  split
  next => rfl
  next side _ =>
    split
    next => rfl
    next a _ =>
      rw [map_map]
      exact map_congr_ok fun b _ => by rw [mapShortTracks_update, mapShortTracks_settle]

lemma mapShortTracks_takeFacts :
    (s.mapShortTracks f).takeFacts line = (s.takeFacts line).map (mapShortTracks f) := by
  unfold takeFacts
  rw [mapShortTracks_enter, mapShortTracks_take, map_bind, bind_map]
  refine bind_congr_ok fun s₁ _ => ?_
  rw [mapShortTracks_take, map_bind, bind_map]
  exact bind_congr_ok fun s₂ _ => mapShortTracks_take s₂ line f Attribute.duration

end Facts

/-! ### Other numbers -/

lemma renumber_readShortTrack :
    (s.renumber n).readShortTrack t (first + n) line =
      (s.readShortTrack t first line).map (renumber n) := by
  unfold readShortTrack
  split
  next =>
    have hn : first + n + (s.renumber n).shortTracks.size = first + s.shortTracks.size + n := by
      rw [renumber, Array.size_map]
      omega
    rw [hn, ShortTrack.viewPoint_add, map_map, map_map]
    refine map_congr_ok fun v _ => ?_
    simp [renumber]
  next => rfl

lemma renumber_step :
    (s.renumber n).step t (first + n) line = (s.step t first line).map (renumber n) := by
  have hs : (s.renumber n).takeFacts line = (s.takeFacts line).map (renumber n) :=
    mapShortTracks_takeFacts s line (ViewPoint.renumber n)
  rw [step_eq_bind, step_eq_bind, hs, map_bind, bind_map]
  exact bind_congr_ok fun s' _ => renumber_readShortTrack t first n s' line

theorem renumber_run (lines : List (Except Failure String)) :
    (s.renumber n).run t (first + n) lines = (s.run t first lines).map (renumber n) := by
  induction lines generalizing s with
  | nil => rfl
  | cons line lines ih =>
    rw [run_cons, run_cons]
    cases line with
    | error => rfl
    | ok line =>
      change ((s.renumber n).step t (first + n) line).bind _ = ((s.step t first line).bind _).map _
      rw [renumber_step, map_bind, bind_map]
      cases s.step t first line with
      | error => rfl
      | ok s' => exact ih s'

end RunLog.Scan

/-- The log read from another first number on. -/
theorem RunLog.read_eq_renumber (t : Trackers) (n : Nat) (lines : List (Except Failure String)) :
    read t n lines = (read t 0 lines).map (Scan.renumber n) := by
  have h := Scan.renumber_run t 0 n {} lines
  have he : Scan.renumber n {} = {} := by simp [Scan.renumber]
  rw [Nat.zero_add, he] at h
  exact h

end ViewPoints
