import ViewPoints.Proofs.Deviation.Raising
import ViewPoints.Proofs.HelperFile.Unfinished

/-!
Helper files that follow one another. A scan that goes on from lines that leave no block open
finds what a new scan finds, with higher numbers and behind what is known already.
-/

namespace ViewPoints

/-- One offset, or another where that one is not known. -/
def TimeOffset.or (a b : TimeOffset) : TimeOffset := if a = {} then b else a

namespace HelperFile

/-- No block goes on from the lines `u` into the lines `v` behind them: `u` leaves none open, or `v`
begins with a line that ends blocks, such as the first line of another one. -/
def Separate (u v : List String) : Prop :=
  unfinished? u = none ∨ ∃ line rest, v = line :: rest ∧ ends line = true

lemma offset?_ok {line : String} {o : TimeOffset} (h : offset? line = some (.ok o)) : o ≠ {} := by
  unfold offset? at h
  split at h
  next =>
    split at h
    next =>
      obtain rfl := Except.ok.inj (Option.some.inj h)
      simp
    next => simp at h
  next => simp at h

namespace Scan

/-- What is known when `s` is known of the lines before and `r` of the lines from there on. -/
def followedBy (s r : Scan) : Scan where
  version := r.version.or s.version
  now := r.now.or s.now
  referenceFile := r.referenceFile.or s.referenceFile
  testFile := r.testFile.or s.testFile
  timeOffset := r.timeOffset.or s.timeOffset
  headers := r.headers + s.headers
  opened := r.opened.map (Block.raise s.headers)
  viewPoints := s.viewPoints ++ r.viewPoints.map (ViewPoint.raise s.headers)
  diagnostics := s.diagnostics ++ r.diagnostics

variable {t : Trackers} {s r : Scan} {line : String}

lemma followedBy_empty (h : s.opened = none) : s.followedBy {} = s := by
  obtain ⟨_, _, _, _, _, _, _, _, _⟩ := s
  obtain rfl := h
  simp [followedBy, TimeOffset.or]

lemma followedBy_record (o : Outcome) :
    s.followedBy (r.record o) = (s.followedBy r).record (o.raise s.headers) := by
  cases o <;> simp [followedBy, record, Outcome.raise]

lemma followedBy_close : (s.followedBy r).close t = (r.close t).map s.followedBy := by
  cases hb : r.opened with
  | none =>
    have hb' : (s.followedBy r).opened = none := by simp [followedBy, hb]
    rw [close_none hb, close_none hb', ok_map]
  | some b =>
    have hb' : (s.followedBy r).opened = some (b.raise s.headers) := by simp [followedBy, hb]
    rw [close_some hb, close_some hb', Block.outcome_raise, map_map, map_map]
    refine map_congr_ok fun o _ => ?_
    rw [followedBy_record]
    rfl

lemma followedBy_pass : (s.followedBy r).pass line = s.followedBy (r.pass line) := by
  rcases hk : LineKind.of? line with _ | _ | _ | _ | _ | side
  case none =>
    simp [pass, hk, append, followedBy, Option.map_map, Function.comp_def, Block.raise_append]
  case some.version =>
    cases hv : version? line <;> simp [pass, hk, readVersion, followedBy, hv]
  case some.deviation =>
    have hh : Header.read? (r.headers + s.headers) line =
        (Header.read? r.headers line).map (Header.raise s.headers) := Header.read?_add ..
    cases hr : Header.read? r.headers line <;>
      simp [pass, hk, openBlock, followedBy, hh, hr, Block.raise, Nat.add_right_comm]
  case some.now =>
    cases hv : now? line <;> simp [pass, hk, readNow, followedBy, hv]
  case some.timeOffset =>
    rcases ho : offset? line with _ | d | o
    · simp [pass, hk, readOffset, followedBy, ho]
    · simp [pass, hk, readOffset, followedBy, ho]
    · simp [pass, hk, readOffset, followedBy, ho, TimeOffset.or, offset?_ok ho]
  case some.filename =>
    cases side <;> cases hv : filename? line <;> simp [pass, hk, readFilename, followedBy, hv]

lemma followedBy_step : (s.followedBy r).step t line = (r.step t line).map s.followedBy := by
  rw [step_eq, step_eq]
  split
  next =>
    rw [followedBy_close, map_map, map_map]
    exact map_congr_ok fun _ _ => followedBy_pass
  next => rw [ok_map, ok_map, ok_map, followedBy_pass]

/-- Knowing more before the lines changes nothing about them. -/
theorem followedBy_run (lines : List (Except Failure String)) :
    (s.followedBy r).run t lines = (r.run t lines).map s.followedBy := by
  induction lines generalizing r with
  | nil => rfl
  | cons line lines ih =>
    rw [run_cons, run_cons, bind_map]
    cases line with
    | error => rfl
    | ok line =>
      change ((s.followedBy r).step t line).bind _ = (r.step t line).bind _
      rw [followedBy_step, map_bind]
      simp only [ih]

/-- A line that ends blocks finds the open block ended. -/
lemma step_of_ends (h : ends line = true) : s.step t line = (s.close t).bind (step t · line) := by
  rw [step_eq, if_pos h]
  cases hs : s.close t with
  | error => rfl
  | ok s' => rw [ok_bind, step_eq, if_pos h, close_none (opened_of_close hs)]

/-- The open block may as well be ended before lines that are separate from those before them. -/
lemma run_of_separate {u v : List String} (h : Separate u v) (hs : run t {} (u.map .ok) = .ok s) :
    s.run t (v.map .ok) = (s.close t).bind (run t · (v.map .ok)) := by
  rcases h with h | ⟨line, rest, rfl, h⟩
  · rw [← opened_of_run hs] at h
    rw [close_none h, ok_bind]
  · have hf (s : Scan) : s.run t ((line :: rest).map .ok) =
        (s.step t line).bind fun s => s.run t (rest.map .ok) := rfl
    rw [hf, step_of_ends h, bind_bind]
    rfl

end Scan

/-- Of two files after one another the first is read to its end, and then the second as if it
stood alone. -/
theorem read_append {u v : List String} (h : Separate u v) (t : Trackers) :
    read t ((u ++ v).map .ok) = (read t (u.map .ok)).bind fun s =>
      (read t (v.map .ok)).map s.followedBy := by
  have hv (s : Scan) (hs : s.opened = none) :
      (s.run t (v.map .ok)).bind (Scan.close t) = (read t (v.map .ok)).map s.followedBy := by
    have hr := Scan.followedBy_run (t := t) (s := s) (r := {}) (v.map .ok)
    rw [Scan.followedBy_empty hs] at hr
    rw [hr, map_bind, read, bind_map]
    exact bind_congr_ok fun r _ => Scan.followedBy_close
  rw [read, List.map_append, Scan.run_append, bind_bind, read, bind_bind]
  refine bind_congr_ok fun s hs => ?_
  rw [Scan.run_of_separate h hs, bind_bind]
  exact bind_congr_ok fun s' hs' => hv s' (Scan.opened_of_close hs')

end HelperFile

end ViewPoints
