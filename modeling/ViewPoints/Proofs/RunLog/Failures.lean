import ViewPoints.Proofs.Deviation.Failures
import ViewPoints.Proofs.RunLog.Attribution
import ViewPoints.Proofs.RunLog.Renumbering

/-!
How a run log fails to be read: like the first of its lines that fails. Whether a line fails
depends on nothing but the section in force there.
-/

namespace ViewPoints.RunLog

open Pattern

variable {t : Trackers} {first : Nat} {s s' : Scan} {line : String} {phase : Phase} {e : Failure}

/-! ### One line -/

/-- How a line fails for what it tells of the run whose section is in force. -/
def Attribute.failure? {α β : Type} (A : Attribute α β) (phase : Phase) (line : String) :
    Option Failure :=
  phase.side?.bind fun side =>
    (A.told phase side line).bind fun a => ViewPoints.failure? (A.meaning a)

/-- How a line fails for the short track that it reports. -/
def shortTrackFailure? (t : Trackers) (line : String) : Option Failure :=
  if Text.mentions line "Deviation: Short" then failure? (ShortTrack.viewPoint t 0 line) else none

/-- How a line fails in a section: first for its window, then for its duration, and then for the
short track. -/
def lineFailure? (t : Trackers) (phase : Phase) (line : String) : Option Failure :=
  (Attribute.window.failure? phase line).or
    ((Attribute.duration.failure? phase line).or (shortTrackFailure? t line))

lemma Attribute.failure?_take {α β : Type} (A : Attribute α β) :
    ViewPoints.failure? (A.take s line) = A.failure? s.phase line := by
  unfold take Attribute.failure?
  split
  next hs => rw [hs]; rfl
  next side hs =>
    rw [hs, Option.bind_some]
    split
    next hn => rw [hn]; rfl
    next a ha => rw [ha, failure?_map, Option.bind_some]

lemma failure?_readShortTrack (t : Trackers) (first : Nat) (s : Scan) (line : String) :
    failure? (s.readShortTrack t first line) = shortTrackFailure? t line := by
  unfold Scan.readShortTrack shortTrackFailure?
  split
  next =>
    have hid := ShortTrack.viewPoint_add t 0 (first + s.shortTracks.size) line
    rw [Nat.zero_add] at hid
    rw [failure?_map, hid, failure?_map]
  next => rfl

/-- A line fails by the section in force behind its title, whatever else is known. -/
lemma failure?_step (t : Trackers) (first : Nat) (s : Scan) (line : String) :
    failure? (s.step t first line) = lineFailure? t (s.phase.after line) line := by
  have hp : (s.enter line).phase = s.phase.after line := by rw [Scan.enter_eq]
  have hi : failure? (Attribute.identity.take (s.enter line) line) = none := by
    rw [← Attribute.readIdentity_eq]
    rfl
  rw [Scan.step_eq, failure?_bind, hi, Option.none_or, lineFailure?]
  intro s₁ h₁
  have hp₁ : s₁.phase = s.phase.after line := by rw [Attribute.phase_of_take h₁, hp]
  rw [failure?_bind, Attribute.failure?_take, hp₁]
  intro s₂ h₂
  have hp₂ : s₂.phase = s.phase.after line := by rw [Attribute.phase_of_take h₂, hp₁]
  rw [failure?_bind, Attribute.failure?_take, hp₂]
  intro s₃ _
  exact failure?_readShortTrack t first s₃ line

/-! ### What a line fails for -/

lemma Attribute.failure?_eq_some_iff {α β : Type} {A : Attribute α β} :
    A.failure? phase line = some e ↔
      ∃ side a, A.told phase side line = some a ∧ A.meaning a = .error e := by
  unfold failure?
  constructor
  · intro h
    obtain ⟨side, -, h⟩ := Option.bind_eq_some_iff.1 h
    obtain ⟨a, ha, h⟩ := Option.bind_eq_some_iff.1 h
    exact ⟨side, a, ha, ViewPoints.failure?_eq_some_iff.1 h⟩
  · rintro ⟨side, a, ha, h⟩
    have hs : phase = .loading side := by
      by_contra hs
      simp [told, hs] at ha
    rw [Phase.side?_eq_some_iff.2 hs, Option.bind_some, ha, Option.bind_some, h]
    rfl

lemma Attribute.read_of_told {α β : Type} {A : Attribute α β} {side : Side} {a : α}
    (h : A.told phase side line = some a) : A.read line = some a := by
  unfold told at h
  split at h
  next => exact h
  next => simp at h

lemma captured_of_window {start stop : String} (h : window? line = some (start, stop)) :
    Captured line start Stamp.shape ∧ Captured line stop Stamp.shape := by
  unfold window? at h
  split at h
  next hl =>
    obtain ⟨rfl, rfl⟩ := Prod.mk.inj (Option.some.inj h)
    have hc : List.Forall₂ (Captured line) _ [Stamp.shape, Stamp.shape] := captured_of_read hl rfl
    simpa only [List.forall₂_cons, List.Forall₂.nil, and_true] using hc
  next => simp at h

lemma captured_of_duration {stamp : String} (h : duration? line = some stamp) :
    Captured line stamp Stamp.shape := by
  obtain ⟨l, hl, hs⟩ := Option.bind_eq_some_iff.1 h
  have hc : List.Forall₂ (Captured line) l [Stamp.shape] := captured_of_read hl rfl
  cases hc with
  | cons hc _ =>
    obtain rfl := Option.some.inj hs
    exact hc

/-- A window fails for its start or its end. -/
lemma unreadable_of_window {side : Side} {start stop : String}
    (ht : Attribute.window.told phase side line = some (start, stop))
    (he : Attribute.window.meaning (start, stop) = .error e) :
    ∃ stamp, (stamp = start ∨ stamp = stop) ∧ Stamp.Unreadable line stamp ∧
      e = .malformedTime stamp := by
  obtain ⟨hstart, hstop⟩ := captured_of_window (Attribute.read_of_told ht)
  rcases bind_eq_error_iff.1 he with he | ⟨a, -, he⟩
  · exact ⟨start, .inl rfl, Stamp.unreadable_of_captured hstart he⟩
  · exact ⟨stop, .inr rfl, Stamp.unreadable_of_captured hstop (map_eq_error_iff.1 he)⟩

lemma unreadable_of_duration {side : Side} {stamp : String}
    (ht : Attribute.duration.told phase side line = some stamp)
    (he : Attribute.duration.meaning stamp = .error e) :
    Stamp.Unreadable line stamp ∧ e = .malformedTime stamp :=
  Stamp.unreadable_of_captured (captured_of_duration (Attribute.read_of_told ht))
    (map_eq_error_iff.1 he)

lemma shortTrackFailure?_eq_some_iff :
    shortTrackFailure? t line = some e ↔
      ∃ token, ShortTrack.Misdated line token ∧ e = .malformedTime token := by
  unfold shortTrackFailure?
  split
  next hm =>
    rw [ViewPoints.failure?_eq_some_iff, ShortTrack.viewPoint_eq_error_iff]
    constructor
    · rintro ⟨token, hs, hn, rfl⟩
      exact ⟨token, ⟨hm, hs, hn⟩, rfl⟩
    · rintro ⟨token, ⟨-, hs, hn⟩, rfl⟩
      exact ⟨token, hs, hn, rfl⟩
  next hm => exact ⟨fun h => by simp at h, fun ⟨_, h, _⟩ => absurd h.marked hm⟩

/-! ### Whole logs -/

/-- How the lines of a log fail, each in the section in force there. -/
def failures (t : Trackers) (lines : List String) : List Failure :=
  lines.zipIdx.filterMap fun e => lineFailure? t (phaseAt lines e.2) e.1

lemma failures_append (t : Trackers) (lines : List String) (line : String) :
    failures t (lines ++ [line]) =
      failures t lines ++ (lineFailure? t (phaseAfter (lines ++ [line])) line).toList := by
  -- the lines before fail as they did
  have hl : lines.zipIdx.filterMap (fun e => lineFailure? t (phaseAt (lines ++ [line]) e.2) e.1) =
      failures t lines := by
    refine List.filterMap_congr fun e he => ?_
    have hi : e.2 < lines.length := by simpa using (List.mem_zipIdx he).2.1
    rw [phaseAt_append hi]
  rw [failures, List.zipIdx_append, List.filterMap_append, hl, List.zipIdx_singleton, Nat.zero_add,
    List.filterMap_cons, phaseAt_length]
  cases lineFailure? t (phaseAfter (lines ++ [line])) line <;> rfl

/-- Scanning a log stops at the first failure. -/
theorem failure?_run (t : Trackers) (first : Nat) (lines : List String) :
    failure? (Scan.run t first {} (lines.map .ok)) = (failures t lines).head? := by
  induction lines using List.reverseRecOn with
  | nil => rfl
  | append_singleton lines line ih =>
    rw [List.map_append, Scan.run_append, failures_append, List.head?_append, ← ih,
      Option.head?_toList]
    refine failure?_bind fun s hs => ?_
    have hp := (Scan.knows_of_run hs).phase
    have he : failure? ((s.step t first line).bind .ok) = (failure? (s.step t first line)).or none :=
      failure?_bind fun _ _ => rfl
    refine he.trans ?_
    rw [Option.or_none, failure?_step, hp, phaseAfter_append]

/-! ### Logs with lines that cannot be read -/

/-- How a log fails at a place. The section in force there is told by the lines before. -/
def failureAt? (t : Trackers) (lines : List (Except Failure String)) (i : Nat) : Option Failure :=
  match lines[i]? with
  | some (.error e) => some e
  | some (.ok line) => lineFailure? t (phaseAt (legible lines) i) line
  | none => none

/-- The first failure of a log, line by line. -/
def firstFailure? (t : Trackers) (lines : List (Except Failure String)) : Option Failure :=
  (List.range lines.length).findSome? (failureAt? t lines)

/-- Scanning the rest of a log fails at the first place that fails, from where the scan stands
on. -/
theorem failure?_run_from {before : List String} {rest : List (Except Failure String)}
    (hp : s.phase = phaseAfter before) :
    failure? (s.run t first rest) =
      (List.range' before.length rest.length).findSome?
        (failureAt? t (before.map .ok ++ rest)) := by
  induction rest generalizing s before with
  | nil => rfl
  | cons line rest ih =>
    have hget : (before.map .ok ++ line :: rest)[before.length]? = some line := by simp
    rw [List.length_cons, List.range'_succ, List.findSome?_cons, failureAt?, hget, Scan.run_cons]
    cases line with
    | error e => rfl
    | ok line =>
      have hline : phaseAt (before ++ line :: legible rest) before.length = s.phase.after line := by
        have ht : (before ++ line :: legible rest).take (before.length + 1) = before ++ [line] := by
          rw [List.append_cons, List.take_left' (by simp)]
        rw [phaseAt, hp, ← phaseAfter_append, ht]
      have hnext : ∀ s', s.step t first line = .ok s' → failure? (s'.run t first rest) =
          (List.range' (before.length + 1) rest.length).findSome?
            (failureAt? t (before.map .ok ++ .ok line :: rest)) := by
        intro s' hs
        have hp' : s'.phase = phaseAfter (before ++ [line]) := by
          rw [(Scan.taken_of_step hs).phase, hp, phaseAfter_append]
        rw [ih hp', List.length_append, List.length_singleton, List.map_append, List.append_assoc]
        rfl
      change failure? ((s.step t first line).bind _) = _
      rw [failure?_bind hnext, failure?_step]
      simp only [legible_append, legible_ok, hline]
      cases lineFailure? t (s.phase.after line) line <;> rfl

/-- Reading a log fails at the first place that fails. -/
theorem failure?_read (t : Trackers) (first : Nat) (lines : List (Except Failure String)) :
    failure? (read t first lines) = firstFailure? t lines := by
  have hp : ({} : Scan).phase = phaseAfter [] := rfl
  rw [read, failure?_run_from hp, firstFailure?, List.range_eq_range']
  rfl

end ViewPoints.RunLog
