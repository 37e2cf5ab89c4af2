import ViewPoints.Proofs.RunLog.Step

/-!
What a run log keeps beside the facts about the two runs: how the test run is told apart, and the
length of time that both runs cover. Behind every line both are what follows from the facts known
by then, whatever was known before.
-/

namespace ViewPoints.RunLog

/-- The length of time that two runs cover, as far as their windows are known. -/
def durationFor (reference test : Option Window) : Option Float :=
  match reference, test with
  | some r, some t => Window.overlap r t
  | _, _ => none

@[simp] lemma durationFor_none_left (w : Option Window) : durationFor none w = none := rfl

@[simp] lemma durationFor_none_right (w : Option Window) : durationFor w none = none := by
  cases w <;> rfl

lemma overrideFor_eq_some_iff {reference test : Option SensorIdentity} {o : SensorIdentity} :
    overrideFor reference test = some o ↔
      ∃ i, reference = some i ∧ test = some i ∧ o = i.disambiguated := by
  cases reference with
  | none => simp [overrideFor]
  | some r =>
    cases test with
    | none => simp [overrideFor]
    | some t =>
      simp only [overrideFor, Option.some.injEq]
      constructor
      · intro h
        split at h
        next hrt => exact ⟨r, rfl, hrt.symm, by rw [hrt, Option.some.inj h]⟩
        next => simp at h
      · rintro ⟨i, rfl, rfl, rfl⟩
        simp

namespace Scan

variable {t : Trackers} {first : Nat} {s s' : Scan} {line : String}

/-- What is kept beside the facts follows from them. -/
structure Settled (s : Scan) : Prop where
  override : s.sensorOverride = overrideFor s.reference.identity s.test.identity
  common : s.commonDuration = durationFor s.reference.window s.test.window

lemma settled_empty : ({} : Scan).Settled where
  override := rfl
  common := rfl

lemma Settled.enter (hs : s.Settled) (line : String) : (s.enter line).Settled := by
  rw [enter_eq]
  exact ⟨hs.override, hs.common⟩

/-- An identity, of whichever run, tells the test run apart anew and leaves the windows alone. -/
lemma Settled.take_identity (hs : s.Settled) (h : Attribute.identity.take s line = .ok s') :
    s'.Settled := by
  rcases Attribute.take_cases h with ⟨rfl, -⟩ | ⟨side, _, i, -, -, rfl⟩
  · exact hs
  · constructor
    case override => rfl
    case common => cases side <;> exact hs.common

/-- A window, of whichever run, is measured against that of the other one. As long as that one is
not known there is no value that could become out of date. -/
lemma Settled.take_window (hs : s.Settled) (h : Attribute.window.take s line = .ok s') :
    s'.Settled := by
  rcases Attribute.take_cases h with ⟨rfl, -⟩ | ⟨side, _, w, -, -, rfl⟩
  · exact hs
  · have hc := hs.common
    constructor
    case override => cases side <;> exact hs.override
    case common =>
      cases side with
      | reference =>
        cases ht : s.test.window with
        | none =>
          rw [ht, durationFor_none_right] at hc
          simp [Attribute.settle, Attribute.window, update, ht, hc]
        | some t => simp [Attribute.settle, Attribute.window, update, ht, durationFor]
      | test =>
        cases hr : s.reference.window with
        | none =>
          rw [hr, durationFor_none_left] at hc
          simp [Attribute.settle, Attribute.window, update, hr, hc]
        | some r => simp [Attribute.settle, Attribute.window, update, hr, durationFor]

lemma Settled.take_duration (hs : s.Settled) (h : Attribute.duration.take s line = .ok s') :
    s'.Settled := by
  rcases Attribute.take_cases h with ⟨rfl, -⟩ | ⟨side, _, d, -, -, rfl⟩
  · exact hs
  · constructor
    case override => cases side <;> exact hs.override
    case common => cases side <;> exact hs.common

lemma Settled.readShortTrack (hs : s.Settled) (h : s.readShortTrack t first line = .ok s') :
    s'.Settled := by
  rcases readShortTrack_cases h with ⟨-, v, -, rfl⟩ | ⟨-, rfl⟩
  · exact ⟨hs.override, hs.common⟩
  · exact hs

theorem Settled.step (hs : s.Settled) (h : s.step t first line = .ok s') : s'.Settled := by
  obtain ⟨s₁, s₂, s₃, h₁, h₂, h₃, h₄⟩ := step_cases h
  exact ((((hs.enter line).take_identity h₁).take_window h₂).take_duration h₃).readShortTrack h₄

theorem Settled.run {lines : List (Except Failure String)} (hs : s.Settled)
    (h : s.run t first lines = .ok s') : s'.Settled :=
  run_induction (fun _ _ _ hs h => hs.step h) h hs

/-- A window that is known stays known, though it may be told anew. -/
lemma window_isSome_of_run {lines : List (Except Failure String)} (h : s.run t first lines = .ok s')
    {side : Side} (hs : (s.recording side).window.isSome) :
    (s'.recording side).window.isSome := by
  refine run_induction (P := fun s => (s.recording side).window.isSome) ?_ h hs
  intro s s' line hs h
  have hb := (taken_of_step h).window side
  unfold Attribute.Becomes at hb
  split at hb
  next => rwa [hb]
  next =>
    obtain ⟨w, -, hw⟩ := hb
    rw [hw]
    rfl

end Scan

theorem settled_of_read {t : Trackers} {first : Nat} {lines : List (Except Failure String)}
    {s : Scan} (h : read t first lines = .ok s) : s.Settled :=
  Scan.settled_empty.run h

end ViewPoints.RunLog
