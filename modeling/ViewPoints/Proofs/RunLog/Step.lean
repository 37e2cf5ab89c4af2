import ViewPoints.Proofs.Success
import ViewPoints.RunLog

/-!
What one line of a run log does. Each handler writes to one part of what is known, and a line of
which it can make nothing leaves that part as it was.
-/

namespace ViewPoints.RunLog

/-- The section in force behind a line. -/
def Phase.after (phase : Phase) (line : String) : Phase := (ofLine? line).getD phase

/-- A fact about a run that lines of the log may state: the marker of such lines, what is read
from them, what that means, where it is kept, and what follows from it for both runs. -/
structure Attribute (α β : Type) where
  marker : String
  read : String → Option α
  meaning : α → Except Failure β
  value : Recording → Option β
  put : β → Recording → Recording
  override : Recording → Recording → Option SensorIdentity → Option SensorIdentity :=
    fun _ _ old => old
  common : Recording → Recording → Option Float → Option Float := fun _ _ old => old
  value_put : ∀ b r, value (put b r) = some b := by intros; rfl

namespace Attribute

def identity : Attribute SensorIdentity SensorIdentity where
  marker := "Server Identification:"
  read := identity?
  meaning := .ok
  value := Recording.identity
  put i r := { r with identity := some i }
  override r t _ := overrideFor r.identity t.identity

/-- Both stamps are read as they stand, the start first. -/
def window : Attribute (String × String) Window where
  marker := "Time of Updates:"
  read := window?
  meaning stamps :=
    (Stamp.read stamps.1).bind fun a =>
      (Stamp.read stamps.2).map fun b => ⟨a.seconds, b.seconds⟩
  value := Recording.window
  put w r := { r with window := some w }
  common r t old :=
    match r.window, t.window with
    | some r, some t => Window.overlap r t
    | _, _ => old

def duration : Attribute String Float where
  marker := "Duration:"
  read := duration?
  meaning stamp := (Stamp.read stamp).map Stamp.seconds
  value := Recording.duration
  put d r := { r with duration := some d }

variable {α β : Type} (A : Attribute α β)

/-- What a line tells of a run: only in the section in which the run is loaded, only with the
marker, and only if it can be read. -/
def told (phase : Phase) (side : Side) (line : String) : Option α :=
  if phase = .loading side ∧ Text.mentions line A.marker = true then A.read line else none

/-- The new value is what was told, or the old one if nothing was. -/
def Becomes (old : Option β) (a? : Option α) (new : Option β) : Prop :=
  match a? with
  | none => new = old
  | some a => ∃ b, A.meaning a = .ok b ∧ new = some b

/-- Finds anew what follows from the fact. -/
def settle (s : Scan) : Scan :=
  { s with
    sensorOverride := A.override s.reference s.test s.sensorOverride
    commonDuration := A.common s.reference s.test s.commonDuration }

/-- Takes in what a line tells of the run whose section is in force. -/
def take (s : Scan) (line : String) : Except Failure Scan :=
  match s.phase.side? with
  | none => .ok s
  | some side =>
    match A.told s.phase side line with
    | none => .ok s
    | some a => (A.meaning a).map fun b => A.settle (s.update side (A.put b))

end Attribute

lemma Phase.side?_eq_some_iff {phase : Phase} {side : Side} :
    phase.side? = some side ↔ phase = .loading side := by
  cases phase <;> simp [side?]

namespace Scan

lemma recording_update (s : Scan) (side other : Side) (f : Recording → Recording) :
    (s.update side f).recording other =
      if other = side then f (s.recording other) else s.recording other := by
  cases side <;> cases other <;> rfl

@[simp] lemma phase_update (s : Scan) (side : Side) (f : Recording → Recording) :
    (s.update side f).phase = s.phase := by
  cases side <;> rfl

@[simp] lemma shortTracks_update (s : Scan) (side : Side) (f : Recording → Recording) :
    (s.update side f).shortTracks = s.shortTracks := by
  cases side <;> rfl

lemma enter_eq (s : Scan) (line : String) :
    s.enter line = { s with phase := s.phase.after line } := by
  unfold enter Phase.after
  cases Phase.ofLine? line <;> rfl

end Scan

namespace Attribute

variable {α β : Type} {A : Attribute α β} {s s' : Scan} {line : String}

@[simp] lemma phase_settle (s : Scan) : (A.settle s).phase = s.phase := rfl

@[simp] lemma shortTracks_settle (s : Scan) : (A.settle s).shortTracks = s.shortTracks := rfl

@[simp] lemma recording_settle (s : Scan) (side : Side) :
    (A.settle s).recording side = s.recording side := by
  cases side <;> rfl

lemma told_of_phase {side : Side} (hs : s.phase ≠ .loading side) :
    A.told s.phase side line = none :=
  if_neg fun h => hs h.1

lemma told_of_unmarked (hm : ¬ Text.mentions line A.marker = true) (side : Side) :
    A.told s.phase side line = none :=
  if_neg fun h => hm h.2

lemma told_of_marked {side : Side} (hs : s.phase.side? = some side)
    (hm : Text.mentions line A.marker = true) : A.told s.phase side line = A.read line :=
  if_pos ⟨Phase.side?_eq_some_iff.1 hs, hm⟩

lemma take_of_unmarked (hm : ¬ Text.mentions line A.marker = true) : A.take s line = .ok s := by
  unfold take
  split
  next => rfl
  next => rw [told_of_unmarked hm]

lemma take_of_silent (hm : Text.mentions line A.marker = true)
    (h : ∀ side a, s.phase.side? = some side → A.read line = some a → False) :
    A.take s line = .ok s := by
  unfold take
  split
  next => rfl
  next side hs =>
    rw [told_of_marked hs hm]
    cases hr : A.read line with
    | none => rfl
    | some a => exact (h side a hs hr).elim

lemma take_of_read {side : Side} {a : α} (hm : Text.mentions line A.marker = true)
    (hs : s.phase.side? = some side) (ha : A.read line = some a) :
    A.take s line = (A.meaning a).map fun b => A.settle (s.update side (A.put b)) := by
  unfold take
  rw [hs]
  simp only [told_of_marked hs hm, ha]

/-! ### The handlers of the three facts -/

lemma readIdentity_eq : .ok (s.readIdentity line) = identity.take s line := by
  unfold Scan.readIdentity
  split
  next hm =>
    split
    next side i hs hi => exact (take_of_read (A := identity) hm hs hi).symm
    next hn => exact (take_of_silent hm hn).symm
  next hm => exact (take_of_unmarked hm).symm

lemma readWindow_eq : s.readWindow line = window.take s line := by
  unfold Scan.readWindow
  split
  next hm =>
    split
    next side start stop hs hi =>
      rw [take_of_read hm hs hi]
      simp only [window, bind_map, map_map]
      rfl
    next hn => exact (take_of_silent hm fun side stamps => hn side stamps.1 stamps.2).symm
  next hm => exact (take_of_unmarked hm).symm

lemma readDuration_eq : s.readDuration line = duration.take s line := by
  unfold Scan.readDuration
  split
  next hm =>
    split
    next side stamp hs hi =>
      rw [take_of_read hm hs hi]
      simp only [duration, map_map]
      rfl
    next hn => exact (take_of_silent hm hn).symm
  next hm => exact (take_of_unmarked hm).symm

/-! ### What a handler does -/

/-- All that taking a line in can do: nothing where nothing is told, and else to put what is told
into the recording of its run and to find anew what follows from it. -/
lemma take_cases (h : A.take s line = .ok s') :
    (s' = s ∧ ∀ side, A.told s.phase side line = none) ∨
      ∃ side a b, A.told s.phase side line = some a ∧ A.meaning a = .ok b ∧
        s' = A.settle (s.update side (A.put b)) := by
  unfold take at h
  split at h
  next hs =>
    refine .inl ⟨(Except.ok.inj h).symm, fun side => told_of_phase fun hp => ?_⟩
    rw [Phase.side?_eq_some_iff.2 hp] at hs
    simp at hs
  next side hs =>
    split at h
    next hn =>
      refine .inl ⟨(Except.ok.inj h).symm, fun other => ?_⟩
      by_cases ho : other = side
      · rw [ho, hn]
      · refine told_of_phase fun hp => ho ?_
        rw [Phase.side?_eq_some_iff.2 hp] at hs
        exact Option.some.inj hs
    next a ha =>
      obtain ⟨b, hb, rfl⟩ := map_eq_ok_iff.1 h
      exact .inr ⟨side, a, b, ha, hb, rfl⟩

lemma phase_of_take (h : A.take s line = .ok s') : s'.phase = s.phase := by
  rcases take_cases h with ⟨rfl, -⟩ | ⟨side, a, b, -, -, rfl⟩
  · rfl
  · rw [phase_settle, Scan.phase_update]

lemma shortTracks_of_take (h : A.take s line = .ok s') : s'.shortTracks = s.shortTracks := by
  rcases take_cases h with ⟨rfl, -⟩ | ⟨side, a, b, -, -, rfl⟩
  · rfl
  · rw [shortTracks_settle, Scan.shortTracks_update]

/-- Only the run of the section in force can be affected. -/
lemma recording_of_take {side : Side} (h : A.take s line = .ok s')
    (hs : s.phase ≠ .loading side) : s'.recording side = s.recording side := by
  rcases take_cases h with ⟨rfl, -⟩ | ⟨owner, a, b, ha, -, rfl⟩
  · rfl
  · have hne : side ≠ owner := by
      rintro rfl
      rw [told_of_phase hs] at ha
      simp at ha
    rw [recording_settle, Scan.recording_update, if_neg hne]

/-- Outside the sections of the runs nothing can be affected. -/
lemma eq_of_take (h : A.take s line = .ok s') (hs : ∀ side, s.phase ≠ .loading side) : s' = s := by
  rcases take_cases h with ⟨rfl, -⟩ | ⟨side, a, b, ha, -, -⟩
  · rfl
  · rw [told_of_phase (hs side)] at ha
    simp at ha

lemma becomes_of_take (h : A.take s line = .ok s') (side : Side) :
    A.Becomes (A.value (s.recording side)) (A.told s.phase side line)
      (A.value (s'.recording side)) := by
  by_cases hs : s.phase = .loading side
  · rcases take_cases h with ⟨rfl, hn⟩ | ⟨owner, a, b, ha, hb, rfl⟩
    · rw [hn side]
      rfl
    · obtain rfl : owner = side := by
        by_contra hne
        rw [told_of_phase (by simpa [hs] using Ne.symm hne)] at ha
        simp at ha
      rw [ha, recording_settle, Scan.recording_update, if_pos rfl]
      exact ⟨b, hb, A.value_put b _⟩
  · rw [told_of_phase hs, recording_of_take h hs]
    rfl

/-- What is put for one attribute leaves another alone. -/
lemma value_of_take {γ δ : Type} {B : Attribute γ δ} (h : A.take s line = .ok s')
    (hb : ∀ b r, B.value (A.put b r) = B.value r) (side : Side) :
    B.value (s'.recording side) = B.value (s.recording side) := by
  rcases take_cases h with ⟨rfl, -⟩ | ⟨owner, a, b, -, -, rfl⟩
  · rfl
  · rw [recording_settle, Scan.recording_update]
    split
    next => exact hb b _
    next => rfl

end Attribute

namespace Scan

variable {t : Trackers} {first : Nat} {s s' : Scan} {line : String}

lemma run_snoc {lines : List String} : s.run t first ((lines ++ [line]).map .ok) = .ok s' ↔
    ∃ m, s.run t first (lines.map .ok) = .ok m ∧ m.step t first line = .ok s' := by
  rw [List.map_append, run_append, bind_eq_ok_iff]
  refine exists_congr fun m => and_congr_right fun _ => ?_
  change (m.step t first line).bind .ok = _ ↔ _
  cases m.step t first line <;> rfl

/-- What every line preserves a whole log preserves. -/
theorem run_induction {P : Scan → Prop} {lines : List (Except Failure String)}
    (hstep : ∀ s s' line, P s → s.step t first line = .ok s' → P s')
    (h : s.run t first lines = .ok s') (hs : P s) : P s' := by
  induction lines generalizing s with
  | nil =>
    obtain rfl := Except.ok.inj h
    exact hs
  | cons line lines ih =>
    rw [run_cons, bind_eq_ok_iff] at h
    obtain ⟨m, hm, h⟩ := h
    obtain ⟨l, -, hm⟩ := bind_eq_ok_iff.1 hm
    exact ih h (hstep s m l hs hm)

lemma readShortTrack_cases (h : s.readShortTrack t first line = .ok s') :
    (Text.mentions line "Deviation: Short" = true ∧
      ∃ v, ShortTrack.viewPoint t (first + s.shortTracks.size) line = .ok v ∧
        s' = { s with shortTracks := s.shortTracks.push v }) ∨
    (Text.mentions line "Deviation: Short" = false ∧ s' = s) := by
  unfold readShortTrack at h
  split at h
  next hm =>
    obtain ⟨v, hv, rfl⟩ := map_eq_ok_iff.1 h
    exact .inl ⟨hm, v, hv, rfl⟩
  next hm => exact .inr ⟨by simpa using hm, (Except.ok.inj h).symm⟩

/-- Everything a line can do: it may begin a section, tell the three facts about the run that
the section loads, and report a short track. -/
theorem step_eq (t : Trackers) (first : Nat) (s : Scan) (line : String) :
    s.step t first line =
      (Attribute.identity.take (s.enter line) line).bind fun s =>
        (Attribute.window.take s line).bind fun s =>
          (Attribute.duration.take s line).bind fun s => s.readShortTrack t first line := by
  rw [← Attribute.readIdentity_eq, ok_bind]
  simp only [← Attribute.readWindow_eq, ← Attribute.readDuration_eq]
  rfl

lemma step_cases (h : s.step t first line = .ok s') :
    ∃ s₁ s₂ s₃, Attribute.identity.take (s.enter line) line = .ok s₁ ∧
      Attribute.window.take s₁ line = .ok s₂ ∧ Attribute.duration.take s₂ line = .ok s₃ ∧
      s₃.readShortTrack t first line = .ok s' := by
  rw [step_eq] at h
  obtain ⟨s₁, h₁, h⟩ := bind_eq_ok_iff.1 h
  obtain ⟨s₂, h₂, h⟩ := bind_eq_ok_iff.1 h
  obtain ⟨s₃, h₃, h⟩ := bind_eq_ok_iff.1 h
  exact ⟨s₁, s₂, s₃, h₁, h₂, h₃, h⟩

/-- What a line in a section leaves alone: what is known of a run outside the section of that run,
and how the test run is told apart outside the sections of both. -/
structure Kept (phase : Phase) (s s' : Scan) : Prop where
  recording : ∀ side, phase ≠ .loading side → s'.recording side = s.recording side
  override : (∀ side, phase ≠ .loading side) → s'.sensorOverride = s.sensorOverride

/-- What a line does to each part of what is known. -/
structure Taken (t : Trackers) (first : Nat) (s : Scan) (line : String) (s' : Scan) : Prop where
  phase : s'.phase = s.phase.after line
  identity : ∀ side, Attribute.identity.Becomes (s.recording side).identity
    (Attribute.identity.told s'.phase side line) (s'.recording side).identity
  window : ∀ side, Attribute.window.Becomes (s.recording side).window
    (Attribute.window.told s'.phase side line) (s'.recording side).window
  duration : ∀ side, Attribute.duration.Becomes (s.recording side).duration
    (Attribute.duration.told s'.phase side line) (s'.recording side).duration
  kept : Kept s'.phase s s'
  shortTracks : (Text.mentions line "Deviation: Short" = true ∧
      ∃ v, ShortTrack.viewPoint t (first + s.shortTracks.size) line = .ok v ∧
        s'.shortTracks = s.shortTracks.push v) ∨
    (Text.mentions line "Deviation: Short" = false ∧ s'.shortTracks = s.shortTracks)

theorem taken_of_step (h : s.step t first line = .ok s') : Taken t first s line s' := by
  obtain ⟨s₁, s₂, s₃, h₁, h₂, h₃, h₄⟩ := step_cases h
  have hr : ∀ side, s'.recording side = s₃.recording side := by
    rcases readShortTrack_cases h₄ with ⟨-, v, -, rfl⟩ | ⟨-, rfl⟩ <;> intro side <;>
      cases side <;> rfl
  have hp : s'.phase = s₃.phase := by
    rcases readShortTrack_cases h₄ with ⟨-, v, -, rfl⟩ | ⟨-, rfl⟩ <;> rfl
  have he : (s.enter line).phase = s.phase.after line := by rw [enter_eq]
  have hp₃ := Attribute.phase_of_take h₃
  have hp₂ := Attribute.phase_of_take h₂
  have hp₁ := Attribute.phase_of_take h₁
  have hr₀ : ∀ side, (s.enter line).recording side = s.recording side := by
    rw [enter_eq]
    intro side
    cases side <;> rfl
  have hph : s'.phase = (s.enter line).phase := by rw [hp, hp₃, hp₂, hp₁]
  constructor
  case phase => rw [hph, he]
  case identity =>
    intro side
    have h := Attribute.becomes_of_take h₁ side
    have e₂ := Attribute.value_of_take (B := Attribute.identity) h₂ (fun _ _ => rfl) side
    have e₃ := Attribute.value_of_take (B := Attribute.identity) h₃ (fun _ _ => rfl) side
    rw [← e₂, ← e₃, ← hr, hr₀, ← hph] at h
    exact h
  case window =>
    intro side
    have h := Attribute.becomes_of_take h₂ side
    have e₁ := Attribute.value_of_take (B := Attribute.window) h₁ (fun _ _ => rfl) side
    have e₃ := Attribute.value_of_take (B := Attribute.window) h₃ (fun _ _ => rfl) side
    rw [e₁, ← e₃, ← hr, hr₀, hp₁, ← hph] at h
    exact h
  case duration =>
    intro side
    have h := Attribute.becomes_of_take h₃ side
    have e₁ := Attribute.value_of_take (B := Attribute.duration) h₁ (fun _ _ => rfl) side
    have e₂ := Attribute.value_of_take (B := Attribute.duration) h₂ (fun _ _ => rfl) side
    rw [e₂, e₁, ← hr, hr₀, hp₂, hp₁, ← hph] at h
    exact h
  case kept =>
    constructor
    case recording =>
      intro side hs
      rw [hr, Attribute.recording_of_take h₃ (by rwa [hp₂, hp₁, ← hph]),
        Attribute.recording_of_take h₂ (by rwa [hp₁, ← hph]),
        Attribute.recording_of_take h₁ (by rwa [← hph]), hr₀]
    case override =>
      intro hs
      rw [hph] at hs
      obtain rfl := Attribute.eq_of_take h₁ hs
      obtain rfl := Attribute.eq_of_take h₂ hs
      obtain rfl := Attribute.eq_of_take h₃ hs
      have he' : (s.enter line).sensorOverride = s.sensorOverride := by rw [enter_eq]
      rw [← he']
      rcases readShortTrack_cases h₄ with ⟨-, v, -, rfl⟩ | ⟨-, rfl⟩ <;> rfl
  case shortTracks =>
    have hn : s₃.shortTracks = s.shortTracks := by
      rw [Attribute.shortTracks_of_take h₃, Attribute.shortTracks_of_take h₂,
        Attribute.shortTracks_of_take h₁, enter_eq]
    rcases readShortTrack_cases h₄ with ⟨hm, v, hv, rfl⟩ | ⟨hm, rfl⟩
    · exact .inl ⟨hm, v, by rwa [hn] at hv, by rw [hn]⟩
    · exact .inr ⟨hm, hn⟩

end Scan

end ViewPoints.RunLog
