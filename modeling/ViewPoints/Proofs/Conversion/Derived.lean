import ViewPoints.Proofs.Conversion.Passes
import ViewPoints.Proofs.RunLog.Derived

/-!
What a document says of both runs together: how the test run is told apart from the reference run,
and the length of time that both cover. At any point of the run log this agrees with what the
document says of each of them at that point.
-/

namespace ViewPoints

open RunLog

/-- Each of two windows begins before the other ends. -/
def Window.Meets (a b : Window) : Prop := a.start < b.stop ∧ b.start < a.stop

/-- The test run has another identity just where its own is that of the reference run. It is the
next one of the same area. The reference run has none. -/
structure Context.ToldApart (c : Context) : Prop where
  isSome_iff : c.test.sensorOverride.isSome ↔
    ∃ i, c.reference.sensorIdentity = some i ∧ c.test.sensorIdentity = some i
  next : ∀ o, c.test.sensorOverride = some o → ∃ i, c.test.sensorIdentity = some i ∧
    o.sac = i.sac ∧ o.sic.toNat = (i.sic.toNat + 1) % 256
  differs : ∀ o, c.test.sensorOverride = some o → ∀ side,
    (c.dataset side).sensorIdentity ≠ some o
  reference : c.reference.sensorOverride = none

/-- The common duration is the overlap of the two windows, and there is none where these do not
meet or are not both known. -/
structure Context.CommonTime (c : Context) : Prop where
  unknown : c.reference.window = none ∨ c.test.window = none → c.commonDuration = none
  known : ∀ r t, c.reference.window = some r → c.test.window = some t →
    c.commonDuration = Window.overlap r t
  present : ∀ r t, c.reference.window = some r → c.test.window = some t → r.Meets t →
    c.commonDuration.isSome
  absent : ∀ r t, c.reference.window = some r → c.test.window = some t → ¬ r.Meets t →
    c.commonDuration = none

/-! ### Identities -/

namespace SensorIdentity

@[simp] lemma sac_disambiguated (i : SensorIdentity) : i.disambiguated.sac = i.sac := rfl

lemma sic_disambiguated (i : SensorIdentity) :
    i.disambiguated.sic.toNat = (i.sic.toNat + 1) % 256 := by
  simp [disambiguated, UInt8.toNat_add]

lemma disambiguated_ne (i : SensorIdentity) : i.disambiguated ≠ i := by
  intro h
  have hs := i.sic_disambiguated
  have hlt := i.sic.toNat_lt
  rw [h] at hs
  omega

lemma disambiguated_inj {i j : SensorIdentity} (h : i.disambiguated = j.disambiguated) :
    i = j := by
  obtain ⟨hc, hs⟩ := SensorIdentity.mk.inj h
  have hi : i.sic = j.sic := by simpa using hs
  cases i
  cases j
  exact congr (congrArg SensorIdentity.mk hc) hi

end SensorIdentity

/-! ### Windows -/

namespace Window

variable {a b : Window}

lemma isSome_overlap_iff : (overlap a b).isSome ↔ a.Meets b := by
  unfold overlap Meets
  split
  next h => simpa using h
  next h => simpa using h

end Window

/-! ### Contexts -/

namespace Context

variable {c d : Context}

lemma toldApart_of_override (hr : c.reference.sensorOverride = none)
    (ht : c.test.sensorOverride =
      overrideFor c.reference.sensorIdentity c.test.sensorIdentity) : c.ToldApart := by
  have ho (o : SensorIdentity) : c.test.sensorOverride = some o ↔
      ∃ i, c.reference.sensorIdentity = some i ∧ c.test.sensorIdentity = some i ∧
        o = i.disambiguated := by
    rw [ht, overrideFor_eq_some_iff]
  constructor
  case isSome_iff =>
    rw [Option.isSome_iff_exists]
    constructor
    · rintro ⟨o, h⟩
      obtain ⟨i, hi, hi', -⟩ := (ho o).1 h
      exact ⟨i, hi, hi'⟩
    · rintro ⟨i, hi, hi'⟩
      exact ⟨i.disambiguated, (ho _).2 ⟨i, hi, hi', rfl⟩⟩
  case next =>
    intro o h
    obtain ⟨i, -, hi, rfl⟩ := (ho o).1 h
    exact ⟨i, hi, rfl, i.sic_disambiguated⟩
  case differs =>
    intro o h side
    obtain ⟨i, hi, hi', rfl⟩ := (ho o).1 h
    have hs : (c.dataset side).sensorIdentity = some i := by
      cases side
      · exact hi
      · exact hi'
    rw [hs, ne_eq, Option.some.injEq]
    exact i.disambiguated_ne.symm
  case reference => exact hr

/-- Where the same other identity is in force, no identity has changed. -/
lemma sensorIdentity_eq_of_override
    (hc : c.test.sensorOverride = overrideFor c.reference.sensorIdentity c.test.sensorIdentity)
    (hd : d.test.sensorOverride = overrideFor d.reference.sensorIdentity d.test.sensorIdentity)
    {o : SensorIdentity} (ho : c.test.sensorOverride = some o)
    (ho' : d.test.sensorOverride = some o) (side : Side) :
    (d.dataset side).sensorIdentity = (c.dataset side).sensorIdentity := by
  obtain ⟨i, hr, ht, hi⟩ := overrideFor_eq_some_iff.1 (hc.symm.trans ho)
  obtain ⟨j, hr', ht', hj⟩ := overrideFor_eq_some_iff.1 (hd.symm.trans ho')
  obtain rfl := SensorIdentity.disambiguated_inj (hi.symm.trans hj)
  cases side
  · exact hr'.trans hr.symm
  · exact ht'.trans ht.symm

lemma commonTime_of_duration
    (hc : c.commonDuration = durationFor c.reference.window c.test.window) : c.CommonTime := by
  have hk (r t : Window) (hr : c.reference.window = some r) (ht : c.test.window = some t) :
      c.commonDuration = Window.overlap r t := by
    rw [hc, hr, ht]
    rfl
  constructor
  case unknown =>
    rintro (h | h)
    · rw [hc, h, durationFor_none_left]
    · rw [hc, h, durationFor_none_right]
  case known => exact hk
  case present =>
    intro r t hr ht hm
    rw [hk r t hr ht]
    exact Window.isSome_overlap_iff.2 hm
  case absent =>
    intro r t hr ht hm
    rw [hk r t hr ht]
    simpa using mt Window.isSome_overlap_iff.1 hm

/-- Only known windows have an overlap. -/
lemma CommonTime.window_isSome (hc : c.CommonTime) {x : Float} (hx : c.commonDuration = some x)
    (side : Side) : (c.dataset side).window.isSome := by
  have hn (h : c.reference.window = none ∨ c.test.window = none) : False := by
    rw [hc.unknown h] at hx
    simp at hx
  rw [Option.isSome_iff_ne_none]
  cases side
  · exact fun h => hn (.inl h)
  · exact fun h => hn (.inr h)

/-- Of two known windows, there is no overlap just where they do not meet. -/
lemma CommonTime.eq_none_iff (hc : c.CommonTime) {r t : Window} (hr : c.reference.window = some r)
    (ht : c.test.window = some t) : c.commonDuration = none ↔ ¬ r.Meets t := by
  constructor
  · intro h hm
    have hp := hc.present r t hr ht hm
    rw [h] at hp
    simp at hp
  · exact hc.absent r t hr ht

end Context

/-! ### Documents -/

namespace Conversion

variable {o : Options} {h : HelperFile.Scan} {r : RunLog.Scan}
  {helper runLog earlier later : List (Except Failure String)} {c after : Conversion}

lemma sensorIdentity_context (o : Options) (h : HelperFile.Scan) (r : RunLog.Scan) (side : Side) :
    ((context o h r).dataset side).sensorIdentity = (r.recording side).identity := by
  rw [Dataset.sensorIdentity, sac_context, sic_context]
  cases (r.recording side).identity <;> rfl

lemma window_context (o : Options) (h : HelperFile.Scan) (r : RunLog.Scan) (side : Side) :
    ((context o h r).dataset side).window = (r.recording side).window := by
  rw [Dataset.window, timeStart_context, timeEnd_context]
  cases (r.recording side).window <;> rfl

/-- The other identity of the test run is the one that the identities of the runs call for. -/
lemma sensorOverride_of_ofLines (hc : ofLines o helper runLog = .ok c) :
    c.document.context.test.sensorOverride =
      overrideFor c.document.context.reference.sensorIdentity
        c.document.context.test.sensorIdentity := by
  obtain ⟨h, r, -, hr, rfl⟩ := ofLines_eq_ok_iff.1 hc
  calc (context o h r).test.sensorOverride
      = overrideFor r.reference.identity r.test.identity := (settled_of_read hr).override
    _ = overrideFor (context o h r).reference.sensorIdentity
          (context o h r).test.sensorIdentity :=
        congr (congrArg overrideFor (sensorIdentity_context o h r .reference).symm)
          (sensorIdentity_context o h r .test).symm

lemma commonDuration_of_ofLines (hc : ofLines o helper runLog = .ok c) :
    c.document.context.commonDuration =
      durationFor c.document.context.reference.window c.document.context.test.window := by
  obtain ⟨h, r, -, hr, rfl⟩ := ofLines_eq_ok_iff.1 hc
  calc (context o h r).commonDuration
      = durationFor r.reference.window r.test.window := (settled_of_read hr).common
    _ = durationFor (context o h r).reference.window (context o h r).test.window :=
        congr (congrArg durationFor (window_context o h r .reference).symm)
          (window_context o h r .test).symm

lemma sensorOverride_reference (hc : ofLines o helper runLog = .ok c) :
    c.document.context.reference.sensorOverride = none := by
  obtain ⟨h, r, -, -, rfl⟩ := ofLines_eq_ok_iff.1 hc
  rfl

/-- A log that is read through is read from any line on, behind which there is a document too. -/
lemma exists_earlier (hc : ofLines o helper (earlier ++ later) = .ok after) :
    ∃ h s r, ofLines o helper earlier = .ok (ofScans o h s) ∧
      s.run o.trackers h.headers later = .ok r ∧ ofScans o h r = after := by
  obtain ⟨h, r, hh, hr, he⟩ := ofLines_eq_ok_iff.1 hc
  rw [RunLog.read, Scan.run_append, bind_eq_ok_iff] at hr
  obtain ⟨s, hs, hr⟩ := hr
  exact ⟨h, s, r, ofLines_eq_ok_iff.2 ⟨h, s, hh, hs, rfl⟩, hr, he⟩

/-- Behind any line of the run log the test run is told apart from the reference run just where
this is called for. When the identity of either run changes, the other identity that was in force
is so no longer. -/
theorem toldApart_of_ofLines (hc : ofLines o helper (earlier ++ later) = .ok after) :
    ∃ before, ofLines o helper earlier = .ok before ∧
      before.document.context.ToldApart ∧ after.document.context.ToldApart ∧
      ∀ i, before.document.context.test.sensorOverride = some i →
        ∀ side, (after.document.context.dataset side).sensorIdentity ≠
            (before.document.context.dataset side).sensorIdentity →
          after.document.context.test.sensorOverride ≠ some i := by
  obtain ⟨h, s, r, hb, -, -⟩ := exists_earlier hc
  refine ⟨_, hb, ?_, ?_, ?_⟩
  · exact Context.toldApart_of_override (sensorOverride_reference hb)
      (sensorOverride_of_ofLines hb)
  · exact Context.toldApart_of_override (sensorOverride_reference hc)
      (sensorOverride_of_ofLines hc)
  · intro i hi side hs hi'
    exact hs (Context.sensorIdentity_eq_of_override (sensorOverride_of_ofLines hb)
      (sensorOverride_of_ofLines hc) hi hi' side)

/-- Both runs have the same identity, until the test run gets another one. -/
theorem toldApart_of_ofLines_change : ∃ after,
    ofLines {} [] (["Loading reference run: Server Identification: 0x0aff",
      "Loading test run: Server Identification: 0x0aff"].map .ok ++
        ["Server Identification: 0x0b00"].map .ok) = .ok after ∧
    after.document.context.test.sensorIdentity = some ⟨0x0b, 0x00⟩ ∧
    ∃ before, ofLines {} [] (["Loading reference run: Server Identification: 0x0aff",
        "Loading test run: Server Identification: 0x0aff"].map .ok) = .ok before ∧
      before.document.context.test.sensorOverride = some ⟨0x0a, 0x00⟩ ∧
      before.document.context.ToldApart ∧ after.document.context.ToldApart ∧
      after.document.context.test.sensorOverride ≠ some ⟨0x0a, 0x00⟩ := by
  obtain ⟨after, hc, ha⟩ := exists_ok_of_toOption (show
    (ofLines {} [] (["Loading reference run: Server Identification: 0x0aff",
      "Loading test run: Server Identification: 0x0aff"].map .ok ++
        ["Server Identification: 0x0b00"].map .ok)).toOption.map
          (fun c => c.document.context.test.sensorIdentity) = some (some ⟨0x0b, 0x00⟩) by
      decide +kernel)
  obtain ⟨before, hb, hs⟩ := exists_ok_of_toOption (show
    (ofLines {} [] (["Loading reference run: Server Identification: 0x0aff",
      "Loading test run: Server Identification: 0x0aff"].map .ok)).toOption.map
        (fun c => (c.document.context.test.sensorIdentity,
          c.document.context.test.sensorOverride)) =
        some (some ⟨0x0a, 0xff⟩, some ⟨0x0a, 0x00⟩) by decide +kernel)
  obtain ⟨hi, ho⟩ := Prod.mk.inj hs
  obtain ⟨before', hb', hb₁, ha₁, hn⟩ := toldApart_of_ofLines hc
  obtain rfl := Except.ok.inj (hb.symm.trans hb')
  refine ⟨after, hc, ha, before, hb, ho, hb₁, ha₁, hn _ ho .test ?_⟩
  rw [show after.document.context.dataset .test = after.document.context.test from rfl,
    show before.document.context.dataset .test = before.document.context.test from rfl, ha, hi]
  decide

/-- Behind any line of the run log the common duration is the overlap of the windows known by then.
One that was measured before gives way to that of the windows told since, and to none when these
do not meet. -/
theorem commonTime_of_ofLines (hc : ofLines o helper (earlier ++ later) = .ok after) :
    ∃ before, ofLines o helper earlier = .ok before ∧
      before.document.context.CommonTime ∧ after.document.context.CommonTime ∧
      ∀ d, before.document.context.commonDuration = some d →
        ∃ r t, after.document.context.reference.window = some r ∧
          after.document.context.test.window = some t ∧
          (after.document.context.commonDuration = none ↔ ¬ r.Meets t) := by
  obtain ⟨h, s, r, hb, hr, rfl⟩ := exists_earlier hc
  have hb₁ := Context.commonTime_of_duration (commonDuration_of_ofLines hb)
  have ha₁ := Context.commonTime_of_duration (commonDuration_of_ofLines hc)
  refine ⟨_, hb, hb₁, ha₁, ?_⟩
  intro d hd
  have hw (side : Side) : ((context o h r).dataset side).window.isSome := by
    have hs : ((context o h s).dataset side).window.isSome := hb₁.window_isSome hd side
    rw [window_context] at hs ⊢
    exact Scan.window_isSome_of_run hr hs
  obtain ⟨a, ha⟩ := Option.isSome_iff_exists.1 (hw .reference)
  obtain ⟨b, hb⟩ := Option.isSome_iff_exists.1 (hw .test)
  exact ⟨a, b, ha, hb, ha₁.eq_none_iff ha hb⟩

/-- The window of the test run is told again, and then meets that of the reference run no longer. -/
theorem commonTime_of_ofLines_apart : ∃ after,
    ofLines {} [] ([
      "Loading reference run, Time of Updates: 10:00:00.000 UTC ... 11:00:00.000 UTC",
      "Loading test run, Time of Updates: 10:30:00.000 UTC ... 11:30:00.000 UTC"].map .ok ++
        ["Time of Updates: 11:00:00.000 UTC ... 11:30:00.000 UTC"].map .ok) = .ok after ∧
    after.document.context.commonDuration = none ∧
    ∃ before, ofLines {} [] ([
        "Loading reference run, Time of Updates: 10:00:00.000 UTC ... 11:00:00.000 UTC",
        "Loading test run, Time of Updates: 10:30:00.000 UTC ... 11:30:00.000 UTC"].map .ok) =
          .ok before ∧
      before.document.context.commonDuration = some 1800 ∧
      before.document.context.CommonTime ∧ after.document.context.CommonTime ∧
      ∃ r t, after.document.context.reference.window = some r ∧
        after.document.context.test.window = some t ∧ ¬ r.Meets t := by
  obtain ⟨after, hc, ha⟩ := exists_ok_of_toOption (show
    (ofLines {} [] ([
      "Loading reference run, Time of Updates: 10:00:00.000 UTC ... 11:00:00.000 UTC",
      "Loading test run, Time of Updates: 10:30:00.000 UTC ... 11:30:00.000 UTC"].map .ok ++
        ["Time of Updates: 11:00:00.000 UTC ... 11:30:00.000 UTC"].map .ok)).toOption.map
          (fun c => c.document.context.commonDuration) = some none by decide +kernel)
  obtain ⟨before, hb, hd⟩ := exists_ok_of_toOption (show
    (ofLines {} [] ([
      "Loading reference run, Time of Updates: 10:00:00.000 UTC ... 11:00:00.000 UTC",
      "Loading test run, Time of Updates: 10:30:00.000 UTC ... 11:30:00.000 UTC"].map
        .ok)).toOption.map (fun c => c.document.context.commonDuration) = some (some 1800) by
      decide +kernel)
  obtain ⟨before', hb', hb₁, ha₁, hn⟩ := commonTime_of_ofLines hc
  obtain rfl := Except.ok.inj (hb.symm.trans hb')
  obtain ⟨r, t, hr, ht, hm⟩ := hn _ hd
  exact ⟨after, hc, ha, before, hb, hd, hb₁, ha₁, r, t, hr, ht, hm.1 ha⟩

end Conversion

end ViewPoints
