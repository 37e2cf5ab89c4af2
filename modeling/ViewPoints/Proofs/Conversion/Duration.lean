import ViewPoints.Proofs.Conversion.Derived
import ViewPoints.Proofs.Stamp.Seconds

/-!
How long the common duration is. The windows of the runs lie between stamps, so that it comes out
exact to the millisecond. But a window may end before it begins, and then the time from the later
start to the earlier end is negative, though each window begins before the other ends.
-/

namespace ViewPoints

/-- A window that does not end before it begins. -/
def Window.Forward (w : Window) : Prop := w.start ≤ w.stop

/-! ### Windows that have been read -/

namespace RunLog.Scan

variable {t : Trackers} {first : Nat} {s s' : Scan} {line : String}

/-- Each window that is known lies between two stamps. -/
def Stamped (s : Scan) : Prop :=
  ∀ side w, (s.recording side).window = some w →
    ∃ a b : Stamp, a.InRange ∧ b.InRange ∧ w = .between a b

lemma stamped_empty : ({} : Scan).Stamped := by
  rintro (_ | _) w ⟨⟩

lemma stamped_of_meaning {stamps : String × String} {w : Window}
    (h : Attribute.window.meaning stamps = .ok w) :
    ∃ a b : Stamp, a.InRange ∧ b.InRange ∧ w = .between a b := by
  obtain ⟨a, ha, h⟩ := bind_eq_ok_iff.1 h
  obtain ⟨b, hb, rfl⟩ := map_eq_ok_iff.1 h
  exact ⟨a, b, Stamp.inRange_of_read ha, Stamp.inRange_of_read hb, rfl⟩

theorem Stamped.step (hs : s.Stamped) (h : s.step t first line = .ok s') : s'.Stamped := by
  intro side w hw
  have hb := (taken_of_step h).window side
  unfold Attribute.Becomes at hb
  split at hb
  next => exact hs side w (hb ▸ hw)
  next =>
    obtain ⟨v, hv, hsome⟩ := hb
    obtain rfl := Option.some.inj (hsome.symm.trans hw)
    exact stamped_of_meaning hv

theorem Stamped.run {lines : List (Except Failure String)} (hs : s.Stamped)
    (h : s.run t first lines = .ok s') : s'.Stamped :=
  run_induction (fun _ _ _ hs h => hs.step h) h hs

end RunLog.Scan

/-! ### The time that two windows share -/

namespace Window

variable {a b c d : Stamp} {x : Float}

lemma forward_between (ha : a.InRange) (hb : b.InRange) :
    (between a b).Forward ↔ a.millis ≤ b.millis :=
  ha.seconds_le_iff hb

/-- Where each window begins before the other ends, the later start comes behind the earlier end
only if these are the start and the end of the same window. -/
lemma overlap_sign (ha : a.InRange) (hb : b.InRange) (hc : c.InRange) (hd : d.InRange)
    (h : overlap (between a b) (between c d) = some x) :
    (0 ≤ x ↔ (between a b).Forward ∧ (between c d).Forward) ∧
      (x < 0 ↔ ¬ ((between a b).Forward ∧ (between c d).Forward)) := by
  rw [overlap_between ha hb hc hd] at h
  rw [forward_between ha hb, forward_between hc hd]
  split at h
  next hm =>
    obtain ⟨p, hp⟩ : ∃ p, p = if a.millis < c.millis then c else a := ⟨_, rfl⟩
    obtain ⟨q, hq⟩ : ∃ q, q = if d.millis < b.millis then d else b := ⟨_, rfl⟩
    rw [← hp, ← hq] at h
    obtain rfl := Option.some.inj h
    have hpr : p.InRange := by rw [hp]; split <;> assumption
    have hqr : q.InRange := by rw [hq]; split <;> assumption
    have hpm : p.millis = max a.millis c.millis := by rw [hp]; split <;> omega
    have hqm : q.millis = min b.millis d.millis := by rw [hq]; split <;> omega
    rw [hpr.difference_nonneg_iff hqr, hpr.difference_neg_iff hqr, hpm, hqm]
    omega
  next => simp at h

end Window

/-! ### Documents -/

namespace Conversion

open RunLog

variable {o : Options} {helper runLog : List (Except Failure String)} {c : Conversion} {d : Float}

lemma window_stamped (hc : ofLines o helper runLog = .ok c) (side : Side) {w : Window}
    (hw : (c.document.context.dataset side).window = some w) :
    ∃ a b : Stamp, a.InRange ∧ b.InRange ∧ w = .between a b := by
  obtain ⟨h, r, -, hr, rfl⟩ := ofLines_eq_ok_iff.1 hc
  exact Scan.stamped_empty.run hr side w ((window_context o h r side).symm.trans hw)

/-- There is a common duration only of two known windows that lie between stamps. -/
lemma exists_windows (hc : ofLines o helper runLog = .ok c)
    (hd : c.document.context.commonDuration = some d) :
    ∃ r t, c.document.context.reference.window = some r ∧
      c.document.context.test.window = some t ∧ Window.overlap r t = some d ∧
      (∃ a b : Stamp, a.InRange ∧ b.InRange ∧ r = .between a b) ∧
      ∃ a b : Stamp, a.InRange ∧ b.InRange ∧ t = .between a b := by
  rw [commonDuration_of_ofLines hc] at hd
  cases hr : c.document.context.reference.window with
  | none => simp [hr] at hd
  | some r =>
    cases ht : c.document.context.test.window with
    | none => simp [ht] at hd
    | some t =>
      rw [hr, ht] at hd
      exact ⟨r, t, rfl, rfl, hd, window_stamped hc .reference hr, window_stamped hc .test ht⟩

/-- A common duration is the time from the later start to the earlier end, to the millisecond. -/
theorem commonDuration_exact (hc : ofLines o helper runLog = .ok c)
    (hd : c.document.context.commonDuration = some d) :
    ∃ a b a' b' : Stamp, c.document.context.reference.window = some (.between a b) ∧
      c.document.context.test.window = some (.between a' b') ∧
      d = Stamp.difference (if a.millis < a'.millis then a' else a)
        (if b'.millis < b.millis then b' else b) := by
  obtain ⟨r, t, hr, ht, ho, ⟨a, b, ha, hb, rfl⟩, ⟨a', b', ha', hb', rfl⟩⟩ := exists_windows hc hd
  refine ⟨a, b, a', b', hr, ht, ?_⟩
  rw [Window.overlap_between ha hb ha' hb'] at ho
  split at ho
  next => exact (Option.some.inj ho).symm
  next => simp at ho

/-- A common duration is not negative just where neither window ends before it begins. -/
theorem commonDuration_sign (hc : ofLines o helper runLog = .ok c)
    (hd : c.document.context.commonDuration = some d) :
    ∃ r t, c.document.context.reference.window = some r ∧
      c.document.context.test.window = some t ∧
      (0 ≤ d ↔ r.Forward ∧ t.Forward) ∧ (d < 0 ↔ ¬ (r.Forward ∧ t.Forward)) := by
  obtain ⟨r, t, hr, ht, ho, ⟨a, b, ha, hb, rfl⟩, ⟨a', b', ha', hb', rfl⟩⟩ := exists_windows hc hd
  exact ⟨_, _, hr, ht, Window.overlap_sign ha hb ha' hb' ho⟩

/-- Two windows of which each runs forward. -/
theorem commonDuration_sign_forward : ∃ c,
    ofTexts {} ""
      ("Loading reference run: Time of Updates: 09:00:00.000 UTC ... 12:00:00.100 UTC\n" ++
        "Loading test run: Time of Updates: 11:30:00.000 UTC ... 12:30:00.000 UTC\n") = .ok c ∧
    c.document.context.commonDuration = some 1800.1 ∧
    ∃ r t, c.document.context.reference.window = some r ∧
      c.document.context.test.window = some t ∧
      ((0 : Float) ≤ 1800.1 ↔ r.Forward ∧ t.Forward) ∧
      ((1800.1 : Float) < 0 ↔ ¬ (r.Forward ∧ t.Forward)) := by
  obtain ⟨c, hc, hd⟩ := exists_ok_of_toOption (show
    (ofTexts {} ""
      ("Loading reference run: Time of Updates: 09:00:00.000 UTC ... 12:00:00.100 UTC\n" ++
        "Loading test run: Time of Updates: 11:30:00.000 UTC ... 12:30:00.000 UTC\n")).toOption.map
          (fun c => c.document.context.commonDuration) = some (some 1800.1) by decide +kernel)
  exact ⟨c, hc, hd, commonDuration_sign hc hd⟩

/-- The window of the reference run ends before it begins, within that of the test run. -/
theorem commonDuration_negative : ∃ c,
    ofTexts {} ""
      ("Loading reference run\nTime of Updates: 23:00:00.000 UTC ... 01:00:00.000 UTC\n" ++
        "Loading test run\nTime of Updates: 00:30:00.000 UTC ... 23:30:00.000 UTC\n") = .ok c ∧
    ∃ d, c.document.context.commonDuration = some d ∧ d < 0 := by
  obtain ⟨c, hc, hd⟩ := exists_ok_of_toOption (show
    (ofTexts {} ""
      ("Loading reference run\nTime of Updates: 23:00:00.000 UTC ... 01:00:00.000 UTC\n" ++
        "Loading test run\nTime of Updates: 00:30:00.000 UTC ... 23:30:00.000 UTC\n")).toOption.map
        (fun c => c.document.context.commonDuration) = some (some (-79200)) by decide +kernel)
  exact ⟨c, hc, -79200, hd, by decide +kernel⟩

end Conversion

end ViewPoints
