import ViewPoints.Proofs.Conversion.Passes
import ViewPoints.Proofs.RunLog.Attribution
import ViewPoints.Proofs.RunLog.Phrases

/-!
What a document says of the two runs, and which lines of the run log it has it from.
-/

namespace ViewPoints

open RunLog

/-- The dataset of a run says what the last line to tell it says, and nothing where no line tells
anything. Times are told in seconds. Which stamps a line tells is said by
`Attribute.told_window_iff` and `Attribute.told_duration_iff`. -/
structure Dataset.Attributed (side : Side) (lines : List String) (d : Dataset) : Prop where
  identity : ∃ i, Attribute.identity.Becomes none (Attribute.identity.lastTold side lines) i ∧
    d.sac = i.map SensorIdentity.sac ∧ d.sic = i.map SensorIdentity.sic
  window : ∃ w, Attribute.window.Becomes none (Attribute.window.lastTold side lines) w ∧
    d.timeStart = w.map Window.start ∧ d.timeEnd = w.map Window.stop
  duration : Attribute.duration.Becomes none (Attribute.duration.lastTold side lines) d.duration
  windowSeconds : ∀ w, Attribute.window.lastTold side lines = some w →
    ∃ a b x y, Stamp.read w.1 = .ok a ∧ Stamp.read w.2 = .ok b ∧
      d.timeStart = some x ∧ a.InSeconds x ∧ d.timeEnd = some y ∧ b.InSeconds y
  durationSeconds : ∀ stamp, Attribute.duration.lastTold side lines = some stamp →
    ∃ a x, Stamp.read stamp = .ok a ∧ d.duration = some x ∧ a.InSeconds x

/-- What becomes of the datasets with a line in a section. The identity of one run may change how
the other is told apart from it, and nothing else of the other. -/
structure Context.Framed (phase : Phase) (before after : Context) : Prop where
  outside : (∀ side, phase ≠ .loading side) → ∀ side, after.dataset side = before.dataset side
  opposite : ∀ side, phase = .loading side → after.dataset side.opposite =
    { before.dataset side.opposite with
      sensorOverride := (after.dataset side.opposite).sensorOverride }

namespace Conversion

variable {o : Options} {h : HelperFile.Scan} {r r' : RunLog.Scan}

lemma attributed_of_knows {lines : List String} (hr : r.Knows lines) (side : Side) :
    ((context o h r).dataset side).Attributed side lines := by
  constructor
  case identity => exact ⟨_, hr.identity side, sac_context .., sic_context ..⟩
  case window => exact ⟨_, hr.window side, timeStart_context .., timeEnd_context ..⟩
  case duration =>
    rw [duration_context]
    exact hr.duration side
  case windowSeconds =>
    intro w hw
    obtain ⟨a, b, x, y, hra, hrb, hnew, hx, hy⟩ :=
      Attribute.becomes_window (hw ▸ hr.window side)
    rw [timeStart_context, timeEnd_context, hnew]
    exact ⟨a, b, x, y, hra, hrb, rfl, hx, rfl, hy⟩
  case durationSeconds =>
    intro stamp hs
    rw [duration_context]
    exact Attribute.becomes_duration (hs ▸ hr.duration side)

lemma framed_of_kept {phase : Phase} (hk : Scan.Kept phase r r') :
    (context o h r).Framed phase (context o h r') := by
  constructor
  case outside =>
    intro hp side
    have hr : r'.reference = r.reference := hk.recording .reference (hp .reference)
    have ht : r'.test = r.test := hk.recording .test (hp .test)
    cases side <;> simp only [context, Context.dataset, hr, ht, hk.override hp]
  case opposite =>
    rintro side rfl
    have hs := hk.recording side.opposite (by cases side <;> simp [Side.opposite])
    cases side with
    | reference =>
      have ht : r'.test = r.test := hs
      simp only [context, Context.dataset, Side.opposite, ht, dataset]
    | test =>
      have hr : r'.reference = r.reference := hs
      simp only [context, Context.dataset, Side.opposite, hr, dataset]

/-- Every line of a log that is read through is taken in by the scan before it. -/
lemma exists_taken {t : Trackers} {first : Nat} {lines : List String}
    (hr : RunLog.read t first (lines.map .ok) = .ok r) {i : Nat} (hi : i < lines.length) :
    ∃ s s', RunLog.read t first ((lines.take i).map .ok) = .ok s ∧
      RunLog.read t first ((lines.take (i + 1)).map .ok) = .ok s' ∧
      Scan.Taken t first s lines[i] s' := by
  have hl : lines = lines.take (i + 1) ++ lines.drop (i + 1) :=
    (List.take_append_drop (i + 1) lines).symm
  have ht : lines.take (i + 1) = lines.take i ++ [lines[i]] := List.take_succ_eq_append_getElem hi
  rw [RunLog.read, hl, List.map_append, Scan.run_append, bind_eq_ok_iff] at hr
  obtain ⟨s', hs', -⟩ := hr
  have hs'' := hs'
  rw [ht] at hs''
  obtain ⟨s, hs, hstep⟩ := Scan.run_snoc.1 hs''
  exact ⟨s, s', hs, hs', Scan.taken_of_step hstep⟩

/-- Each fact about a run is what the last line to tell it says. A line outside the section of a
run leaves the facts about that run alone. -/
theorem datasets_of_ofTexts {helper runLog : String} {c : Conversion}
    (hc : ofTexts o helper runLog = .ok c) :
    (∀ side, (c.document.context.dataset side).Attributed side (Text.lines runLog)) ∧
      ∀ i < (Text.lines runLog).length, ∃ before after,
        ofLines o ((Text.lines helper).map .ok) (((Text.lines runLog).take i).map .ok) =
          .ok before ∧
        ofLines o ((Text.lines helper).map .ok) (((Text.lines runLog).take (i + 1)).map .ok) =
          .ok after ∧
        before.document.context.Framed (phaseAt (Text.lines runLog) i)
          after.document.context := by
  obtain ⟨h, r, hh, hr, rfl⟩ := ofLines_eq_ok_iff.1 hc
  constructor
  · exact attributed_of_knows (Scan.knows_of_run hr)
  · intro i hi
    obtain ⟨s, s', hs, hs', ht⟩ := exists_taken hr hi
    refine ⟨_, _, ofLines_eq_ok_iff.2 ⟨h, s, hh, hs, rfl⟩, ofLines_eq_ok_iff.2 ⟨h, s', hh, hs', rfl⟩,
      framed_of_kept ?_⟩
    have hp : s'.phase = phaseAt (Text.lines runLog) i := (Scan.knows_of_run hs').phase
    rw [← hp]
    exact ht.kept

/-- The title of the test run counts on its own line, and what cannot be read there is passed
over. -/
theorem datasets_of_ofTexts_identity : ∃ c,
    ofTexts {} "" "Loading test run: Server Identification: 0x0a0b\nServer Identification: 0x\n" =
      .ok c ∧
    c.document.context.test.sac = some 0x0a ∧ c.document.context.test.sic = some 0x0b ∧
    (c.document.context.dataset .test).Attributed .test (Text.lines
      "Loading test run: Server Identification: 0x0a0b\nServer Identification: 0x\n") := by
  obtain ⟨c, hc, hs⟩ := exists_ok_of_toOption (show
    (ofTexts {} ""
      "Loading test run: Server Identification: 0x0a0b\nServer Identification: 0x\n").toOption.map
        (fun c => (c.document.context.test.sac, c.document.context.test.sic)) =
          some (some 0x0a, some 0x0b) by decide +kernel)
  exact ⟨c, hc, (Prod.mk.inj hs).1, (Prod.mk.inj hs).2, (datasets_of_ofTexts hc).1 .test⟩

end Conversion

end ViewPoints
