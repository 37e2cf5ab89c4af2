import ViewPoints.Proofs.Conversion.Passes
import ViewPoints.Proofs.RunLog.Failures

/-!
When a conversion of texts fails, and for what. Nothing that is not recognised makes it fail, only
a stamp that cannot be read. In plain text every stamp can be read but the start of a short track,
which may be any word.
-/

namespace ViewPoints

open HelperFile RunLog

/-- The text of the start of the first short track whose start has not the form of a stamp. -/
def ShortTrack.FirstMisdated (lines : List String) (token : String) : Prop :=
  ∃ u line v, lines = u ++ line :: v ∧ (∀ l ∈ u, ∀ k, ¬ Misdated l k) ∧ Misdated line token

/-- What a conversion fails for: a stamp in a block of the helper file, or on a line of the run log
that tells of a window, a duration or a short track. -/
inductive Cause (t : Trackers) (helper runLog : List String) (stamp : String) : Prop where
  | block (e : Nat × Block) (mem : e ∈ blocks helper)
    (failed : e.2.outcome t = .error (.malformedTime stamp))
    (recognized : Content.Recognized e.2) (unreadable : Stamp.Unreadable e.2.text stamp)
  | window (e : String × Nat) (mem : e ∈ runLog.zipIdx) (side : Side) (start stop : String)
    (told : Attribute.window.told (phaseAt runLog e.2) side e.1 = some (start, stop))
    (bound : stamp = start ∨ stamp = stop) (unreadable : Stamp.Unreadable e.1 stamp)
  | duration (e : String × Nat) (mem : e ∈ runLog.zipIdx) (side : Side)
    (told : Attribute.duration.told (phaseAt runLog e.2) side e.1 = some stamp)
    (unreadable : Stamp.Unreadable e.1 stamp)
  | shortTrack (line : String) (mem : line ∈ runLog) (misdated : ShortTrack.Misdated line stamp)

namespace Conversion

variable {o : Options} {t : Trackers} {helper runLog : String} {lines : List String} {e : Failure}

/-! ### The first failure -/

/-- How the blocks of a helper file fail. -/
def blockFailures (t : Trackers) (lines : List String) : List Failure :=
  (blocks lines).filterMap fun e => failure? (e.2.outcome t)

/-- A conversion fails like the first block or line that fails, the blocks before the lines. -/
theorem failure?_ofTexts (o : Options) (helper runLog : String) :
    failure? (ofTexts o helper runLog) =
      (blockFailures o.trackers (Text.lines helper) ++
        failures o.trackers (Text.lines runLog)).head? := by
  have hh : failure? (HelperFile.read o.trackers ((Text.lines helper).map .ok)) =
      (blockFailures o.trackers (Text.lines helper)).head? := by
    rw [read_eq_complete, failure?_map, failure?_mapM, blockFailures]
    simp only [classify, failure?_map]
  rw [List.head?_append, ← hh]
  change failure? (ofLines o _ _) = _
  rw [ofLines_eq_bind]
  refine failure?_bind fun h _ => ?_
  rw [failure?_map, RunLog.read, failure?_run]

lemma cause_of_blockFailures {helper runLog : List String} (h : e ∈ blockFailures t helper) :
    ∃ stamp, e = .malformedTime stamp ∧ Cause t helper runLog stamp := by
  obtain ⟨b, hb, he⟩ := List.mem_filterMap.1 h
  have he := failure?_eq_some_iff.1 he
  obtain ⟨hr, stamp, hu, rfl⟩ := Block.unreadable_of_outcome he
  exact ⟨stamp, rfl, .block b hb he hr hu⟩

lemma cause_of_failures {helper runLog : List String} (h : e ∈ failures t runLog) :
    ∃ stamp, e = .malformedTime stamp ∧ Cause t helper runLog stamp := by
  obtain ⟨l, hl, he⟩ := List.mem_filterMap.1 h
  rcases Option.or_eq_some_iff.1 he with hw | ⟨-, he⟩
  · obtain ⟨side, ⟨start, stop⟩, ht, hm⟩ := Attribute.failure?_eq_some_iff.1 hw
    obtain ⟨stamp, hs, hu, rfl⟩ := unreadable_of_window ht hm
    exact ⟨stamp, rfl, .window l hl side start stop ht hs hu⟩
  rcases Option.or_eq_some_iff.1 he with hd | ⟨-, hs⟩
  · obtain ⟨side, stamp, ht, hm⟩ := Attribute.failure?_eq_some_iff.1 hd
    obtain ⟨hu, rfl⟩ := unreadable_of_duration ht hm
    exact ⟨stamp, rfl, .duration l hl side ht hu⟩
  · obtain ⟨token, hm, rfl⟩ := shortTrackFailure?_eq_some_iff.1 hs
    exact ⟨token, rfl, .shortTrack l.1 (List.fst_mem_of_mem_zipIdx hl) hm⟩

/-- A failure has a cause. -/
lemma cause_of_ofTexts (h : ofTexts o helper runLog = .error e) :
    ∃ stamp, e = .malformedTime stamp ∧
      Cause o.trackers (Text.lines helper) (Text.lines runLog) stamp := by
  have hf := failure?_ofTexts o helper runLog
  rw [h, failure?_error] at hf
  rcases List.mem_append.1 (List.mem_of_mem_head? hf.symm) with h | h
  · exact cause_of_blockFailures h
  · exact cause_of_failures h

/-! ### Plain text -/

lemma not_unreadable_of_plain {w stamp : String} (h : Text.Plain w.toList) :
    ¬ Stamp.Unreadable w stamp := by
  rintro ⟨hm, -, c, hc, hf⟩
  obtain ⟨u, r, hw⟩ := Text.mentions_iff.1 hm
  have hp := h c (by simp [hw, hc])
  have hd := (Text.isForeignDigit_iff.1 hf).2
  omega

lemma plain_of_mem_lines {text line : String} (h : Text.Plain text.toList)
    (hl : line ∈ Text.lines text) : Text.Plain line.toList :=
  fun c hc => h c (Text.mem_of_mem_lines hl hc)

lemma blockFailures_of_plain (h : ∀ line ∈ lines, Text.Plain line.toList) :
    blockFailures t lines = [] := by
  refine List.filterMap_eq_nil_iff.2 fun e he => ?_
  refine Option.eq_none_iff_forall_ne_some.2 fun f hf => ?_
  obtain ⟨-, stamp, hu, -⟩ := Block.unreadable_of_outcome (failure?_eq_some_iff.1 hf)
  refine not_unreadable_of_plain (fun c hc => ?_) hu
  rcases exists_line_of_mem_text he hc with rfl | ⟨line, hl, hc⟩
  · decide
  · exact h line hl c hc

lemma lineFailure?_of_plain {phase : Phase} {line : String} (h : Text.Plain line.toList) :
    lineFailure? t phase line = shortTrackFailure? t line := by
  have hw : Attribute.window.failure? phase line = none := by
    refine Option.eq_none_iff_forall_ne_some.2 fun f hf => ?_
    obtain ⟨side, ⟨start, stop⟩, ht, hm⟩ := Attribute.failure?_eq_some_iff.1 hf
    obtain ⟨stamp, -, hu, -⟩ := unreadable_of_window ht hm
    exact not_unreadable_of_plain h hu
  have hd : Attribute.duration.failure? phase line = none := by
    refine Option.eq_none_iff_forall_ne_some.2 fun f hf => ?_
    obtain ⟨side, stamp, ht, hm⟩ := Attribute.failure?_eq_some_iff.1 hf
    exact not_unreadable_of_plain h (unreadable_of_duration ht hm).1
  rw [lineFailure?, hw, hd, Option.none_or, Option.none_or]

lemma failures_of_plain (h : ∀ line ∈ lines, Text.Plain line.toList) :
    failures t lines = lines.filterMap (shortTrackFailure? t) := by
  have hl : failures t lines = lines.zipIdx.filterMap fun e => shortTrackFailure? t e.1 :=
    List.filterMap_congr fun e he => lineFailure?_of_plain (h _ (List.fst_mem_of_mem_zipIdx he))
  rw [hl]
  conv_rhs => rw [← List.zipIdx_map_fst 0 lines, List.filterMap_map]
  rfl

/-- A conversion of plain texts fails like the first short track that fails. -/
lemma failure?_of_plain (hh : Text.Plain helper.toList) (hr : Text.Plain runLog.toList) :
    failure? (ofTexts o helper runLog) =
      (Text.lines runLog).findSome? (shortTrackFailure? o.trackers) := by
  rw [failure?_ofTexts, blockFailures_of_plain fun _ => plain_of_mem_lines hh,
    failures_of_plain fun _ => plain_of_mem_lines hr, List.nil_append, List.head?_filterMap]

lemma firstMisdated_of_findSome? (h : lines.findSome? (shortTrackFailure? t) = some e) :
    ∃ token, ShortTrack.FirstMisdated lines token ∧ e = .malformedTime token := by
  obtain ⟨u, line, v, hl, he, hu⟩ := List.findSome?_eq_some_iff.1 h
  obtain ⟨token, hm, rfl⟩ := shortTrackFailure?_eq_some_iff.1 he
  refine ⟨token, ⟨u, line, v, hl, fun l hl k hk => ?_, hm⟩, rfl⟩
  exact Option.eq_none_iff_forall_ne_some.1 (hu l hl) _ (shortTrackFailure?_eq_some_iff.2 ⟨k, hk, rfl⟩)

lemma exists_findSome?_iff : (∃ e, lines.findSome? (shortTrackFailure? t) = some e) ↔
    ∃ line ∈ lines, ∃ token, ShortTrack.Misdated line token := by
  rw [← Option.isSome_iff_exists, List.findSome?_isSome_iff]
  refine exists_congr fun line => and_congr_right fun _ => ?_
  simp only [Option.isSome_iff_exists, shortTrackFailure?_eq_some_iff]
  constructor
  · rintro ⟨_, token, hm, -⟩
    exact ⟨token, hm⟩
  · rintro ⟨token, hm⟩
    exact ⟨_, token, hm, rfl⟩

/-- In plain text only a short track without a proper start makes a conversion fail, and the first
one decides. In any text a failure names a stamp that cannot be read, and what it stands in was
recognised. -/
theorem failure_iff_misdated (o : Options) (helper runLog : String) :
    (Text.Plain helper.toList → Text.Plain runLog.toList →
      ((∃ e, ofTexts o helper runLog = .error e) ↔
        ∃ line ∈ Text.lines runLog, ∃ token, ShortTrack.Misdated line token) ∧
      ∀ e, ofTexts o helper runLog = .error e → ∃ token,
        ShortTrack.FirstMisdated (Text.lines runLog) token ∧ e = .malformedTime token) ∧
    ∀ e, ofTexts o helper runLog = .error e → ∃ stamp, e = .malformedTime stamp ∧
      Cause o.trackers (Text.lines helper) (Text.lines runLog) stamp := by
  refine ⟨fun hh hr => ?_, fun e he => cause_of_ofTexts he⟩
  simp only [← failure?_eq_some_iff, failure?_of_plain hh hr]
  exact ⟨exists_findSome?_iff, fun e he => firstMisdated_of_findSome? he⟩

/-- The first short track cannot be made out and is passed over, the second one starts at no proper
time. In the other conversion a digit of the window is an Arabic one. -/
theorem failure_iff_misdated_second : ∃ log window : String,
    (Text.Plain "".toList ∧ Text.Plain log.toList ∧
      ofTexts {} "" log = .error (.malformedTime "11:22") ∧
      (∃ line ∈ Text.lines log, ∃ token, ShortTrack.Misdated line token) ∧
      ∃ token, ShortTrack.FirstMisdated (Text.lines log) token ∧
        Failure.malformedTime "11:22" = .malformedTime token) ∧
    ofTexts {} "" window = .error (.malformedTime "1\u0661:00:00.000") ∧
      ∃ stamp, Failure.malformedTime "1\u0661:00:00.000" = .malformedTime stamp ∧
        Cause {} (Text.lines "") (Text.lines window) stamp := by
  let log := "Deviation: Short tracks\n" ++ "Deviation: Short tst track #1 " ++
    "(ref track #2 [A:-] [S:-]) starting near 11:22 UTC (diff=1.0 seconds)\n"
  let window := "Loading test run\nTime of Updates: 10:00:00.000 UTC ... 1\u0661:00:00.000 UTC\n"
  have hh : Text.Plain "".toList := by decide
  have hr : Text.Plain log.toList := by decide +kernel
  have he : ofTexts {} "" log = .error (.malformedTime "11:22") :=
    failure?_eq_some_iff.1 (by decide +kernel)
  have hw : ofTexts {} "" window = .error (.malformedTime "1\u0661:00:00.000") :=
    failure?_eq_some_iff.1 (by decide +kernel)
  obtain ⟨hp, -⟩ := failure_iff_misdated {} "" log
  obtain ⟨-, hc⟩ := failure_iff_misdated {} "" window
  obtain ⟨hl, hf⟩ := hp hh hr
  exact ⟨log, window, ⟨hh, hr, he, hl.1 ⟨_, he⟩, hf _ he⟩, hw, hc _ hw⟩

end Conversion

end ViewPoints
