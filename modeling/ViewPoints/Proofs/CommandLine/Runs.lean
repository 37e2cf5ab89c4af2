import ViewPoints.CommandLine.Program
import ViewPoints.Proofs.CommandLine.Arguments
import ViewPoints.Proofs.CommandLine.Files
import ViewPoints.Proofs.Conversion.Bytes
import ViewPoints.Proofs.HelperFile.Growth

/-!
Runs of the program on the files of a system. A run that fails before the output file is opened
changes nothing, and no run changes any other file. One that converts leaves the document in the
output file, made from what the inputs held at the start, even if the output file is one of them.
Once the output file is open it is emptied, and a run may still fail.
-/

namespace ViewPoints.CommandLine

namespace FileSystem

variable {W F : Type} (fs : FileSystem W F)

/-! ### Steps of a conversion -/

def opened (w : W) (path : String) : Except OsError OpenFile := ((fs.access.openFile path).run w).1

/-- The state in which the file at a path is open to be written. -/
def create (w : W) (path : String) : Except OsError Unit × W := (fs.access.create path).run w

def write (w : W) (path text : String) : Except OsError Unit × W :=
  (fs.access.write path text).run w

/-- What the two inputs are converted to. -/
def conversion? (w : W) (s : Settings) : Option Conversion :=
  (fs.opened w s.helper).toOption.bind fun helper =>
    (fs.opened w s.runLog).toOption.bind fun runLog =>
      (Conversion.ofLines s.options helper.lines runLog.lines).toOption

/-- The diagnostics that a conversion logs. Nothing is read unless both inputs can be opened. -/
def logged (w : W) (s : Settings) : List Diagnostic :=
  match fs.opened w s.helper, fs.opened w s.runLog with
  | .ok helper, .ok _ => (HelperFile.met s.options.trackers helper.lines).toList
  | _, _ => []

/-- How a file fails to be opened. -/
def openFailure? (w : W) (path : String) : Option Failure :=
  (failure? (fs.opened w path)).map .os

/-- How a file that was opened fails to be read or converted as a helper file. -/
def helperFailure? (w : W) (s : Settings) : Option Failure :=
  (fs.opened w s.helper).toOption.bind fun f => failure? (Conversion.ofLines s.options f.lines [])

/-- How a file that was opened fails to be read or converted as a run log. -/
def runLogFailure? (w : W) (s : Settings) : Option Failure :=
  (fs.opened w s.runLog).toOption.bind fun f => failure? (Conversion.ofLines s.options [] f.lines)

/-- How the document fails to be written. -/
def writeFailure? (w : W) (s : Settings) : Option Failure :=
  (fs.conversion? w s).bind fun c =>
    (failure? (fs.write w s.output c.document.pretty).1).map .os

/-- What a conversion fails for: the first of its steps that fails. -/
def firstFailure? (w : W) (s : Settings) : Option Failure :=
  (fs.openFailure? w s.helper).or <| (fs.openFailure? w s.runLog).or <| (fs.helperFailure? w s).or <|
    (fs.runLogFailure? w s).or (fs.writeFailure? w s)

variable {fs} {w w' : W} {s : Settings} {path text : String} {c : Conversion} {x : F}

lemma run_openFile (w : W) (path : String) :
    (fs.access.openFile path).run w = pure (fs.opened w path, w) :=
  Prod.ext rfl (fs.openFile_state w path)

lemma run_write (w : W) (path text : String) :
    (fs.access.write path text).run w = pure (fs.write w path text) := rfl

lemma run_create (w : W) (path : String) :
    (fs.access.create path).run w = pure (fs.create w path) := rfl

/-- A file that cannot be opened is not written. -/
lemma write_cases (fs : FileSystem W F) (w : W) (path text : String) :
    (∃ e, fs.create w path = (.error e, w) ∧ fs.write w path text = (.error e, w)) ∨
      ∃ w', fs.create w path = (.ok (), w') ∧
        fs.write w path text = (fs.access.fill path text).run w' := by
  have hw : fs.write w path text = (fs.access.write path text).run w := rfl
  rw [FileAccess.write, StateT.run_bind, run_create] at hw
  rcases hc : fs.create w path with ⟨e | _, w'⟩
  · obtain rfl := fs.create_error w path e w' hc
    rw [hc] at hw
    exact .inl ⟨e, rfl, hw⟩
  · rw [hc] at hw
    exact .inr ⟨w', rfl, hw⟩

lemma content_write_other (text : String) (h : fs.target w path ≠ some x) :
    fs.content (fs.write w path text).2 x = fs.content w x := by
  rcases write_cases fs w path text with ⟨e, -, hw⟩ | ⟨w', hc, hw⟩
  · rw [hw]
  · rw [hw, fs.fill_other _ _ _ _ (by rwa [fs.create_target w path w' hc]),
      fs.create_other w path w' hc x h]

lemma content_write (h : fs.write w path text = (.ok (), w')) (hx : fs.target w path = some x) :
    fs.content w' x = some text.toUTF8 := by
  rcases write_cases fs w path text with ⟨e, -, hw⟩ | ⟨w₁, hc, hw⟩
  · simp [hw] at h
  · exact fs.fill_content w path text w₁ w' x hc (hw.symm.trans h) hx

/-- A conversion of two open files fails like the helper file alone, or else like the run log
alone. -/
lemma failure?_convert {helper runLog : OpenFile} (hh : fs.opened w s.helper = .ok helper)
    (hr : fs.opened w s.runLog = .ok runLog) :
    failure? (Conversion.ofLines s.options helper.lines runLog.lines) =
      (fs.helperFailure? w s).or (fs.runLogFailure? w s) := by
  have hnone (t : Trackers) : HelperFile.firstFailure? t [] = none := rfl
  have hnil (t : Trackers) : RunLog.firstFailure? t [] = none := rfl
  rw [helperFailure?, runLogFailure?, hh, hr]
  simp only [Except.toOption, Option.bind_some, Conversion.failure?_ofLines, hnone, hnil,
    Option.or_none, Option.none_or]

lemma logged_of_ofLines {helper runLog : OpenFile} (hh : fs.opened w s.helper = .ok helper)
    (hr : fs.opened w s.runLog = .ok runLog)
    (hc : Conversion.ofLines s.options helper.lines runLog.lines = .ok c) :
    fs.logged w s = c.diagnostics.toList := by
  obtain ⟨h, r, hread, -, rfl⟩ := Conversion.ofLines_eq_ok_iff.1 hc
  rw [logged, hh, hr]
  exact congrArg Array.toList ((HelperFile.met_eq _ _).1 h hread)

/-! The steps of a conversion, each after those before it have succeeded. -/

/-- The helper file cannot be opened. -/
lemma convertFiles_of_helper {e : OsError} (hh : fs.opened w s.helper = .error e) :
    (convertFiles fs.access s).run w = (⟨fs.logged w s, .error (.os e)⟩, w) ∧
      fs.firstFailure? w s = some (.os e) := by
  have hl : fs.logged w s = [] := by rw [logged, hh]
  have hrun : (convertFiles fs.access s).run w = pure (⟨[], .error (.os e)⟩, w) := by
    simp [convertFiles, run_openFile, hh]
  refine ⟨hl ▸ hrun, ?_⟩
  rw [firstFailure?, openFailure?, hh]
  rfl

/-- The run log cannot be opened. -/
lemma convertFiles_of_runLog {helper : OpenFile} {e : OsError}
    (hh : fs.opened w s.helper = .ok helper) (hr : fs.opened w s.runLog = .error e) :
    (convertFiles fs.access s).run w = (⟨fs.logged w s, .error (.os e)⟩, w) ∧
      fs.firstFailure? w s = some (.os e) := by
  have hl : fs.logged w s = [] := by rw [logged, hh, hr]
  have hrun : (convertFiles fs.access s).run w = pure (⟨[], .error (.os e)⟩, w) := by
    simp [convertFiles, run_openFile, hh, hr]
  refine ⟨hl ▸ hrun, ?_⟩
  rw [firstFailure?, openFailure?, openFailure?, hh, hr]
  rfl

section Opened

variable {helper runLog : OpenFile} (hh : fs.opened w s.helper = .ok helper)
  (hr : fs.opened w s.runLog = .ok runLog)

include hh hr

/-- Both inputs can be opened. Then a conversion fails for what cannot be converted, or else written. -/
lemma firstFailure?_of_opened : fs.firstFailure? w s =
    (failure? (Conversion.ofLines s.options helper.lines runLog.lines)).or
      (fs.writeFailure? w s) := by
  have hfh : fs.openFailure? w s.helper = none := by rw [openFailure?, hh]; rfl
  have hfr : fs.openFailure? w s.runLog = none := by rw [openFailure?, hr]; rfl
  rw [firstFailure?, hfh, hfr, failure?_convert hh hr, Option.none_or, Option.none_or,
    Option.or_assoc]

/-- The inputs cannot be converted. -/
lemma convertFiles_of_lines {e : Failure}
    (hc : Conversion.ofLines s.options helper.lines runLog.lines = .error e) :
    (convertFiles fs.access s).run w = (⟨fs.logged w s, .error e⟩, w) ∧
      fs.firstFailure? w s = some e := by
  have hl : fs.logged w s = (HelperFile.met s.options.trackers helper.lines).toList := by
    rw [logged, hh, hr]
  have hrun : (convertFiles fs.access s).run w = pure (⟨fs.logged w s, .error e⟩, w) := by
    simp [convertFiles, run_openFile, hh, hr, hc, hl]
  refine ⟨hrun, ?_⟩
  rw [firstFailure?_of_opened hh hr, hc]
  rfl

/-- The inputs are converted, and the document is written as far as that can be done. -/
lemma convertFiles_of_write {e? : Except OsError Unit}
    (hc : Conversion.ofLines s.options helper.lines runLog.lines = .ok c)
    (hw : fs.write w s.output c.document.pretty = (e?, w')) :
    fs.conversion? w s = some c ∧ fs.logged w s = c.diagnostics.toList ∧
      (convertFiles fs.access s).run w =
        (⟨c.diagnostics.toList, (e?.mapError Failure.os).map fun _ => c⟩, w') ∧
      fs.firstFailure? w s = (failure? e?).map .os := by
  have hl := logged_of_ofLines hh hr hc
  have hmet : (HelperFile.met s.options.trackers helper.lines).toList = c.diagnostics.toList := by
    rw [← hl, logged, hh, hr]
  have hcon : fs.conversion? w s = some c := by
    rw [conversion?, hh, hr]
    simp only [Except.toOption, Option.bind_some, hc]
  refine ⟨hcon, hl, ?_, ?_⟩
  · have hrun : (convertFiles fs.access s).run w =
        pure (⟨c.diagnostics.toList, (e?.mapError Failure.os).map fun _ => c⟩, w') := by
      cases e? <;>
        simp [convertFiles, run_openFile, run_write, hh, hr, hc, hw, hmet, Except.mapError]
    exact hrun
  · rw [firstFailure?_of_opened hh hr, hc, failure?_ok, Option.none_or, writeFailure?, hcon,
      Option.bind_some, hw]

end Opened

/-- A conversion fails for the first of its steps. Unless that is to write the document, nothing is
changed. -/
lemma convertFiles_cases (fs : FileSystem W F) (w : W) (s : Settings) :
    (∃ e, (convertFiles fs.access s).run w = (⟨fs.logged w s, .error e⟩, w) ∧
      fs.firstFailure? w s = some e) ∨
    ∃ c, fs.conversion? w s = some c ∧ fs.logged w s = c.diagnostics.toList ∧
      ((∃ e w', fs.write w s.output c.document.pretty = (.error e, w') ∧
        (convertFiles fs.access s).run w = (⟨c.diagnostics.toList, .error (.os e)⟩, w') ∧
        fs.firstFailure? w s = some (.os e)) ∨
      ∃ w', fs.write w s.output c.document.pretty = (.ok (), w') ∧
        (convertFiles fs.access s).run w = (⟨c.diagnostics.toList, .ok c⟩, w') ∧
        fs.firstFailure? w s = none) := by
  cases hh : fs.opened w s.helper with
  | error e => exact .inl ⟨_, convertFiles_of_helper hh⟩
  | ok helper =>
    cases hr : fs.opened w s.runLog with
    | error e => exact .inl ⟨_, convertFiles_of_runLog hh hr⟩
    | ok runLog =>
      cases hc : Conversion.ofLines s.options helper.lines runLog.lines with
      | error e => exact .inl ⟨e, convertFiles_of_lines hh hr hc⟩
      | ok c =>
        refine .inr ⟨c, ?_⟩
        rcases hw : fs.write w s.output c.document.pretty with ⟨e | _, w'⟩
        · obtain ⟨hcon, hl, hrun, hf⟩ := convertFiles_of_write hh hr hc hw
          exact ⟨hcon, hl, .inl ⟨e, w', rfl, hrun, hf⟩⟩
        · obtain ⟨hcon, hl, hrun, hf⟩ := convertFiles_of_write hh hr hc hw
          exact ⟨hcon, hl, .inr ⟨w', rfl, hrun, hf⟩⟩

/-! ### What a conversion leaves -/

/-- All that a path leads to is read. -/
def Reads (fs : FileSystem W F) (w : W) (path : String) (b : ByteArray) : Prop :=
  fs.opened w path = .ok ⟨b, none⟩ ∧ ∀ x, fs.target w path = some x → fs.content w x = some b

/-- What a conversion leaves of the files that were there in `w`: the document of what the inputs
held then, in the output file if the path leads to a file, and nothing else that is new. -/
structure Holds (fs : FileSystem W F) (w w' : W) (s : Settings) (c : Conversion) : Prop where
  inputs : ∃ helper runLog, fs.Reads w s.helper helper ∧ fs.Reads w s.runLog runLog ∧
    Conversion.ofBytes s.options helper runLog = .ok c
  output : ∀ x, fs.target w s.output = some x → fs.content w' x = some c.document.pretty.toUTF8
  others : ∀ x, fs.target w s.output ≠ some x → fs.content w' x = fs.content w x

/-- A file whose lines could be had could be read. -/
lemma reads_of_lines {f : OpenFile} {l : List String} (hf : fs.opened w path = .ok f)
    (hl : f.lines = l.map .ok) : ∃ b, fs.Reads w path b ∧ f.lines = Conversion.fileLines b := by
  obtain ⟨b, _ | e⟩ := f
  case none => exact ⟨b, ⟨hf, fun x hx => fs.content_of_openFile w path b x hf hx⟩, rfl⟩
  case some =>
    have he : Except.error (Failure.os e) ∈ l.map .ok := by
      rw [← hl, OpenFile.lines]
      exact List.mem_append_right _ List.mem_cons_self
    simp at he

lemma holds_of_write (hc : fs.conversion? w s = some c)
    (hw : fs.write w s.output c.document.pretty = (.ok (), w')) : fs.Holds w w' s c := by
  simp only [conversion?, Option.bind_eq_some_iff, toOption_eq_some_iff] at hc
  obtain ⟨helper, hh, runLog, hr, hc⟩ := hc
  obtain ⟨l, k, hl, hk⟩ := Conversion.exists_texts_of_ofLines hc
  obtain ⟨a, ha, hla⟩ := reads_of_lines hh hl
  obtain ⟨b, hb, hlb⟩ := reads_of_lines hr hk
  rw [hla, hlb] at hc
  refine ⟨⟨a, b, ha, hb, hc⟩, fun x hx => content_write hw hx, fun x hx => ?_⟩
  rw [← content_write_other c.document.pretty hx, hw]

lemma Holds.conversion? (h : fs.Holds w w' s c) : fs.conversion? w s = some c := by
  obtain ⟨⟨helper, runLog, ⟨hh, -⟩, ⟨hr, -⟩, hc⟩, -, -⟩ := h
  rw [FileSystem.conversion?, hh, hr]
  exact toOption_eq_some_iff.2 hc

/-- A conversion that fails when the output file is open already: the document could not all be
written, or it was written and the summary could not be printed. -/
inductive FailsLate (fs : FileSystem W F) (w w' : W) (s : Settings) : UInt8 → Prop where
  | write {c : Conversion} {e : OsError} {w₁ : W} (conversion : fs.conversion? w s = some c)
    (opened : fs.create w s.output = (.ok (), w₁))
    (failed : fs.write w s.output c.document.pretty = (.error e, w')) : FailsLate fs w w' s 1
  | print {c : Conversion} (summary : s.summary = true) (holds : fs.Holds w w' s c) :
    FailsLate fs w w' s 101

/-- A conversion fails late only if the inputs can be converted. -/
lemma FailsLate.exists_conversion {code : UInt8} (h : fs.FailsLate w w' s code) :
    ∃ c, fs.conversion? w s = some c := by
  cases h with
  | write conversion => exact ⟨_, conversion⟩
  | print _ holds => exact ⟨_, holds.conversion?⟩

/-! ### Runs -/

def reportIn (fs : FileSystem W F) (w : W) (terminal : Bool) (args : List String) : Report × W :=
  (run fs.access terminal args).run w

/-- A run that starts in a state: what is seen of it and the state that it leaves. -/
def runIn (fs : FileSystem W F) (o : Streams) (w : W) (terminal : Bool) (args : List String) :
    Transcript × W :=
  ((o.transcript (fs.reportIn w terminal args).1), (fs.reportIn w terminal args).2)

variable {o : Streams} {terminal terminal' : Bool} {args args' : List String}

lemma reportIn_of_convert (h : parse terminal args = .ok (.convert s)) :
    fs.reportIn w terminal args = (report s ((convertFiles fs.access s).run w).1,
      ((convertFiles fs.access s).run w).2) := by
  rw [reportIn, run, h]
  rfl

/-- Only a conversion can change a file. -/
lemma reportIn_of_not_convert (h : ∀ s, parse terminal args ≠ .ok (.convert s)) :
    (fs.reportIn w terminal args).2 = w := by
  rw [reportIn, run]
  split
  next => rfl
  next => rfl
  next => rfl
  next s hs => exact absurd hs (h s)

/-- Runs that differ in nothing but the summary differ in nothing but what they print. -/
lemma reportIn_of_bare (fs : FileSystem W F) (w : W)
    (h : (parse terminal args).map Request.bare = (parse terminal' args').map Request.bare) :
    ({ (fs.reportIn w terminal args).1 with stdout := "" } : Report) =
        { (fs.reportIn w terminal' args').1 with stdout := "" } ∧
      (fs.reportIn w terminal args).2 = (fs.reportIn w terminal' args').2 := by
  rcases hp : parse terminal args with e | r <;> rcases hp' : parse terminal' args' with e' | r' <;>
    rw [hp, hp'] at h
  case error.error =>
    obtain rfl := Except.error.inj h
    rw [reportIn, reportIn, run, run, hp, hp']
    exact ⟨rfl, rfl⟩
  case error.ok => simp at h
  case ok.error => simp at h
  case ok.ok =>
    have h : r.bare = r'.bare := Except.ok.inj h
    rcases r with _ | _ | s <;> rcases r' with _ | _ | s' <;>
      simp only [Request.bare, reduceCtorEq, Request.convert.injEq] at h
    case convert.convert =>
      -- a conversion does not look at what is said about the summary
      have hs (s : Settings) : convertFiles fs.access s = convertFiles fs.access s.bare := rfl
      have hr (a : Attempt) : ({ report s a with stdout := "" } : Report) =
          { report s' a with stdout := "" } := by
        obtain ⟨l, _ | _⟩ := a <;> rfl
      rw [reportIn_of_convert hp, reportIn_of_convert hp', hs s, hs s', h]
      exact ⟨hr _, rfl⟩
    all_goals
      rw [reportIn, reportIn, run, run, hp, hp']
      exact ⟨rfl, rfl⟩

end FileSystem

namespace Streams

variable {o : Streams} {r : Report} {s : Settings}

lemma complaint?_eq_none_of_ne (h : (o.transcript r).exitCode ≠ 101) :
    o.complaint? r.stdout = none := by
  cases hc : o.complaint? r.stdout with
  | none => rfl
  | some text => simp [transcript, hc] at h

/-- A run that does not end in a panic is seen as it is reported. -/
lemma transcript_of_ne (h : (o.transcript r).exitCode ≠ 101) :
    (o.transcript r).exitCode = r.exitCode ∧ (o.transcript r).stderr = o.log r.warnings ++ r.stderr := by
  simp [transcript, complaint?_eq_none_of_ne h]

lemma transcript_error (l : List Diagnostic) (e : Failure) :
    o.transcript (report s ⟨l, .error e⟩) =
      ⟨1, "", o.log l ++ ("error: " ++ e.message ++ "\n")⟩ := by
  simp [transcript, report, complaint?, printed]

lemma exitCode_transcript_ok {l : List Diagnostic} {c : Conversion}
    (h : (o.transcript (report s ⟨l, .ok c⟩)).exitCode ≠ 0) :
    (o.transcript (report s ⟨l, .ok c⟩)).exitCode = 101 ∧ s.summary = true := by
  cases hs : s.summary
  · simp [transcript, report, complaint?, hs] at h
  · have hc : (o.complaint? (report s ⟨l, .ok c⟩).stdout).isSome = true := by
      by_contra hn
      exact h (if_neg hn)
    exact ⟨if_pos hc, rfl⟩

end Streams

namespace FileSystem

variable {W F : Type} {fs : FileSystem W F} {o : Streams} {w : W} {s : Settings}
  {terminal : Bool} {args : List String}

/-- A run that fails changes nothing, or it is a conversion that fails when its output file is open
already and changes no other file. -/
lemma unchanged_or_failsLate (he : (fs.runIn o w terminal args).1.exitCode ≠ 0) :
    (fs.runIn o w terminal args).2 = w ∨ ∃ s, parse terminal args = .ok (.convert s) ∧
      fs.FailsLate w (fs.runIn o w terminal args).2 s (fs.runIn o w terminal args).1.exitCode ∧
      ∀ x, fs.target w s.output ≠ some x →
        fs.content (fs.runIn o w terminal args).2 x = fs.content w x := by
  by_cases hc : ∃ s, parse terminal args = .ok (.convert s)
  · obtain ⟨s, hs⟩ := hc
    rw [runIn, reportIn_of_convert hs] at he ⊢
    rcases convertFiles_cases fs w s with ⟨e, hr, -⟩ | ⟨c, hcon, -, ⟨e, w', hw, hr, -⟩ |
      ⟨w', hw, hr, -⟩⟩
    · rw [hr]
      exact .inl rfl
    · rw [hr]
      rcases write_cases fs w s.output c.document.pretty with ⟨e', -, hn⟩ | ⟨w₁, ho, -⟩
      · exact .inl (Prod.mk.inj (hw.symm.trans hn)).2
      · refine .inr ⟨s, hs, ?_, fun x hx => ?_⟩
        · rw [Streams.transcript_error]
          exact .write hcon ho hw
        · rw [← content_write_other c.document.pretty hx, hw]
    · rw [hr] at he ⊢
      obtain ⟨hp, hsum⟩ := Streams.exitCode_transcript_ok he
      have hh := holds_of_write hcon hw
      refine .inr ⟨s, hs, ?_, hh.others⟩
      rw [hp]
      exact .print hsum hh
  · exact .inl (reportIn_of_not_convert fun s hs => hc ⟨s, hs⟩)

/-- A conversion says what fails first, and one in which nothing fails leaves the document. -/
lemma runIn_of_convert (hs : parse terminal args = .ok (.convert s)) :
    ((fs.runIn o w terminal args).1.exitCode = 0 →
      ∃ c, fs.Holds w (fs.runIn o w terminal args).2 s c) ∧
    (∀ e, fs.firstFailure? w s = some e → (fs.runIn o w terminal args).1 =
      ⟨1, "", o.log (fs.logged w s) ++ ("error: " ++ e.message ++ "\n")⟩) ∧
    (fs.firstFailure? w s = none → ∃ c, fs.Holds w (fs.runIn o w terminal args).2 s c ∧
      (fs.runIn o w terminal args).1 = o.transcript (report s ⟨c.diagnostics.toList, .ok c⟩)) := by
  rw [runIn, reportIn_of_convert hs]
  rcases convertFiles_cases fs w s with ⟨e, hr, hf⟩ | ⟨c, hcon, hl, ⟨e, w', hw, hr, hf⟩ |
    ⟨w', hw, hr, hf⟩⟩
  · rw [hr, hf, Streams.transcript_error]
    exact ⟨fun h => absurd h (show (1 : UInt8) ≠ 0 by decide),
      fun e' he => by rw [Option.some.inj he], fun h => absurd h (by simp)⟩
  · rw [hr, hf, Streams.transcript_error, hl]
    exact ⟨fun h => absurd h (show (1 : UInt8) ≠ 0 by decide),
      fun e' he => by rw [Option.some.inj he], fun h => absurd h (by simp)⟩
  · rw [hr, hf]
    have hh := holds_of_write hcon hw
    exact ⟨fun _ => ⟨c, hh⟩, fun e' he => absurd he (by simp), fun _ => ⟨c, hh, rfl⟩⟩

/-- Without the switches for the summary, and with a terminal or without, a run does the same to the
files, and ends the same as long as what it prints can be printed. -/
lemma runIn_withoutSwitches (fs : FileSystem W F) (o : Streams) (w : W) (terminal terminal' : Bool)
    (args : List String) :
    (fs.runIn o w terminal' (withoutSwitches args)).2 = (fs.runIn o w terminal args).2 ∧
      ((fs.runIn o w terminal args).1.exitCode ≠ 101 →
        (fs.runIn o w terminal' (withoutSwitches args)).1.exitCode ≠ 101 →
        (fs.runIn o w terminal' (withoutSwitches args)).1.exitCode =
          (fs.runIn o w terminal args).1.exitCode ∧
        (fs.runIn o w terminal' (withoutSwitches args)).1.stderr =
          (fs.runIn o w terminal args).1.stderr) := by
  have hb : ({ color := terminal } : Draft).bare = ({ color := terminal' } : Draft).bare := rfl
  obtain ⟨hr, hw⟩ := reportIn_of_bare fs w (Draft.read_withoutSwitches args hb).symm
  refine ⟨hw, fun h h' => ?_⟩
  obtain ⟨hcode, hstderr⟩ := Streams.transcript_of_ne h
  obtain ⟨hcode', hstderr'⟩ := Streams.transcript_of_ne h'
  obtain ⟨hexit, -, hwarn, herr⟩ := Report.mk.inj hr
  rw [hwarn, herr] at hstderr'
  exact ⟨hcode'.trans (hexit.trans hcode.symm), hstderr'.trans hstderr.symm⟩

/-- A run that fails changes nothing, or it is a conversion that fails when its output file is open
already and changes no other file. A run that converts leaves the document and changes no other file
either. What fails first of opening the helper file, opening the run log, reading or converting the
one, reading or converting the other, and writing is said behind the diagnostics that were logged.
The switches for the summary, and whether there is a terminal, show in nothing but what is printed,
as long as it can be printed. -/
theorem all_or_nothing (fs : FileSystem W F) (o : Streams) (w : W) (terminal : Bool)
    (args : List String) :
    ((fs.runIn o w terminal args).1.exitCode ≠ 0 → (fs.runIn o w terminal args).2 = w ∨
      ∃ s, parse terminal args = .ok (.convert s) ∧
        fs.FailsLate w (fs.runIn o w terminal args).2 s (fs.runIn o w terminal args).1.exitCode ∧
        ∀ x, fs.target w s.output ≠ some x →
          fs.content (fs.runIn o w terminal args).2 x = fs.content w x) ∧
    (∀ s, parse terminal args = .ok (.convert s) →
      ((fs.runIn o w terminal args).1.exitCode = 0 →
        ∃ c, fs.Holds w (fs.runIn o w terminal args).2 s c) ∧
      (∀ e, fs.firstFailure? w s = some e → (fs.runIn o w terminal args).1 =
        ⟨1, "", o.log (fs.logged w s) ++ ("error: " ++ e.message ++ "\n")⟩) ∧
      (fs.firstFailure? w s = none → ∃ c, fs.Holds w (fs.runIn o w terminal args).2 s c ∧
        (fs.runIn o w terminal args).1 = o.transcript (report s ⟨c.diagnostics.toList, .ok c⟩))) ∧
    ∀ terminal',
      (fs.runIn o w terminal' (withoutSwitches args)).2 = (fs.runIn o w terminal args).2 ∧
      ((fs.runIn o w terminal args).1.exitCode ≠ 101 →
        (fs.runIn o w terminal' (withoutSwitches args)).1.exitCode ≠ 101 →
        (fs.runIn o w terminal' (withoutSwitches args)).1.exitCode =
          (fs.runIn o w terminal args).1.exitCode ∧
        (fs.runIn o w terminal' (withoutSwitches args)).1.stderr =
          (fs.runIn o w terminal args).1.stderr) :=
  ⟨unchanged_or_failsLate, fun _ => runIn_of_convert,
    fun terminal' => runIn_withoutSwitches fs o w terminal terminal' args⟩

end FileSystem

namespace Streams

/-- Streams that take all that is written to them. A diagnostic is a line of the log. -/
def steady : Streams where
  log l := Block.unlines (l.map fun d => " WARN " ++ d.message)
  log_nil := rfl
  print text := (text, none)

/-- The output of a run is closed at the other end. -/
def closed : Streams :=
  { steady with print := fun _ => ("", some "failed printing to stdout: Broken pipe (os error 32)") }

end Streams

open Directory (fileSystem fullDisk) in
/-- The document replaces the helper file that it was made from, and without the switch the run
comes to the same. Of a helper file that is not there and a run log that is a directory, the helper
file is met first. -/
theorem FileSystem.all_or_nothing_in_place :
    ∃ (d : Directory) (args args' args'' : List String) (s s'' : Settings) (c : Conversion),
      parse false args = .ok (.convert s) ∧ fileSystem.firstFailure? d s = none ∧
      (fileSystem.runIn .steady d false args).1.exitCode = 0 ∧
      fileSystem.Holds d (fileSystem.runIn .steady d false args).2 s c ∧
      fileSystem.target d s.output = fileSystem.target d s.helper ∧
      withoutSwitches args = args' ∧
      (fileSystem.runIn .steady d true args').1.exitCode ≠ 101 ∧
      (fileSystem.runIn .steady d true args').1.stderr =
        (fileSystem.runIn .steady d false args).1.stderr ∧
      parse false args'' = .ok (.convert s'') ∧
      fileSystem.firstFailure? d s'' = some (.os .noSuchFile) ∧
      (fileSystem.runIn .steady d false args'').1 =
        ⟨1, "", "error: IO error: No such file or directory (os error 2)\n"⟩ ∧
      (fileSystem.runIn .steady d false args'').2 = d := by
  let d : Directory := ⟨[("h", "DEV #1: Odd one\n".toUTF8), ("r", .empty)]⟩
  let args := ["-ah", "h", "--summary", "-ao", "r", "-o", "./h"]
  let args'' := ["-ah", "gone", "-ao", "."]
  let s : Settings := ⟨"h", "r", "./h", {}, true, false⟩
  let s'' : Settings := ⟨"gone", ".", "aoc_view_points.json", {}, false, false⟩
  obtain ⟨-, hconvert, hswitches⟩ := all_or_nothing fileSystem .steady d false args
  obtain ⟨hfail, hgone, -⟩ := all_or_nothing fileSystem .steady d false args''
  have hs : parse false args = .ok (.convert s) := by decide +kernel
  have hs'' : parse false args'' = .ok (.convert s'') := by decide +kernel
  have hzero : (fileSystem.runIn .steady d false args).1.exitCode = 0 := by decide +kernel
  have hbare : (fileSystem.runIn .steady d true (withoutSwitches args)).1.exitCode ≠ 101 := by
    decide +kernel
  have hnone : fileSystem.firstFailure? d s = none := by decide +kernel
  have htarget : fileSystem.target d s.output = fileSystem.target d s.helper := by decide +kernel
  have hconversion : (fileSystem.conversion? d s'').isSome = false := by decide +kernel
  have hsome : fileSystem.firstFailure? d s'' = some (.os .noSuchFile) := by decide +kernel
  obtain ⟨hholds, -, hsuccess⟩ := hconvert s hs
  obtain ⟨c, hc⟩ := hholds hzero
  obtain ⟨-, hbefore⟩ := hswitches true
  obtain ⟨-, hfirst, -⟩ := hgone s'' hs''
  have hreport := hfirst _ hsome
  have hunchanged : (fileSystem.runIn .steady d false args'').2 = d := by
    rcases hfail (by rw [hreport]; decide) with h | ⟨k, hk, hlate, -⟩
    · exact h
    · obtain rfl := Request.convert.inj (Except.ok.inj (hs''.symm.trans hk))
      obtain ⟨c, hc⟩ := hlate.exists_conversion
      simp [hc] at hconversion
  exact ⟨d, args, _, args'', s, s'', c, hs, hnone, hzero, hc, htarget, rfl, hbare,
    (hbefore (by rw [hzero]; decide) hbare).2, hs'', hsome, hreport.trans (by decide +kernel),
    hunchanged⟩

open Directory (fileSystem fullDisk) in
/-- On a full disk a run empties the helper file, which is its output file too, and fails. A summary
that cannot be printed makes a run fail that does not fail without it. Nothing is held by the null
device after a run that does not fail. -/
theorem FileSystem.not_all_or_nothing : ∃ (d : Directory) (args args' : List String),
    ((fullDisk.runIn .steady d false args).1.exitCode ≠ 0 ∧
      fullDisk.content d "h" = some "AOC Version V1\n".toUTF8 ∧
      fullDisk.content (fullDisk.runIn .steady d false args).2 "h" = some .empty) ∧
    ((fileSystem.runIn .closed d false ("--summary" :: args)).1.exitCode = 101 ∧
      withoutSwitches ("--summary" :: args) = args ∧
      (fileSystem.runIn .closed d false args).1.exitCode = 0) ∧
    (fileSystem.runIn .steady d false args').1.exitCode = 0 ∧
      (fileSystem.runIn .steady d false args').2 = d := by
  let d : Directory := ⟨[("h", "AOC Version V1\n".toUTF8), ("r", .empty)]⟩
  let args' := ["-ah", "h", "-ao", "r", "-o", "/dev/null"]
  have hfiles : (fileSystem.runIn .steady d false args').2.files = d.files := by decide +kernel
  exact ⟨d, ["-ah", "h", "-ao", "r", "-o", "h"], args',
    ⟨by decide +kernel, rfl, by decide +kernel⟩,
    ⟨by decide +kernel, by decide +kernel, by decide +kernel⟩, by decide +kernel,
    congrArg Directory.mk hfiles⟩

end ViewPoints.CommandLine
