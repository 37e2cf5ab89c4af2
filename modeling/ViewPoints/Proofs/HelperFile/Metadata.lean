import ViewPoints.Conversion
import ViewPoints.Proofs.HelperFile.Batch
import ViewPoints.Proofs.HelperFile.Facts

/-!
What a helper file says of the runs. Each fact is the one on the last line that states one, whether
a block is open there or not, and the lines whose clock offset cannot be read are reported.
-/

namespace ViewPoints

namespace HelperFile

/-! ### The last line -/

/-- A line of a kind states a fact. -/
def Tells {α : Type} (k : LineKind) (States : String → α → Prop) (line : String) (a : α) : Prop :=
  begins k line = true ∧ States line a

/-- What the last line tells that tells anything. -/
def LastTold {α : Type} (Tells : String → α → Prop) (lines : List String) : Option α → Prop
  | some a => ∃ u line v, lines = u ++ line :: v ∧ Tells line a ∧ ∀ l ∈ v, ∀ b, ¬ Tells l b
  | none => ∀ l ∈ lines, ∀ b, ¬ Tells l b

lemma lastTold_lastOf {α : Type} {k : LineKind} {read : String → Option α}
    {States : String → α → Prop} (h : ∀ line a, read line = some a ↔ States line a)
    (lines : List String) : LastTold (Tells k States) lines (lastOf k read lines) := by
  induction lines with
  | nil => exact List.forall_mem_nil _
  | cons line rest ih =>
    rw [lastOf_cons]
    cases hrest : lastOf k read rest with
    | some a =>
      rw [hrest] at ih
      obtain ⟨u, l, v, rfl, ha, hv⟩ := ih
      exact ⟨line :: u, l, v, rfl, ha, hv⟩
    | none =>
      rw [hrest] at ih
      rw [Option.none_or]
      cases hline : (if begins k line = true then read line else none) with
      | some a =>
        split_ifs at hline with hb
        exact ⟨[], line, rest, rfl, ⟨hb, (h _ _).1 hline⟩, ih⟩
      | none =>
        refine List.forall_mem_cons.2 ⟨fun a ha => ?_, ih⟩
        rw [if_pos ha.1, (h _ _).2 ha.2] at hline
        cases hline

lemma lastOf_eq_some {α : Type} {k : LineKind} {read : String → Option α}
    {line : String} {u v : List String} {a : α} (hb : begins k line = true)
    (hr : read line = some a) (hv : ∀ l ∈ v, begins k l = true → read l = none) :
    lastOf k read (u ++ line :: v) = some a := by
  have hnil : (v.filter (begins k)).filterMap read = [] := by
    rw [List.filterMap_eq_nil_iff]
    intro l hl
    obtain ⟨hl, hb⟩ := List.mem_filter.1 hl
    exact hv l hl hb
  simp [lastOf, hb, hr, hnil]

/-! ### Unreadable offsets -/

instance : DecidablePred Garbled := fun _ => decidable_of_iff _ isGarbled_iff

/-- The lines with a clock offset that is not in numbers. -/
def garbledLines (lines : List String) : List String :=
  lines.filter fun l => begins .timeOffset l ∧ Garbled l

end HelperFile

/-- The line that is reported for its clock offset. -/
def Diagnostic.offsetLine? : Diagnostic → Option String
  | invalidTimeOffset line => some line
  | _ => none

namespace HelperFile

variable {t : Trackers} {s s' : Scan} {line : String} {lines : List String}

/-- The lines reported so far. -/
def Scan.offsetLines (s : Scan) : List String := s.diagnostics.toList.filterMap Diagnostic.offsetLine?

/-- No block is reported for a clock offset. -/
lemma offsetLine?_of_outcome {b : Block} {d : Diagnostic}
    (h : b.outcome t = .ok (.unrecognized d)) : d.offsetLine? = none := by
  have content {h : Header} {text : String}
      (hd : Content.outcome t h text = .ok (.unrecognized d)) : d.offsetLine? = none := by
    unfold Content.outcome at hd
    split at hd
    next =>
      split at hd
      next =>
        obtain ⟨v, -, hv⟩ := map_eq_ok_iff.1 hd
        cases hv
      next e hc =>
        obtain rfl := Outcome.unrecognized.inj (Except.ok.inj hd)
        unfold Content.clause? at hc
        split_ifs at hc <;> split at hc <;> (try split at hc) <;> simp only [Option.some.injEq,
          Except.error.injEq, reduceCtorEq] at hc <;> subst hc <;> rfl
      next => cases hd
    next => cases hd
  unfold Block.outcome at h
  split at h
  next =>
    split_ifs at h
    · cases h
    · obtain rfl := Outcome.unrecognized.inj (Except.ok.inj h)
      rfl
  next =>
    split at h
    next => cases h
    next => exact content h
    next =>
      obtain rfl := Outcome.unrecognized.inj (Except.ok.inj h)
      rfl

namespace Scan

lemma offsetLines_close (h : s.close t = .ok s') : s'.offsetLines = s.offsetLines := by
  cases hb : s.opened with
  | none =>
    rw [close_none hb] at h
    rw [Except.ok.inj h]
  | some b =>
    rw [close_some hb] at h
    obtain ⟨o, ho, rfl⟩ := map_eq_ok_iff.1 h
    cases o with
    | viewPoint => rfl
    | ignored => rfl
    | unrecognized d => simp [record, offsetLines, offsetLine?_of_outcome ho]

lemma readOffset_of_garbled (h : Garbled line) :
    s.readOffset line = { s with diagnostics := s.diagnostics.push (.invalidTimeOffset line) } := by
  obtain ⟨m, d, hs, hn⟩ := h
  unfold readOffset
  rw [offset?_of_states hs]
  rcases hn with hn | hn
  · rw [hn]
  · rw [hn]
    cases Decimal.readFloat? m.toList <;> rfl

lemma readOffset_of_not_garbled (h : ¬ Garbled line) :
    (s.readOffset line).diagnostics = s.diagnostics := by
  unfold readOffset
  split
  next => rfl
  next d hd => exact absurd (isGarbled_iff.1 (by rw [isGarbled, hd])) h
  next => rfl

lemma diagnostics_pass (h : ¬ (begins .timeOffset line = true ∧ Garbled line)) :
    (s.pass line).diagnostics = s.diagnostics := by
  unfold pass
  cases hk : LineKind.of? line with
  | none => rfl
  | some k =>
    cases k with
    | deviation => rfl
    | version => simp only [readVersion]; split <;> rfl
    | now => simp only [readNow]; split <;> rfl
    | filename side => simp only [readFilename]; split <;> rfl
    | timeOffset =>
      exact readOffset_of_not_garbled fun hg => h ⟨LineKind.of?_eq_some_iff.1 hk, hg⟩

lemma offsetLines_pass : (s.pass line).offsetLines = s.offsetLines ++ garbledLines [line] := by
  by_cases h : begins .timeOffset line = true ∧ Garbled line
  · have hp : s.pass line = s.readOffset line := by
      rw [pass, LineKind.of?_eq_some_iff.2 h.1]
    rw [hp, readOffset_of_garbled h.2]
    simp [offsetLines, garbledLines, h, Diagnostic.offsetLine?]
  · rw [offsetLines, diagnostics_pass h]
    simp [offsetLines, garbledLines, h]

lemma offsetLines_step (h : s.step t line = .ok s') :
    s'.offsetLines = s.offsetLines ++ garbledLines [line] := by
  rw [step_eq] at h
  obtain ⟨m, hm, rfl⟩ := map_eq_ok_iff.1 h
  rw [offsetLines_pass]
  split_ifs at hm
  · rw [offsetLines_close hm]
  · rw [Except.ok.inj hm]

lemma offsetLines_run (h : s.run t (lines.map .ok) = .ok s') :
    s'.offsetLines = s.offsetLines ++ garbledLines lines := by
  induction lines generalizing s with
  | nil =>
    rw [← Except.ok.inj h]
    exact (List.append_nil _).symm
  | cons line rest ih =>
    rw [List.map_cons, run_cons] at h
    obtain ⟨m, hm, h⟩ := bind_eq_ok_iff.1 h
    rw [ih h, offsetLines_step hm, List.append_assoc, garbledLines, garbledLines, garbledLines,
      ← List.filter_append, List.singleton_append]

/-- A clock offset that cannot be read is reported and changes nothing else. -/
lemma step_of_garbled (hb : begins .timeOffset line = true) (hg : Garbled line) : s.step t line =
    .ok { s with diagnostics := s.diagnostics.push (.invalidTimeOffset line) } := by
  rw [step, LineKind.of?_eq_some_iff.2 hb]
  exact congrArg Except.ok (readOffset_of_garbled hg)

end Scan

lemma offsetLines_of_read (h : read t (lines.map .ok) = .ok s) :
    s.offsetLines = garbledLines lines := by
  obtain ⟨m, hm, hc⟩ := bind_eq_ok_iff.1 h
  rw [Scan.offsetLines_close hc, Scan.offsetLines_run hm]
  rfl

lemma invalidTimeOffset_mem_iff {line : String} (h : read t (lines.map .ok) = .ok s) :
    Diagnostic.invalidTimeOffset line ∈ s.diagnostics ↔
      line ∈ lines ∧ begins .timeOffset line = true ∧ Garbled line := by
  have hline : line ∈ s.offsetLines ↔ Diagnostic.invalidTimeOffset line ∈ s.diagnostics := by
    rw [Scan.offsetLines, List.mem_filterMap, ← Array.mem_toList_iff]
    constructor
    · rintro ⟨d, hd, he⟩
      cases d <;> cases he
      exact hd
    · exact fun hd => ⟨_, hd, rfl⟩
  rw [← hline, offsetLines_of_read h, garbledLines, List.mem_filter, decide_eq_true_iff]

/-! ### The context -/

lemma timeOffset_of_read (h : read t (lines.map .ok) = .ok s) :
    s.timeOffset = (lastOf .timeOffset numbers? lines).getD {} := by
  rw [read_eq_complete] at h
  obtain ⟨outcomes, -, rfl⟩ := map_eq_ok_iff.1 h
  rfl

/-- The clock offset is the one on a line in numbers behind which no other offset is stated. -/
lemma timeOffset_of_last {line m d : String} {u v : List String} {x y : Float}
    (h : read t ((u ++ line :: v).map .ok) = .ok s) (hb : begins .timeOffset line = true)
    (hm : StatesOffset line m d) (hx : Decimal.readFloat? m.toList = some x)
    (hy : Decimal.readFloat? d.toList = some y)
    (hv : ∀ l ∈ v, begins .timeOffset l = true → ∀ m' d', ¬ StatesOffset l m' d') :
    s.timeOffset = ⟨some x, some y⟩ := by
  have hr : numbers? line = some ⟨some x, some y⟩ :=
    numbers?_eq_some_iff.2 ⟨m, d, x, y, hm, hx, hy, rfl⟩
  have hlast : ∀ l ∈ v, begins .timeOffset l = true → numbers? l = none := by
    intro l hl hbl
    rw [Option.eq_none_iff_forall_ne_some]
    intro o ho
    obtain ⟨m', d', -, -, hs, -⟩ := numbers?_eq_some_iff.1 ho
    exact hv l hl hbl m' d' hs
  rw [timeOffset_of_read h, lastOf_eq_some hb hr hlast, Option.getD_some]

/-- What a file states of the runs. Both numbers of the clock offset are from one line. -/
structure Metadata (lines : List String) (c : Context) : Prop where
  version : LastTold (Tells .version StatesVersion) lines c.aocVersion
  now : LastTold (Tells .now StatesNow) lines c.timeNow
  filename : ∀ side, LastTold (Tells (.filename side) StatesFilename) lines (c.dataset side).filename
  timeOffset : ∃ o, LastTold (Tells .timeOffset StatesNumbers) lines o ∧
    c.test.timeOffset = some (o.getD {})

/-- The context tells what the last lines tell, whatever the run log. Each line whose clock offset
cannot be read is reported once, as a whole, and all that is known stays as it is. -/
theorem metadata_of_read {o : Options} (h : read o.trackers (lines.map .ok) = .ok s) :
    (∀ r, Metadata lines (Conversion.context o s r)) ∧
      s.diagnostics.toList.filterMap Diagnostic.offsetLine? = garbledLines lines ∧
      ∀ m line, begins .timeOffset line = true → Garbled line → Scan.step o.trackers m line =
        .ok { m with diagnostics := m.diagnostics.push (.invalidTimeOffset line) } := by
  refine ⟨fun r => ?_, offsetLines_of_read h, fun m line => Scan.step_of_garbled⟩
  rw [read_eq_complete] at h
  obtain ⟨outcomes, -, rfl⟩ := map_eq_ok_iff.1 h
  have last {α : Type} {k : LineKind} {read : String → Option α} {States : String → α → Prop}
      (hr : ∀ line a, read line = some a ↔ States line a) :
      LastTold (Tells k States) lines ((lastOf k read lines).or none) := by
    rw [Option.or_none]
    exact lastTold_lastOf hr lines
  constructor
  case version => exact last fun _ _ => version?_eq_some_iff
  case now => exact last fun _ _ => now?_eq_some_iff
  case filename =>
    intro side
    cases side
    · exact last fun _ _ => filename?_eq_some_iff
    · exact last fun _ _ => filename?_eq_some_iff
  case timeOffset => exact ⟨_, lastTold_lastOf (fun _ _ => numbers?_eq_some_iff) lines, rfl⟩

/-- The facts stand before a block, in it and behind it, and two of them are stated twice. -/
theorem metadata_of_read_block : ∃ lines s, lines = ["AOC Version V1", "DT 0.5 secs (STD nan secs)",
      "DEV #1: Extra test", "REF \"a\"b\" \"c\"", "DT 0.5 secs (STD 1s secs)", "AOC Version V2",
      "", "DT 0.5 secs", "NOW 1 2 UTC"] ∧
    read {} (lines.map .ok) = .ok s ∧ s.version = some "2" ∧ s.referenceFile = some "a\"b" ∧
    (∀ r, Metadata lines (Conversion.context {} s r)) ∧
    s.diagnostics.toList.filterMap Diagnostic.offsetLine? = ["DT 0.5 secs (STD 1s secs)"] := by
  obtain ⟨s, hs, hf⟩ := exists_ok_of_toOption (show (read {} (["AOC Version V1",
      "DT 0.5 secs (STD nan secs)", "DEV #1: Extra test", "REF \"a\"b\" \"c\"",
      "DT 0.5 secs (STD 1s secs)", "AOC Version V2", "", "DT 0.5 secs",
      "NOW 1 2 UTC"].map .ok)).toOption.map (fun s => (s.version, s.referenceFile)) =
        some (some "2", some "a\"b") by decide +kernel)
  obtain ⟨hv, hr⟩ := Prod.mk.inj hf
  obtain ⟨hm, hd, -⟩ := metadata_of_read (o := {}) hs
  exact ⟨_, s, rfl, hs, hv, hr, hm, hd.trans (by decide +kernel)⟩

end HelperFile

end ViewPoints
