import ViewPoints.Proofs.HelperFile.Blocks
import ViewPoints.Proofs.Success

/-!
The batch reading of a helper file: cut the file into blocks, classify each of them once, in the
order in which they open, and put the reports in the order of their places. Scanning the file
line by line comes to the same.
-/

namespace ViewPoints

def Outcome.viewPoint? : Outcome → Option ViewPoint
  | viewPoint v => some v
  | _ => none

def Outcome.diagnostic? : Outcome → Option Diagnostic
  | unrecognized d => some d
  | _ => none

namespace HelperFile

/-- The outcome of a block, at the place where the block ends. -/
def classify (t : Trackers) (e : Nat × Block) : Except Failure (Nat × Outcome) :=
  (e.2.outcome t).map fun o => (e.1, o)

/-- The diagnostics among some outcomes, with their places. -/
def blockReports (outcomes : List (Nat × Outcome)) : List (Nat × Diagnostic) :=
  outcomes.filterMap fun e => e.2.diagnostic?.map fun d => (e.1, d)

/-- What is known at the end of a file. The first block that cannot be classified decides how
the reading fails. -/
def batch (t : Trackers) (lines : List String) : Except Failure Scan :=
  ((blocks lines).mapM (classify t)).map fun outcomes => {
    version := lastOf .version version? lines
    now := lastOf .now now? lines
    referenceFile := lastOf (.filename .reference) filename? lines
    testFile := lastOf (.filename .test) filename? lines
    timeOffset := (lastOf .timeOffset numbers? lines).getD {}
    headers := lines.countP isHeader
    viewPoints := (outcomes.filterMap fun e => e.2.viewPoint?).toArray
    diagnostics :=
      (inOrder 0 (lines.length + 1) (blockReports outcomes ++ offsetReports 0 lines)).toArray }

namespace Scan

/-- What is known at the end of a file, when `s` is known at the place `p`, `rest` are the lines
from there on and `outcomes` are those of the open block and of the blocks in `rest`. -/
def complete (s : Scan) (p : Nat) (rest : List String) (outcomes : List (Nat × Outcome)) :
    Scan where
  version := (lastOf .version version? rest).or s.version
  now := (lastOf .now now? rest).or s.now
  referenceFile := (lastOf (.filename .reference) filename? rest).or s.referenceFile
  testFile := (lastOf (.filename .test) filename? rest).or s.testFile
  timeOffset := (lastOf .timeOffset numbers? rest).getD s.timeOffset
  headers := s.headers + rest.countP isHeader
  viewPoints := s.viewPoints ++ (outcomes.filterMap fun e => e.2.viewPoint?).toArray
  diagnostics := s.diagnostics ++
    (inOrder p (rest.length + 1) (blockReports outcomes ++ offsetReports p rest)).toArray

/-- The open block as it will be, with the place where it will end. -/
def held (p : Nat) (rest : List String) : Option Block → List (Nat × Block)
  | none => []
  | some b => [(p + (stretch rest).length, { b with following := b.following ++ bodyOf rest })]

lemma close_none {t : Trackers} {s : Scan} (h : s.opened = none) : s.close t = .ok s := by
  simp [close, h]

lemma close_some {t : Trackers} {s : Scan} {b : Block} (h : s.opened = some b) :
    s.close t = (b.outcome t).map fun o => { s with opened := none }.record o := by
  simp [close, h]

variable {t : Trackers} {s : Scan} {p : Nat} {line : String} {rest : List String}
  {first later outcomes : List (Nat × Outcome)}

lemma mem_blockReports {e : Nat × Diagnostic} (h : e ∈ blockReports outcomes) :
    ∃ o ∈ outcomes, o.1 = e.1 := by
  obtain ⟨o, ho, he⟩ := List.mem_filterMap.1 h
  obtain ⟨d, -, rfl⟩ := Option.map_eq_some_iff.1 he
  exact ⟨o, ho, rfl⟩

variable (line rest) in
/-- The reports of one place before those of the places behind it. -/
lemma inOrder_reports (hf : ∀ e ∈ first, e.1 = p) (hl : ∀ e ∈ later, p < e.1) :
    inOrder p ((line :: rest).length + 1)
        (blockReports (first ++ later) ++ offsetReports p (line :: rest)) =
      (blockReports first).map Prod.snd ++
        ((if begins .timeOffset line && isGarbled line then [.invalidTimeOffset line] else []) ++
          inOrder (p + 1) (rest.length + 1)
            (blockReports later ++ offsetReports (p + 1) rest)) := by
  rw [offsetReports_cons, blockReports, List.filterMap_append, List.length_cons]
  rw [inOrder_succ]
  · rw [List.map_append, List.append_assoc]
    split <;> rfl
  · intro e he
    obtain ⟨o, ho, hoe⟩ := mem_blockReports he
    rw [← hoe, hf o ho]
  · intro e he
    obtain ⟨o, ho, hoe⟩ := mem_blockReports he
    rw [← hoe]
    exact hl o ho
  · intro e he
    split at he <;> simp_all
  · intro e he
    exact le_of_mem_offsetReports he

variable (line rest) in
/-- Where no block ends, only the line itself can be reported. -/
lemma inOrder_later (hl : ∀ e ∈ later, p < e.1) :
    inOrder p (rest.length + 1 + 1) (blockReports later ++ offsetReports p (line :: rest)) =
      (if begins .timeOffset line && isGarbled line then [.invalidTimeOffset line] else []) ++
        inOrder (p + 1) (rest.length + 1) (blockReports later ++ offsetReports (p + 1) rest) := by
  have h := inOrder_reports line rest (List.forall_mem_nil fun e : Nat × Outcome => e.1 = p) hl
  simpa [blockReports] using h

/-- What a line does apart from ending a block. -/
def pass (s : Scan) (line : String) : Scan :=
  match LineKind.of? line with
  | some .deviation => s.openBlock line
  | some .version => s.readVersion line
  | some .now => s.readNow line
  | some (.filename side) => s.readFilename side line
  | some .timeOffset => s.readOffset line
  | none => s.append line

lemma append_of_closed (h : s.opened = none) : s.append line = s := by
  cases s
  simp_all [append]

lemma opened_record (o : Outcome) : (s.record o).opened = s.opened := by
  cases o <;> rfl

lemma headers_record (o : Outcome) : (s.record o).headers = s.headers := by
  cases o <;> rfl

lemma opened_of_close {s' : Scan} (h : s.close t = .ok s') : s'.opened = none := by
  cases hb : s.opened with
  | none =>
    rw [close_none hb] at h
    obtain rfl := Except.ok.inj h
    exact hb
  | some b =>
    rw [close_some hb, map_eq_ok_iff] at h
    obtain ⟨o, -, rfl⟩ := h
    exact opened_record o

/-- A line first ends the open block, if it is of that kind, and then takes its effect. -/
lemma step_eq : s.step t line = (if ends line then s.close t else .ok s).map (pass · line) := by
  unfold step pass ends opens
  rw [begins_eq]
  rcases hk : LineKind.of? line with _ | k
  · cases hb : isBlankLine line
    · simp [Except.map]
    · cases hc : s.close t with
      | error e => simp [Except.map]
      | ok s' => simp [Except.map, append_of_closed (opened_of_close hc)]
  · have hb : isBlankLine line = false := by
      rw [← Bool.not_eq_true]
      exact fun hb => by simp [of?_of_isBlankLine hb] at hk
    cases k <;> simp [hb, Except.map]

lemma complete_pass (hl : ∀ e ∈ later, p < e.1) :
    (s.pass line).complete (p + 1) rest later = s.complete p (line :: rest) later := by
  have hr := inOrder_later line rest hl
  rcases hk : LineKind.of? line with _ | _ | _ | _ | _ | side
  case none =>
    have hh : isHeader line = false := isHeader_of_ne (by simp [hk])
    simp [pass, append, complete, lastOf_cons, begins_eq, hk, hr, hh]
  case some.version =>
    have hh : isHeader line = false := isHeader_of_ne (by simp [hk])
    cases hv : version? line <;>
      simp [pass, readVersion, complete, lastOf_cons, begins_eq, hk, hr, hh, hv]
  case some.deviation =>
    cases hh : isHeader line
    · simp [pass, openBlock, isSome_header_read?, complete, lastOf_cons, begins_eq, hk, hr, hh]
    · simp [pass, openBlock, isSome_header_read?, complete, lastOf_cons, begins_eq, hk, hr, hh]
      omega
  case some.now =>
    have hh : isHeader line = false := isHeader_of_ne (by simp [hk])
    cases hv : now? line <;>
      simp [pass, readNow, complete, lastOf_cons, begins_eq, hk, hr, hh, hv]
  case some.timeOffset =>
    have hh : isHeader line = false := isHeader_of_ne (by simp [hk])
    rcases ho : offset? line with _ | d | o
    · simp [pass, readOffset, complete, lastOf_cons, begins_eq, hk, hr, hh, ho, numbers?,
        isGarbled]
    · obtain rfl := offset?_error ho
      simp [pass, readOffset, complete, lastOf_cons, begins_eq, hk, hr, hh, ho, numbers?,
        isGarbled]
    · simp [pass, readOffset, complete, lastOf_cons, begins_eq, hk, hr, hh, ho, numbers?,
        isGarbled]
  case some.filename =>
    have hh : isHeader line = false := isHeader_of_ne (by simp [hk])
    cases side <;> cases hv : filename? line <;>
      simp [pass, readFilename, complete, lastOf_cons, begins_eq, hk, hr, hh, hv]

lemma complete_record (o : Outcome) (hl : ∀ e ∈ later, p < e.1) :
    ({ s with opened := none }.record o).complete p (line :: rest) later =
      s.complete p (line :: rest) ((p, o) :: later) := by
  have hr := inOrder_reports line rest (List.forall_mem_singleton.2 (rfl : (p, o).1 = p)) hl
  have hr' := inOrder_later line rest hl
  cases o <;>
    simp_all [record, complete, blockReports, Outcome.viewPoint?, Outcome.diagnostic?]

lemma headers_pass : (s.pass line).headers = s.headers + [line].countP isHeader := by
  have hl : ∀ e ∈ ([] : List (Nat × Outcome)), 0 < e.1 := by simp
  have h : ((s.pass line).complete 1 [] []).headers = (s.complete 0 [line] []).headers := by
    rw [complete_pass hl]
  simpa [complete] using h

lemma opened_pass {k : LineKind} (hk : LineKind.of? line = some k) (hd : k ≠ .deviation) :
    (s.pass line).opened = s.opened := by
  unfold pass
  rw [hk]
  cases k with
  | deviation => exact absurd rfl hd
  | version => simp only [readVersion]; split <;> rfl
  | now => simp only [readNow]; split <;> rfl
  | timeOffset => simp only [readOffset]; split <;> rfl
  | filename side => simp only [readFilename]; split <;> rfl

/-- The open block after a line and the blocks behind it are those before it and from it on. -/
lemma held_pass {before : List String} (hn : s.headers = before.countP isHeader)
    (hc : ends line = true → s.opened = none) :
    held (before.length + 1) rest (s.pass line).opened ++ blocksFrom (before ++ [line]) rest =
      held before.length (line :: rest) s.opened ++ blocksFrom before (line :: rest) := by
  rw [blocksFrom_cons, ← List.append_assoc]
  congr 1
  rcases hk : LineKind.of? line with _ | k
  · have ho : opens line = false := by simp [opens, begins_eq, hk]
    have hi : informs line = false := by
      rw [← Bool.not_eq_true, informs_iff]
      simp [hk]
    have hp : (s.pass line).opened = s.opened.map fun b => b.append line := by
      simp [pass, hk, append]
    cases he : ends line with
    | true => simp [hp, hc he, held, ho]
    | false =>
      cases hb : s.opened with
      | none => simp [hp, hb, held, ho]
      | some b =>
        simp [hp, hb, held, ho, hi, stretch_cons he, bodyOf_cons he, Block.append]
        omega
  · by_cases hd : k = .deviation
    · subst hd
      have ho : opens line = true := by simp [opens, begins_eq, hk]
      have he : ends line = true := by simp [ends, ho]
      simp [pass, hk, openBlock, hc he, held, ho, hn]
    · have ho : opens line = false := by simp [opens, begins_eq, hk, hd]
      have hi : informs line = true := informs_iff.2 ⟨k, hd, hk⟩
      have he : ends line = false := ends_of_of? hk hd
      rw [opened_pass hk hd]
      cases hb : s.opened with
      | none => simp [held, ho]
      | some b =>
        simp [held, ho, hi, stretch_cons he, bodyOf_cons he]
        omega

lemma lt_of_mem_held {q : Nat} {b : Option Block} {e : Nat × Block} (hq : p < q)
    (h : e ∈ held q rest b) : p < e.1 := by
  cases b with
  | none => simp [held] at h
  | some b =>
    obtain rfl := List.mem_singleton.1 h
    simp only
    omega

lemma places_of_classified {l : List (Nat × Block)} (h : l.mapM (classify t) = .ok outcomes) :
    outcomes.map Prod.fst = l.map Prod.fst := by
  replace h := mapM_eq_ok_iff.1 h
  induction h with
  | nil => rfl
  | cons ha _ ih =>
    obtain ⟨o, -, rfl⟩ := map_eq_ok_iff.1 ha
    rw [List.map_cons, List.map_cons, ih]

lemma lt_of_classified {l : List (Nat × Block)} (h : l.mapM (classify t) = .ok outcomes)
    (hl : ∀ e ∈ l, p < e.1) : ∀ e ∈ outcomes, p < e.1 := by
  intro e he
  have : e.1 ∈ l.map Prod.fst := places_of_classified h ▸ List.mem_map_of_mem he
  obtain ⟨b, hb, hbe⟩ := List.mem_map.1 this
  exact hbe ▸ hl b hb

lemma held_some {b : Block} (h : stretch rest = []) : held p rest (some b) = [(p, b)] := by
  simp [held, bodyOf, h]

lemma complete_nil (h : s.opened = none) : s.complete p [] [] = s := by
  cases s
  simp_all [complete, lastOf, blockReports, offsetReports, inOrder]

lemma complete_singleton (o : Outcome) :
    s.complete p [] [(p, o)] = { s with opened := none }.record o := by
  cases o <;>
    simp [record, complete, lastOf, blockReports, offsetReports, inOrder, Outcome.viewPoint?,
      Outcome.diagnostic?]

lemma classify_of_outcome {b : Block} {o : Outcome} (h : b.outcome t = .ok o) :
    classify t (p, b) = .ok (p, o) := by
  rw [classify, h]
  rfl

lemma classify_of_failure {b : Block} {e : Failure} (h : b.outcome t = .error e) :
    classify t (p, b) = .error e := by
  rw [classify, h]
  rfl

/-- Scanning the rest of a file comes to classifying the open block, as it will be, and the
blocks in the rest. -/
theorem run_close {before : List String} (hn : s.headers = before.countP isHeader) :
    (s.run t (rest.map .ok)).bind (close t) =
      ((held before.length rest s.opened ++ blocksFrom before rest).mapM (classify t)).map
        (s.complete before.length rest) := by
  induction rest generalizing s before with
  | nil =>
    rw [List.map_nil, run_nil, blocksFrom_nil, List.append_nil]
    change s.close t = _
    cases hb : s.opened with
    | none =>
      rw [close_none hb]
      exact congrArg Except.ok (complete_nil hb).symm
    | some b =>
      rw [close_some hb, held_some stretch_nil, mapM_cons_eq]
      cases ho : b.outcome t with
      | error e => rw [classify_of_failure ho, error_map, error_bind, error_map]
      | ok o =>
        rw [classify_of_outcome ho]
        exact congrArg Except.ok (complete_singleton o).symm
  | cons line rest ih =>
    -- the open block has been ended if the line ends blocks
    have next (s : Scan) (hn : s.headers = before.countP isHeader)
        (hc : ends line = true → s.opened = none) :
        ((s.pass line).run t (rest.map .ok)).bind (close t) =
          ((held before.length (line :: rest) s.opened ++
            blocksFrom before (line :: rest)).mapM (classify t)).map
              (s.complete before.length (line :: rest)) := by
      have hp : (s.pass line).headers = (before ++ [line]).countP isHeader := by
        rw [headers_pass, hn, List.countP_append]
      rw [ih hp, List.length_append, List.length_singleton, held_pass hn hc]
      refine map_congr_ok fun outcomes ho => complete_pass (lt_of_classified ho fun e he => ?_)
      rw [← held_pass hn hc] at he
      rcases List.mem_append.1 he with he | he
      · exact lt_of_mem_held (Nat.lt_succ_self _) he
      · have := lt_of_mem_blocksFrom he
        rw [List.length_append, List.length_singleton] at this
        omega
    rw [List.map_cons, run_cons]
    change ((s.step t line).bind _).bind _ = _
    rw [step_eq, map_bind]
    cases he : ends line with
    | false => exact next s hn (by simp [he])
    | true =>
      rw [if_pos rfl]
      cases hb : s.opened with
      | none =>
        rw [close_none hb, ← hb]
        exact next s hn fun _ => hb
      | some b =>
        rw [close_some hb, map_bind, held_some (stretch_cons_of_ends he rest),
          List.singleton_append, mapM_cons_eq]
        cases ho : b.outcome t with
        | error e => simp only [classify_of_failure ho, error_bind, error_map]
        | ok o =>
          rw [classify_of_outcome ho]
          have hc : (record { s with opened := none } o).opened = none := opened_record o
          refine (next (record { s with opened := none } o) ?_ fun _ => hc).trans ?_
          · rw [headers_record]
            exact hn
          rw [hc, held, List.nil_append, ok_bind, map_map]
          exact map_congr_ok fun outcomes ho =>
            complete_record o (lt_of_classified ho fun _ => lt_of_mem_blocksFrom)

end Scan

/-- A whole file is read by classifying its blocks. -/
theorem read_eq_complete (t : Trackers) (lines : List String) :
    read t (lines.map .ok) =
      ((blocks lines).mapM (classify t)).map (({} : Scan).complete 0 lines) := by
  have hn : ({} : Scan).headers = ([] : List String).countP isHeader := rfl
  refine (Scan.run_close hn).trans ?_
  rw [Scan.held, List.nil_append, ← blocks_eq, List.length_nil]

lemma headers_of_read {t : Trackers} {lines : List String} {s : Scan}
    (h : read t (lines.map .ok) = .ok s) : s.headers = lines.countP isHeader := by
  rw [read_eq_complete, map_eq_ok_iff] at h
  obtain ⟨outcomes, -, rfl⟩ := h
  exact Nat.zero_add _

/-- Scanning a file line by line gives what reading it as a whole gives: the same facts, view
points and diagnostics, or the same failure. -/
theorem read_eq_batch (t : Trackers) (lines : List String) :
    read t (lines.map .ok) = batch t lines := by
  rw [read_eq_complete, batch]
  exact map_congr_ok fun outcomes _ => by simp [Scan.complete]

end HelperFile

end ViewPoints
