import ViewPoints.Proofs.HelperFile.Unfinished

/-!
What has been recorded stays. A line of a helper file adds to the view points and the diagnostics
behind those that are there, so that all of a longer file goes on from what a shorter one records
before its end. What the open block of the shorter file turns into is not among that.
-/

namespace ViewPoints.HelperFile

/-- What the block that no line ends turns into at the end of the file. -/
def lastOutcome? (t : Trackers) (lines : List String) : Option Outcome :=
  (unfinished? lines).bind fun b => (b.outcome t).toOption

namespace Scan

/-- What is known grows from `s` to `s'`: the records of `s` come first. -/
structure Grows (s s' : Scan) : Prop where
  viewPoints : s.viewPoints.toList <+: s'.viewPoints.toList
  diagnostics : s.diagnostics.toList <+: s'.diagnostics.toList

variable {t : Trackers} {s m s' : Scan} {line : String}

lemma Grows.of_eq (hv : s.viewPoints = s'.viewPoints) (hd : s.diagnostics = s'.diagnostics) :
    Grows s s' := ⟨hv ▸ List.prefix_rfl, hd ▸ List.prefix_rfl⟩

lemma Grows.trans (h : Grows s m) (h' : Grows m s') : Grows s s' where
  viewPoints := h.viewPoints.trans h'.viewPoints
  diagnostics := h.diagnostics.trans h'.diagnostics

/-- What a block turns into is put behind what is there. -/
lemma toList_record (s : Scan) (o : Outcome) :
    (s.record o).viewPoints.toList = s.viewPoints.toList ++ o.viewPoint?.toList ∧
      (s.record o).diagnostics.toList = s.diagnostics.toList ++ o.diagnostic?.toList := by
  cases o <;> simp [record, Outcome.viewPoint?, Outcome.diagnostic?]

lemma grows_close (h : s.close t = .ok s') : Grows s s' := by
  cases hb : s.opened with
  | none =>
    rw [close_none hb] at h
    obtain rfl := Except.ok.inj h
    exact .of_eq rfl rfl
  | some b =>
    rw [close_some hb, map_eq_ok_iff] at h
    obtain ⟨o, -, rfl⟩ := h
    obtain ⟨hv, hd⟩ := toList_record { s with opened := none } o
    constructor
    case viewPoints => rw [hv]; exact List.prefix_append ..
    case diagnostics => rw [hd]; exact List.prefix_append ..

/-- Apart from ending a block a line records at most a clock offset that it garbles. -/
lemma grows_pass (s : Scan) (line : String) : Grows s (s.pass line) := by
  unfold pass
  split
  next => exact .of_eq rfl rfl
  next => unfold readVersion; split <;> exact .of_eq rfl rfl
  next => unfold readNow; split <;> exact .of_eq rfl rfl
  next => unfold readFilename; split <;> exact .of_eq rfl rfl
  next =>
    unfold readOffset
    split
    next => exact .of_eq rfl rfl
    next d _ => exact ⟨List.prefix_rfl, by simp⟩
    next => exact .of_eq rfl rfl
  next => exact .of_eq rfl rfl

theorem grows_step (h : s.step t line = .ok s') : Grows s s' := by
  rw [step_eq, map_eq_ok_iff] at h
  obtain ⟨m, hm, rfl⟩ := h
  refine Grows.trans ?_ (grows_pass m line)
  split at hm
  next => exact grows_close hm
  next =>
    obtain rfl := Except.ok.inj hm
    exact .of_eq rfl rfl

/-- What is met in lines is met in whatever they are followed by, and before it. -/
lemma met_append {lines : List (Except Failure String)} (h : s.run t lines = .ok m)
    (rest : List (Except Failure String)) : s.met t (lines ++ rest) = m.met t rest := by
  induction lines generalizing s with
  | nil =>
    obtain rfl := Except.ok.inj h
    rfl
  | cons line lines ih =>
    rw [run_cons] at h
    obtain ⟨n, hn, h⟩ := bind_eq_ok_iff.1 h
    rw [List.cons_append, met, hn]
    exact ih h

theorem grows_run {lines : List (Except Failure String)} (h : s.run t lines = .ok s') :
    Grows s s' := by
  induction lines generalizing s with
  | nil =>
    obtain rfl := Except.ok.inj h
    exact .of_eq rfl rfl
  | cons line lines ih =>
    rw [run_cons] at h
    obtain ⟨m, hm, h⟩ := bind_eq_ok_iff.1 h
    obtain ⟨l, -, hm⟩ := bind_eq_ok_iff.1 hm
    exact (grows_step hm).trans (ih h)

/-- At the end of a file what the open block turns into is put behind what is there. -/
lemma toList_of_close {lines : List String} (hs : run t {} (lines.map .ok) = .ok s)
    (h : s.close t = .ok s') :
    s'.viewPoints.toList =
        s.viewPoints.toList ++ ((lastOutcome? t lines).bind Outcome.viewPoint?).toList ∧
      s'.diagnostics.toList =
        s.diagnostics.toList ++ ((lastOutcome? t lines).bind Outcome.diagnostic?).toList := by
  rw [lastOutcome?, ← opened_of_run hs]
  cases hb : s.opened with
  | none =>
    rw [close_none hb] at h
    obtain rfl := Except.ok.inj h
    simp
  | some b =>
    rw [close_some hb, map_eq_ok_iff] at h
    obtain ⟨o, ho, rfl⟩ := h
    simp only [Option.bind_some, ho, Except.toOption]
    exact toList_record { s with opened := none } o

end Scan

/-- What is met in a file is what is known when it has been read, or where it fails: at a line or at
the end, for the block that is open there. -/
theorem met_eq (t : Trackers) (lines : List (Except Failure String)) :
    (∀ s, read t lines = .ok s → met t lines = s.diagnostics) ∧
    (∀ u line v s e, lines = u ++ line :: v → Scan.run t {} u = .ok s →
      s.feed t line = .error e → met t lines = s.diagnostics) ∧
    ∀ s e, Scan.run t {} lines = .ok s → s.close t = .error e → met t lines = s.diagnostics := by
  refine ⟨fun s h => ?_, fun u line v s e hl h he => ?_, fun s e h he => ?_⟩
  · obtain ⟨m, hm, hs⟩ := bind_eq_ok_iff.1 h
    rw [met, ← List.append_nil lines, Scan.met_append hm, Scan.met, hs]
  · rw [met, hl, Scan.met_append h, Scan.met, he]
  · rw [met, ← List.append_nil lines, Scan.met_append h, Scan.met, he]

/-- The records of a file, apart from what its unfinished block turns into, come first in any
longer file. -/
theorem committed_of_read {t : Trackers} {early late : List String} {s s' : Scan}
    (h : read t (early.map .ok) = .ok s) (h' : read t ((early ++ late).map .ok) = .ok s') :
    ∃ vs ds, s.viewPoints.toList = vs ++ ((lastOutcome? t early).bind Outcome.viewPoint?).toList ∧
      vs <+: s'.viewPoints.toList ∧
      s.diagnostics.toList = ds ++ ((lastOutcome? t early).bind Outcome.diagnostic?).toList ∧
      ds <+: s'.diagnostics.toList := by
  obtain ⟨m, hm, hs⟩ := bind_eq_ok_iff.1 h
  obtain ⟨m', hm', hs'⟩ := bind_eq_ok_iff.1 h'
  rw [List.map_append, Scan.run_append, hm, ok_bind] at hm'
  have hg := (Scan.grows_run hm').trans (Scan.grows_close hs')
  obtain ⟨hv, hd⟩ := Scan.toList_of_close hm hs
  exact ⟨_, _, hv, hg.viewPoints, hd, hg.diagnostics⟩

end ViewPoints.HelperFile
