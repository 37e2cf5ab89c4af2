import ViewPoints.Proofs.HelperFile.Batch

/-!
The block that is still open at the end of a file. It is the only block that further lines could
add to, and no line of the file ends it.
-/

namespace ViewPoints.HelperFile

/-- The block that no line of a file ends. -/
def unfinished? (lines : List String) : Option Block :=
  ((blocks lines).find? fun e => e.1 = lines.length).map Prod.snd

lemma opens_of_isBlankLine {line : String} (h : isBlankLine line = true) : opens line = false := by
  simp [opens, begins_eq, of?_of_isBlankLine h]

/-- A blank line at the end leaves no block open. -/
lemma unfinished?_of_blank (lines : List String) {line : String} (h : isBlankLine line = true) :
    unfinished? (lines ++ [line]) = none := by
  rw [unfinished?, Option.map_eq_none_iff, List.find?_eq_none]
  intro e he
  obtain ⟨⟨l, i⟩, hi, rfl⟩ := List.mem_map.1 he
  obtain ⟨hm, ho⟩ := List.mem_filter.1 hi
  have hl := (List.mem_zipIdx' hm).2
  have hlt := (List.mem_zipIdx' hm).1
  simp only at hl ho hlt
  have hlast : i < lines.length := by
    by_contra hn
    rw [List.getElem_append_right (by omega)] at hl
    simp [hl, opens_of_isBlankLine h] at ho
  have hs : (stretch ((lines ++ [line]).drop (i + 1))).length ≤ lines.length - (i + 1) := by
    rw [List.drop_append_of_le_length hlast, stretch, List.takeWhile_append]
    split
    next hf => simp [ends, h]
    next => exact Nat.le_trans (List.takeWhile_sublist _).length_le (by simp)
  simp only [closing, List.length_append, List.length_singleton, decide_eq_true_eq]
  omega

namespace Scan

variable {t : Trackers} {s s' : Scan} {line : String} {before rest : List String}

lemma headers_of_close (h : s.close t = .ok s') : s'.headers = s.headers := by
  cases hb : s.opened with
  | none =>
    rw [close_none hb] at h
    obtain rfl := Except.ok.inj h
    rfl
  | some b =>
    rw [close_some hb, map_eq_ok_iff] at h
    obtain ⟨o, -, rfl⟩ := h
    exact headers_record o

/-- Of the open block and the blocks in the rest of a file, all but the one that is open in the end
are ended before. -/
lemma exists_ended_of_run (hn : s.headers = before.countP isHeader)
    (h : s.run t (rest.map .ok) = .ok s') :
    ∃ ended, (∀ e ∈ ended, e.1 < before.length + rest.length) ∧
      held before.length rest s.opened ++ blocksFrom before rest =
        ended ++ held (before.length + rest.length) [] s'.opened := by
  induction rest generalizing s before with
  | nil =>
    obtain rfl := Except.ok.inj h
    exact ⟨[], by simp, by simp⟩
  | cons line rest ih =>
    rw [List.map_cons, run_cons] at h
    obtain ⟨m, hm, h⟩ := bind_eq_ok_iff.1 h
    change s.step t line = .ok m at hm
    rw [step_eq, map_eq_ok_iff] at hm
    obtain ⟨a, ha, rfl⟩ := hm
    -- the open block has been ended if the line ends blocks
    obtain ⟨front, hfront, hheld, hheaders, hopened⟩ : ∃ front : List (Nat × Block),
        (∀ e ∈ front, e.1 = before.length) ∧
        held before.length (line :: rest) s.opened =
          front ++ held before.length (line :: rest) a.opened ∧
        a.headers = before.countP isHeader ∧ (ends line = true → a.opened = none) := by
      split at ha
      next he =>
        refine ⟨held before.length (line :: rest) s.opened, ?_, ?_, ?_, fun _ => opened_of_close ha⟩
        · cases s.opened <;> simp [held, stretch_cons_of_ends he]
        · rw [opened_of_close ha, held, List.append_nil]
        · rw [headers_of_close ha, hn]
      next he =>
        obtain rfl := Except.ok.inj ha
        exact ⟨[], by simp, rfl, hn, fun h => absurd h he⟩
    have hnext : (a.pass line).headers = (before ++ [line]).countP isHeader := by
      rw [headers_pass, hheaders, List.countP_append]
    obtain ⟨ended, hended, heq⟩ := ih hnext h
    rw [List.length_append, List.length_singleton, held_pass hheaders hopened] at heq
    refine ⟨front ++ ended, fun e he => ?_, ?_⟩
    · rcases List.mem_append.1 he with he | he
      · have := hfront e he
        simp only [List.length_cons]
        omega
      · have := hended e he
        simp only [List.length_append, List.length_cons, List.length_nil] at this ⊢
        omega
    · rw [hheld, List.append_assoc, heq, List.append_assoc, List.length_cons]
      congr 3
      omega

/-- The open block behind some lines is the one that they do not finish. -/
theorem opened_of_run {lines : List String} (h : run t {} (lines.map .ok) = .ok s) :
    s.opened = unfinished? lines := by
  have hn : ({} : Scan).headers = ([] : List String).countP isHeader := rfl
  obtain ⟨ended, hended, heq⟩ := exists_ended_of_run hn h
  rw [held, List.nil_append, ← blocks_eq, List.length_nil, Nat.zero_add] at heq
  have hnone : ended.find? (fun e => e.1 = lines.length) = none := by
    rw [List.find?_eq_none]
    intro e he
    have := hended e he
    simp only [List.length_nil, Nat.zero_add] at this
    simp only [decide_eq_true_eq]
    omega
  rw [unfinished?, heq, List.find?_append, hnone, Option.none_or]
  cases s.opened with
  | none => rfl
  | some b => simp [held, bodyOf]

end Scan

end ViewPoints.HelperFile
