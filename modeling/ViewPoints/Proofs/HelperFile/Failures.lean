import ViewPoints.Proofs.HelperFile.Batch

/-!
How a helper file fails to be read: for the first place that fails. A place fails for the line
there, if it cannot be read, and otherwise for the block that ends there; so a stamp is met only
where its block ends.
-/

namespace ViewPoints.HelperFile

variable {t : Trackers}

/-- How the block that ends at a place fails. -/
def blockFailure? (t : Trackers) (bs : List (Nat × Block)) (i : Nat) : Option Failure :=
  (bs.find? fun e => e.1 = i).bind fun e => failure? (e.2.outcome t)

/-- How a file fails at a place. Its blocks are those of the lines before the first that cannot be
read, and the last of them is never ended there. -/
def failureAt? (t : Trackers) (lines : List (Except Failure String)) (i : Nat) : Option Failure :=
  (lines[i]?.bind failure?).or (blockFailure? t (blocks (legible lines)) i)

/-- The first failure of a file, line by line and then at its end. -/
def firstFailure? (t : Trackers) (lines : List (Except Failure String)) : Option Failure :=
  (List.range (lines.length + 1)).findSome? (failureAt? t lines)

variable {bs : List (Nat × Block)} {p : Nat} {b : Block}

lemma blockFailure?_cons (b : Block) (bs : List (Nat × Block)) :
    blockFailure? t ((p, b) :: bs) p = failure? (b.outcome t) := by
  simp [blockFailure?]

lemma blockFailure?_cons_of_lt {i : Nat} (h : p < i) (b : Block) (bs : List (Nat × Block)) :
    blockFailure? t ((p, b) :: bs) i = blockFailure? t bs i := by
  simp [blockFailure?, Nat.ne_of_lt h]

/-- Where no block ends, none fails. -/
lemma blockFailure?_of_lt (h : ∀ e ∈ bs, p < e.1) : blockFailure? t bs p = none := by
  have hn : bs.find? (fun e => e.1 = p) = none :=
    List.find?_eq_none.2 fun e he => by simpa using Nat.ne_of_gt (h e he)
  rw [blockFailure?, hn, Option.bind_none]

namespace Scan

variable {s : Scan} {line : String} {before rest : List String}

/-- A line that does not end a block stands before the end of the open one. -/
lemma lt_of_mem_held_cons (hl : ends line = true → s.opened = none) {e : Nat × Block}
    (h : e ∈ held p (line :: rest) s.opened) : p < e.1 := by
  cases hb : s.opened with
  | none => simp [hb, held] at h
  | some b =>
    have he : ends line = false := by
      rw [← Bool.not_eq_true]
      exact fun he => by simp [hl he] at hb
    rw [hb, held, List.mem_singleton] at h
    obtain rfl := h
    simp [stretch_cons he]

/-- Scanning the rest of a file fails at the first place that fails, from where the scan stands
on. -/
theorem failure?_run_close {rest : List (Except Failure String)}
    (hn : s.headers = before.countP isHeader) :
    failure? ((s.run t rest).bind (close t)) =
      (List.range (rest.length + 1)).findSome? fun i =>
        (rest[i]?.bind failure?).or (blockFailure? t
          (held before.length (legible rest) s.opened ++ blocksFrom before (legible rest))
          (before.length + i)) := by
  induction rest generalizing s before with
  | nil =>
    change failure? (s.close t) = _
    cases hb : s.opened with
    | none => simp [close_none hb, held, blockFailure?]
    | some b =>
      rw [close_some hb, failure?_map]
      simp [held_some stretch_nil, blockFailure?_cons]
  | cons line rest ih =>
    rw [List.length_cons, List.range_succ_eq_map, List.findSome?_cons, List.findSome?_map]
    cases line with
    | error e => rfl
    | ok line =>
      -- the open block has been ended if the line ends blocks
      have next (s : Scan) (hn : s.headers = before.countP isHeader)
          (hc : ends line = true → s.opened = none) :
          failure? (((s.pass line).run t rest).bind (close t)) =
            (List.range (rest.length + 1)).findSome? fun i =>
              (rest[i]?.bind failure?).or (blockFailure? t
                (held before.length (line :: legible rest) s.opened ++
                  blocksFrom before (line :: legible rest)) (before.length + (i + 1))) := by
        have hp : (s.pass line).headers = (before ++ [line]).countP isHeader := by
          rw [headers_pass, hn, List.countP_append]
        rw [ih hp, List.length_append, List.length_singleton, held_pass hn hc]
        simp only [Nat.add_assoc, Nat.add_comm 1]
      have hl : ∀ e ∈ blocksFrom before (line :: legible rest), before.length < e.1 :=
        fun _ => lt_of_mem_blocksFrom
      rw [run_cons]
      change failure? (((s.step t line).bind _).bind _) = _
      rw [step_eq, map_bind, bind_bind, legible_ok]
      by_cases hc : ends line = true → s.opened = none
      · have ha : (if ends line then s.close t else .ok s) = .ok s := by
          split
          next he => exact close_none (hc he)
          next => rfl
        have hnone : blockFailure? t (held before.length (line :: legible rest) s.opened ++
            blocksFrom before (line :: legible rest)) before.length = none := by
          refine blockFailure?_of_lt fun e he => ?_
          rcases List.mem_append.1 he with he | he
          · exact lt_of_mem_held_cons hc he
          · exact hl e he
        rw [ha, ok_bind, next s hn hc]
        simp [hnone, Function.comp_def]
      · obtain ⟨he, hb⟩ := Classical.not_imp.1 hc
        obtain ⟨b, hb⟩ := Option.ne_none_iff_exists'.1 hb
        rw [if_pos he, close_some hb, map_bind, hb, held_some (stretch_cons_of_ends he _),
          List.singleton_append]
        have hr (o : Outcome) : (record { s with opened := none } o).opened = none :=
          opened_record o
        have hnext (o : Outcome) := next (record { s with opened := none } o)
          ((headers_record o).trans hn) fun _ => hr o
        simp only [hr, held, List.nil_append] at hnext
        have hcons (i : Nat) := blockFailure?_cons_of_lt (t := t)
          (show before.length < before.length + (i + 1) by omega) b
          (blocksFrom before (line :: legible rest))
        rw [failure?_bind fun o _ => hnext o]
        simp only [Function.comp_def, List.getElem?_cons_zero, List.getElem?_cons_succ,
          Option.bind_some, failure?_ok, Option.none_or, Nat.add_zero, blockFailure?_cons, hcons]
        cases failure? (b.outcome t) <;> rfl

end Scan

/-- Reading a file fails at the first place that fails. -/
theorem failure?_read (t : Trackers) (lines : List (Except Failure String)) :
    failure? (read t lines) = firstFailure? t lines := by
  have hn : ({} : Scan).headers = ([] : List String).countP isHeader := rfl
  refine (Scan.failure?_run_close hn).trans ?_
  rw [Scan.held, List.nil_append, ← blocks_eq, List.length_nil]
  simp only [Nat.zero_add]
  rfl

end ViewPoints.HelperFile
