import Mathlib.Data.List.Induction
import ViewPoints.Conversion
import ViewPoints.Proofs.RunLog.Step

/-!
Which lines of a run log the facts about a run come from: of the lines in the section of that run,
the last from which the fact could be read.
-/

namespace ViewPoints.RunLog

/-- The section that a line begins. Of several titles the latest section counts, and the test run
is later than the reference run. -/
def sectionOf? (line : String) : Option Phase :=
  if Text.mentions line "Pass 3: Compare system track contents" then some .comparison
  else if Text.mentions line "Pass 2: Correlate system tracks" then some .correlation
  else if Text.mentions line "Pass 1: Establish common time-frame" then some .timeFrame
  else if Text.mentions line "Loading test run" then some (.loading .test)
  else if Text.mentions line "Loading reference run" then some (.loading .reference)
  else none

/-- The section in force behind some lines. -/
def phaseAfter (lines : List String) : Phase :=
  (lines.filterMap sectionOf?).getLast?.getD .start

/-- The section in force at a place, to which the line there may give its title. -/
def phaseAt (lines : List String) (i : Nat) : Phase := phaseAfter (lines.take (i + 1))

/-- What the last line tells of a run that tells anything. -/
def Attribute.lastTold {α β : Type} (A : Attribute α β) (side : Side) (lines : List String) :
    Option α :=
  (lines.zipIdx.filterMap fun e => A.told (phaseAt lines e.2) side e.1).getLast?

/-! ### Sections -/

lemma ofLine?_eq (line : String) : Phase.ofLine? line = sectionOf? line := by
  unfold Phase.ofLine? Phase.titles sectionOf?
  simp only [List.filter_cons, List.filter_nil]
  split <;> split <;> split <;> split <;> split <;> rfl

lemma phaseAfter_append (lines : List String) (line : String) :
    phaseAfter (lines ++ [line]) = (phaseAfter lines).after line := by
  unfold phaseAfter Phase.after
  rw [ofLine?_eq, List.filterMap_append]
  cases h : sectionOf? line <;> simp [h]

lemma phaseAt_append {lines : List String} {i : Nat} (h : i < lines.length) (line : String) :
    phaseAt (lines ++ [line]) i = phaseAt lines i := by
  rw [phaseAt, List.take_append_of_le_length (by omega), phaseAt]

lemma phaseAt_length (lines : List String) (line : String) :
    phaseAt (lines ++ [line]) lines.length = phaseAfter (lines ++ [line]) := by
  rw [phaseAt, List.take_of_length_le (by simp)]

/-! ### Facts -/

namespace Attribute

variable {α β : Type} {A : Attribute α β}

lemma lastTold_append (side : Side) (lines : List String) (line : String) :
    A.lastTold side (lines ++ [line]) =
      (A.told (phaseAfter (lines ++ [line])) side line).or (A.lastTold side lines) := by
  -- the lines before see the sections that they saw
  have hl : lines.zipIdx.filterMap (fun e => A.told (phaseAt (lines ++ [line]) e.2) side e.1) =
      lines.zipIdx.filterMap fun e => A.told (phaseAt lines e.2) side e.1 := by
    refine List.filterMap_congr fun e he => ?_
    have hi : e.2 < lines.length := by simpa using (List.mem_zipIdx he).2.1
    rw [phaseAt_append hi]
  unfold lastTold
  rw [List.zipIdx_append, List.filterMap_append, hl, List.getLast?_append]
  congr 1
  rw [List.zipIdx_singleton, Nat.zero_add, List.filterMap_cons, phaseAt_length]
  cases A.told (phaseAfter (lines ++ [line])) side line <;> rfl

/-- What is told later overrides what was told before. -/
lemma Becomes.trans {old mid new : Option β} {a? b? : Option α} (h : A.Becomes old a? mid)
    (h' : A.Becomes mid b? new) : A.Becomes old (b?.or a?) new := by
  cases b? with
  | none =>
    obtain rfl : new = mid := h'
    exact h
  | some b => exact h'

end Attribute

/-! ### Whole logs -/

/-- What is known of the runs is what was told of them last. -/
structure Scan.Knows (s : Scan) (lines : List String) : Prop where
  phase : s.phase = phaseAfter lines
  identity : ∀ side, Attribute.identity.Becomes none (Attribute.identity.lastTold side lines)
    (s.recording side).identity
  window : ∀ side, Attribute.window.Becomes none (Attribute.window.lastTold side lines)
    (s.recording side).window
  duration : ∀ side, Attribute.duration.Becomes none (Attribute.duration.lastTold side lines)
    (s.recording side).duration

namespace Scan

variable {t : Trackers} {first : Nat} {s s' : Scan} {lines : List String} {line : String}

lemma knows_nil : ({} : Scan).Knows [] where
  phase := rfl
  identity side := by cases side <;> rfl
  window side := by cases side <;> rfl
  duration side := by cases side <;> rfl

lemma Knows.step (hs : s.Knows lines) (h : s.step t first line = .ok s') :
    s'.Knows (lines ++ [line]) := by
  have ht := taken_of_step h
  have hp : s'.phase = phaseAfter (lines ++ [line]) := by
    rw [ht.phase, hs.phase, phaseAfter_append]
  constructor
  case phase => exact hp
  case identity =>
    intro side
    rw [Attribute.lastTold_append, ← hp]
    exact (hs.identity side).trans (ht.identity side)
  case window =>
    intro side
    rw [Attribute.lastTold_append, ← hp]
    exact (hs.window side).trans (ht.window side)
  case duration =>
    intro side
    rw [Attribute.lastTold_append, ← hp]
    exact (hs.duration side).trans (ht.duration side)

theorem knows_of_run (h : run t first {} (lines.map .ok) = .ok s) : s.Knows lines := by
  induction lines using List.reverseRecOn generalizing s with
  | nil =>
    obtain rfl := Except.ok.inj h
    exact knows_nil
  | append_singleton lines line ih =>
    obtain ⟨m, hm, h⟩ := run_snoc.1 h
    exact (ih hm).step h

end Scan

end ViewPoints.RunLog
