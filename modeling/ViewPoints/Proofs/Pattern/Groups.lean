import Mathlib.Tactic.Lemma
import ViewPoints.Pattern.Meaning

/-!
What the shape of a pattern says of its matches: how many groups they have, and with what word
the matched text begins.
-/

namespace ViewPoints.Pattern

variable {a : Pattern} {s r : List Char} {g : List Span}

/-- The number of groups, as the first of two alternatives has it. -/
def groups : Pattern → Nat
  | seq a b => a.groups + b.groups
  | either a _ => a.groups
  | group a => a.groups + 1
  | _ => 0

/-- Whether alternatives have the same number of groups. -/
def uniform : Pattern → Bool
  | seq a b => a.uniform && b.uniform
  | either a b => a.uniform && (b.uniform && a.groups == b.groups)
  | group a => a.uniform
  | _ => true

lemma Matches.length_groups (h : Matches a s g r) (hu : a.uniform = true) :
    g.length = a.groups := by
  induction h with
  | seq _ _ iha ihb =>
    obtain ⟨ha, hb⟩ := (Bool.and_eq_true _ _).mp hu
    rw [List.length_append, iha ha, ihb hb]
    rfl
  | left _ ih => exact ih ((Bool.and_eq_true _ _).mp hu).1
  | right _ ih =>
    obtain ⟨-, hu⟩ := (Bool.and_eq_true _ _).mp hu
    obtain ⟨hb, he⟩ := (Bool.and_eq_true _ _).mp hu
    rw [ih hb]
    exact (beq_iff_eq.mp he).symm
  | group _ ih => rw [List.length_append, ih hu]; rfl
  | _ => rfl

lemma length_of_readFront {w : String} {l : List String} (h : a.readFront w = some l)
    (hu : a.uniform = true) : l.length = a.groups := by
  obtain ⟨gs, hgs, rfl⟩ := Option.map_eq_some_iff.1 h
  obtain ⟨r, hm⟩ := atFront_sound hgs
  rw [List.length_map, hm.length_groups hu]

/-- The word with which every match begins, where the pattern tells. -/
def leader? : Pattern → Option (List Char)
  | exactly w => some w
  | seq a _ => a.leader?
  | group a => a.leader?
  | _ => none

lemma Matches.leader {w : List Char} (h : Matches a s g r) (hw : a.leader? = some w) :
    ∃ t, s = w ++ t := by
  induction h with
  | exactly => exact ⟨_, by rw [Option.some.inj hw]⟩
  | seq _ _ iha => exact iha hw
  | group _ ih => exact ih hw
  | _ => simp [leader?] at hw

lemma startsWith_of_readFront {w : List Char} {v : String} {l : List String}
    (h : a.readFront v = some l) (hw : a.leader? = some w) :
    Text.startsWith w v.toList = true := by
  obtain ⟨gs, hgs, rfl⟩ := Option.map_eq_some_iff.1 h
  obtain ⟨r, hm⟩ := atFront_sound hgs
  exact Text.startsWith_iff.2 (hm.leader hw)

end ViewPoints.Pattern
