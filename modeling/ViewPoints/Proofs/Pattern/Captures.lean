import Mathlib.Data.List.Forall2
import ViewPoints.Proofs.Pattern.Groups

/-!
What the groups of a match hold. Each stands in the text, and what is in it matches the part of
the pattern that it is the group of.
-/

namespace ViewPoints.Pattern

variable {a b : Pattern} {s r : List Char} {g : List Span}

/-- The parts of a pattern that its groups are made of, in order. -/
def captures : Pattern → List Pattern
  | seq a b => a.captures ++ b.captures
  | group a => a.captures ++ [a]
  | _ => []

/-- Whether alternatives hold no groups. -/
def flat : Pattern → Bool
  | seq a b => a.flat && b.flat
  | either a b => a.flat && b.flat && (a.captures.isEmpty && b.captures.isEmpty)
  | group a => a.flat
  | _ => true

/-! ### Matches by the shape of the pattern -/

lemma matches_lit_iff {w : String} : Matches (lit w) s g r ↔ g = [] ∧ s = w.toList ++ r := by
  constructor
  · intro h
    cases h
    exact ⟨rfl, rfl⟩
  · rintro ⟨rfl, rfl⟩
    exact .exactly

lemma matches_one_iff {p : Char → Bool} :
    Matches (one p) s g r ↔ ∃ c, p c = true ∧ g = [] ∧ s = c :: r := by
  constructor
  · intro h
    cases h with
    | one hc => exact ⟨_, hc, rfl, rfl⟩
  · rintro ⟨c, hc, rfl, rfl⟩
    exact .one hc

lemma matches_append_iff :
    Matches (a ++ b) s g r ↔ ∃ t g₁ g₂, Matches a s g₁ t ∧ Matches b t g₂ r ∧ g = g₁ ++ g₂ := by
  constructor
  · intro h
    cases h with
    | seq ha hb => exact ⟨_, _, _, ha, hb, rfl⟩
  · rintro ⟨t, g₁, g₂, ha, hb, rfl⟩
    exact .seq ha hb

lemma matches_group_iff :
    Matches (group a) s g r ↔ ∃ h, Matches a s h r ∧ g = h ++ [⟨s, r⟩] := by
  constructor
  · intro h
    cases h with
    | group ha => exact ⟨_, ha, rfl⟩
  · rintro ⟨h, ha, rfl⟩
    exact .group ha

/-- What a match leaves is the end of the text. -/
lemma Matches.exists_append (h : Matches a s g r) : ∃ u, s = u ++ r := by
  induction h with
  | empty => exact ⟨[], rfl⟩
  | exactly => exact ⟨_, rfl⟩
  | one => exact ⟨[_], rfl⟩
  | run => exact ⟨_, rfl⟩
  | spare => exact ⟨_, rfl⟩
  | seq _ _ iha ihb =>
    obtain ⟨u, rfl⟩ := iha
    obtain ⟨v, rfl⟩ := ihb
    exact ⟨u ++ v, (List.append_assoc ..).symm⟩
  | left _ ih => exact ih
  | right _ ih => exact ih
  | group _ ih => exact ih
  | textEnd => exact ⟨[], rfl⟩
  | lineEnd => exact ⟨[], rfl⟩

/-! ### What is captured -/

/-- A group begins in the text `s`, and what it holds matches `p`. -/
def Holds (s : List Char) (span : Span) (p : Pattern) : Prop :=
  (∃ u, s = u ++ span.start) ∧ ∃ g, Matches p span.start g span.stop

lemma Holds.append {span : Span} {p : Pattern} (h : Holds s span p) (u : List Char) :
    Holds (u ++ s) span p := by
  obtain ⟨⟨v, rfl⟩, hm⟩ := h
  exact ⟨⟨u ++ v, (List.append_assoc ..).symm⟩, hm⟩

lemma Matches.holds (h : Matches a s g r) (hf : a.flat = true) :
    List.Forall₂ (Holds s) g a.captures := by
  induction h with
  | seq ha hb iha ihb =>
    obtain ⟨hfa, hfb⟩ := (Bool.and_eq_true _ _).mp hf
    obtain ⟨u, rfl⟩ := ha.exists_append
    exact List.rel_append (iha hfa) ((ihb hfb).imp fun _ _ h => h.append u)
  | left _ ih =>
    obtain ⟨hf, he⟩ := (Bool.and_eq_true _ _).mp hf
    have ih := ih ((Bool.and_eq_true _ _).mp hf).1
    rwa [List.isEmpty_iff.1 ((Bool.and_eq_true _ _).mp he).1] at ih
  | right _ ih =>
    obtain ⟨hf, he⟩ := (Bool.and_eq_true _ _).mp hf
    have ih := ih ((Bool.and_eq_true _ _).mp hf).2
    rwa [List.isEmpty_iff.1 ((Bool.and_eq_true _ _).mp he).2] at ih
  | group hm ih => exact List.rel_append (ih hf) (.cons ⟨⟨[], rfl⟩, _, hm⟩ .nil)
  | _ => exact .nil

/-- The word `v` stands in the text `w` and is matched by `p`, whatever follows it there. -/
def Captured (w v : String) (p : Pattern) : Prop :=
  Text.mentions w v = true ∧ ∃ g r, Matches p (v.toList ++ r) g r

lemma captured_of_holds {w : String} {span : Span} {p : Pattern}
    (h : Holds w.toList span p) : Captured w span.text p := by
  obtain ⟨⟨u, hu⟩, g, hm⟩ := h
  obtain ⟨v, hv⟩ := hm.exists_append
  have ht : span.text.toList = v := by
    obtain ⟨start, stop⟩ := span
    obtain rfl : start = v ++ stop := hv
    simp [Span.text]
  refine ⟨Text.mentions_iff.2 ⟨u, span.stop, ?_⟩, g, span.stop, ?_⟩
  · rw [hu, ht, hv]
  · rwa [ht, ← hv]

lemma Matches.captured {w : String} {u : List Char} (h : Matches a s g r)
    (hs : w.toList = u ++ s) (hf : a.flat = true) :
    List.Forall₂ (Captured w) (g.map Span.text) a.captures := by
  rw [List.forall₂_map_left_iff]
  exact (h.holds hf).imp fun span p hh => captured_of_holds (hs ▸ hh.append u)

/-- The texts that a pattern reads are captured by its groups. -/
theorem captured_of_read {w : String} {l : List String} (h : a.read w = some l)
    (hf : a.flat = true) : List.Forall₂ (Captured w) l a.captures := by
  obtain ⟨gs, hgs, rfl⟩ := Option.map_eq_some_iff.1 h
  obtain ⟨u, s, r, hs, hm⟩ := leftmost_sound hgs
  exact hm.captured hs hf

/-- The matches at all places are the ones tried first at each place. -/
lemma mem_everywhere_iff : g ∈ a.everywhere s ↔ ∃ t, t <:+ s ∧ a.atFront t = some g := by
  induction s with
  | nil => simp [everywhere]
  | cons c s ih =>
    simp only [List.suffix_cons_iff, or_and_right, exists_or, exists_eq_left, ← ih]
    rw [everywhere]
    split
    next h => rw [h, List.mem_cons, Option.some_inj, eq_comm]
    next h => simp [h]

lemma everywhere_sound (h : g ∈ a.everywhere s) : ∃ u t r, s = u ++ t ∧ Matches a t g r := by
  obtain ⟨t, ⟨u, hu⟩, hf⟩ := mem_everywhere_iff.1 h
  obtain ⟨r, hr⟩ := atFront_sound hf
  exact ⟨u, t, r, hu.symm, hr⟩

/-- The texts that a pattern reads at all places are captured by its first group. -/
theorem captured_of_mem_readAll {w v : String} {p : Pattern} {ps : List Pattern}
    (h : v ∈ a.readAll w) (hf : a.flat = true) (hp : a.captures = p :: ps) : Captured w v p := by
  obtain ⟨gs, hgs, hv⟩ := List.mem_filterMap.1 h
  obtain ⟨u, s, r, hs, hm⟩ := everywhere_sound hgs
  have hc := hm.captured hs hf
  rw [hp] at hc
  obtain ⟨span, rest, hspan, -, he⟩ := List.forall₂_cons_right_iff.1 hc
  cases gs with
  | nil => simp at he
  | cons g gs =>
    obtain ⟨rfl, -⟩ := List.cons.inj he
    obtain rfl := Option.some.inj hv
    exact hspan

end ViewPoints.Pattern
