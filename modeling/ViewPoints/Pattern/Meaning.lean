import ViewPoints.Pattern

/-!
What patterns match, apart from how matches are found. The search finds a match when there is
one, and what it finds is one.
-/

namespace ViewPoints.Pattern

/-- `a` matches at the front of the first text, with these groups, and leaves the second. -/
inductive Matches : Pattern → List Char → List Span → List Char → Prop where
  | empty {s} : Matches empty s [] s
  | exactly {w r} : Matches (exactly w) (w ++ r) [] r
  | one {p c r} (h : p c = true) : Matches (one p) (c :: r) [] r
  | run {p u r} (h : ∀ c ∈ u, p c = true) : Matches (run p) (u ++ r) [] r
  | spare {p u r} (h : ∀ c ∈ u, p c = true) : Matches (spare p) (u ++ r) [] r
  | seq {a b s t r g h} (ha : Matches a s g t) (hb : Matches b t h r) :
    Matches (a ++ b) s (g ++ h) r
  | left {a b s r g} (h : Matches a s g r) : Matches (either a b) s g r
  | right {a b s r g} (h : Matches b s g r) : Matches (either a b) s g r
  | group {a s r g} (h : Matches a s g r) : Matches (group a) s (g ++ [⟨s, r⟩]) r
  | textEnd : Matches textEnd [] [] []
  | lineEnd {s} (h : s = [] ∨ s.head? = some '\n') : Matches lineEnd s [] s

variable {β : Type} {p : Char → Bool}

theorem orElse_eq_some {x y : Option β} {b : β} (h : (x.orElse fun _ => y) = some b) :
    x = some b ∨ y = some b := by
  cases x with
  | none => exact .inr h
  | some => exact .inl h

theorem isSome_orElse {x y : Option β} (h : x.isSome = true ∨ y.isSome = true) :
    (x.orElse fun _ => y).isSome = true := by
  cases x with
  | none => simpa using h
  | some => rfl

/-! ### What is found is a match -/

theorem longest_sound {k : List Char → Option β} {s : List Char} {b : β}
    (h : longest p k s = some b) :
    ∃ u r, s = u ++ r ∧ (∀ c ∈ u, p c = true) ∧ k r = some b := by
  induction s with
  | nil => exact ⟨[], [], rfl, by simp, h⟩
  | cons c s ih =>
    simp only [longest] at h
    split at h
    next hc =>
      rcases orElse_eq_some h with h | h
      · obtain ⟨u, r, rfl, hu, hk⟩ := ih h
        exact ⟨c :: u, r, rfl, by simpa [hc] using hu, hk⟩
      · exact ⟨[], _, rfl, by simp, h⟩
    · exact ⟨[], _, rfl, by simp, h⟩

theorem shortest_sound {k : List Char → Option β} {s : List Char} {b : β}
    (h : shortest p k s = some b) :
    ∃ u r, s = u ++ r ∧ (∀ c ∈ u, p c = true) ∧ k r = some b := by
  induction s with
  | nil => exact ⟨[], [], rfl, by simp, h⟩
  | cons c s ih =>
    rcases orElse_eq_some h with h | h
    · exact ⟨[], _, rfl, by simp, h⟩
    · split at h
      next hc =>
        obtain ⟨u, r, rfl, hu, hk⟩ := ih h
        exact ⟨c :: u, r, rfl, by simpa [hc] using hu, hk⟩
      · simp at h

theorem matching_sound (a : Pattern) {gs : List Span} {s : List Char}
    {k : List Span → List Char → Option β} {b : β} (h : a.matching gs s k = some b) :
    ∃ g r, Matches a s g r ∧ k (gs ++ g) r = some b := by
  induction a generalizing gs s k b with
  | empty => exact ⟨[], s, .empty, by simpa using h⟩
  | exactly w =>
    rw [matching_exactly, Option.bind_eq_some_iff] at h
    obtain ⟨r, hr, hk⟩ := h
    rw [Text.after?_eq_some_iff.1 hr]
    exact ⟨[], r, .exactly, by simpa using hk⟩
  | one p =>
    cases s with
    | nil => simp at h
    | cons c s =>
      rw [matching_one_cons] at h
      split at h
      next hc => exact ⟨[], s, .one hc, by simpa using h⟩
      · simp at h
  | run p =>
    rw [matching_run] at h
    obtain ⟨u, r, rfl, hu, hk⟩ := longest_sound h
    exact ⟨[], r, .run hu, by simpa using hk⟩
  | spare p =>
    rw [matching_spare] at h
    obtain ⟨u, r, rfl, hu, hk⟩ := shortest_sound h
    exact ⟨[], r, .spare hu, by simpa using hk⟩
  | seq c d ihc ihd =>
    change (c ++ d).matching gs s k = some b at h
    rw [matching_append] at h
    obtain ⟨g, t, hc, h⟩ := ihc h
    obtain ⟨g', r, hd, h⟩ := ihd h
    exact ⟨g ++ g', r, .seq hc hd, by simpa using h⟩
  | either c d ihc ihd =>
    rw [matching_either] at h
    rcases orElse_eq_some h with h | h
    · obtain ⟨g, r, hm, hk⟩ := ihc h
      exact ⟨g, r, .left hm, hk⟩
    · obtain ⟨g, r, hm, hk⟩ := ihd h
      exact ⟨g, r, .right hm, hk⟩
  | group c ih =>
    rw [matching_group] at h
    obtain ⟨g, r, hm, hk⟩ := ih h
    exact ⟨g ++ [⟨s, r⟩], r, .group hm, by simpa using hk⟩
  | textEnd =>
    rw [matching_textEnd] at h
    split at h
    next hs =>
      obtain rfl := List.isEmpty_iff.1 hs
      exact ⟨[], [], .textEnd, by simpa using h⟩
    · simp at h
  | lineEnd =>
    rw [matching_lineEnd] at h
    split at h
    next hs => exact ⟨[], s, .lineEnd (by simpa using hs), by simpa using h⟩
    · simp at h

/-! ### A match is found -/

theorem longest_complete {k : List Char → Option β} {u r : List Char}
    (hu : ∀ c ∈ u, p c = true) (hk : (k r).isSome = true) :
    (longest p k (u ++ r)).isSome = true := by
  induction u with
  | nil =>
    cases r with
    | nil => exact hk
    | cons c r =>
      simp only [List.nil_append, longest]
      split
      · exact isSome_orElse (.inr hk)
      · exact hk
  | cons c u ih =>
    simp only [List.mem_cons, forall_eq_or_imp] at hu
    simp only [List.cons_append, longest, hu.1, if_true]
    exact isSome_orElse (.inl (ih hu.2))

theorem shortest_complete {k : List Char → Option β} {u r : List Char}
    (hu : ∀ c ∈ u, p c = true) (hk : (k r).isSome = true) :
    (shortest p k (u ++ r)).isSome = true := by
  induction u with
  | nil =>
    cases r with
    | nil => exact hk
    | cons c r => exact isSome_orElse (.inl hk)
  | cons c u ih =>
    simp only [List.mem_cons, forall_eq_or_imp] at hu
    simp only [List.cons_append, shortest, hu.1, if_true]
    exact isSome_orElse (.inr (ih hu.2))

theorem matching_complete {a : Pattern} {s r : List Char} {g : List Span}
    (h : Matches a s g r) {gs : List Span} {k : List Span → List Char → Option β}
    (hk : (k (gs ++ g) r).isSome = true) : (a.matching gs s k).isSome = true := by
  induction h generalizing gs k with
  | empty => simpa using hk
  | exactly => simpa using hk
  | one h => simpa [h] using hk
  | run h =>
    rw [matching_run]
    exact longest_complete h (by simpa using hk)
  | spare h =>
    rw [matching_spare]
    exact shortest_complete h (by simpa using hk)
  | seq _ _ iha ihb =>
    rw [matching_append]
    exact iha (ihb (by simpa using hk))
  | left _ ih =>
    rw [matching_either]
    exact isSome_orElse (.inl (ih hk))
  | right _ ih =>
    rw [matching_either]
    exact isSome_orElse (.inr (ih hk))
  | group _ ih =>
    rw [matching_group]
    exact ih (by simpa using hk)
  | textEnd => simpa using hk
  | lineEnd h =>
    rw [matching_lineEnd, if_pos (by simpa using h)]
    simpa using hk

/-! ### Searching -/

theorem atFront_sound {a : Pattern} {s : List Char} {gs : List Span}
    (h : a.atFront s = some gs) : ∃ r, Matches a s gs r := by
  obtain ⟨g, r, hm, hg⟩ := matching_sound a h
  simp only [List.nil_append, Option.some.injEq] at hg
  exact ⟨r, hg ▸ hm⟩

theorem isSome_atFront_iff {a : Pattern} {s : List Char} :
    (a.atFront s).isSome = true ↔ ∃ g r, Matches a s g r := by
  constructor
  · intro h
    obtain ⟨gs, hgs⟩ := Option.isSome_iff_exists.1 h
    exact ⟨gs, atFront_sound hgs⟩
  · rintro ⟨g, r, h⟩
    exact matching_complete h rfl

theorem leftmost_sound {a : Pattern} {s : List Char} {gs : List Span}
    (h : a.leftmost s = some gs) : ∃ u t r, s = u ++ t ∧ Matches a t gs r := by
  induction s with
  | nil =>
    obtain ⟨r, hr⟩ := atFront_sound h
    exact ⟨[], [], r, rfl, hr⟩
  | cons c s ih =>
    simp only [leftmost] at h
    split at h
    next gs' hf =>
      obtain rfl := Option.some.inj h
      obtain ⟨r, hr⟩ := atFront_sound hf
      exact ⟨[], c :: s, r, rfl, hr⟩
    next =>
      obtain ⟨u, t, r, rfl, hm⟩ := ih h
      exact ⟨c :: u, t, r, rfl, hm⟩

/-- The search finds something exactly when there is a match somewhere. -/
theorem isSome_leftmost_iff {a : Pattern} {s : List Char} :
    (a.leftmost s).isSome = true ↔ ∃ u t g r, s = u ++ t ∧ Matches a t g r := by
  constructor
  · intro h
    obtain ⟨gs, hgs⟩ := Option.isSome_iff_exists.1 h
    obtain ⟨u, t, r, hs, hm⟩ := leftmost_sound hgs
    exact ⟨u, t, gs, r, hs, hm⟩
  · rintro ⟨u, t, g, r, rfl, hm⟩
    have front : (a.atFront t).isSome = true := isSome_atFront_iff.2 ⟨g, r, hm⟩
    induction u with
    | nil =>
      cases t with
      | nil => exact front
      | cons c t =>
        obtain ⟨gs, hgs⟩ := Option.isSome_iff_exists.1 front
        simp [leftmost, hgs]
    | cons c u ih =>
      simp only [List.cons_append, leftmost]
      split
      · rfl
      · exact ih

end ViewPoints.Pattern
