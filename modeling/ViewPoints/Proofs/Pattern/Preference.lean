import ViewPoints.Proofs.Pattern.Captures

/-!
The match that the search tries first. What comes behind may refuse it, and then the search goes
on; but where it is accepted it is what is found. Of patterns that follow each other the first
matches are put together from the first matches of each, except behind a sparing run, which is
taken farther as long as nothing behind it matches.
-/

namespace ViewPoints

/-- A text of characters of a class, at least one. -/
def Text.OfClass (p : Char → Bool) (s : List Char) : Prop := s ≠ [] ∧ ∀ c ∈ s, p c = true

instance {p : Char → Bool} {s : List Char} : Decidable (Text.OfClass p s) :=
  decidable_of_iff ((!s.isEmpty && s.all p) = true) (by simp [Text.OfClass])

lemma Text.OfClass.exists_head {p : Char → Bool} {s : List Char} (h : Text.OfClass p s) :
    ∃ c, s.head? = some c ∧ p c = true := by
  cases s with
  | nil => exact absurd rfl h.1
  | cons c s => exact ⟨c, rfl, h.2 c List.mem_cons_self⟩

lemma Text.OfClass.any_head {p : Char → Bool} {s : List Char} (h : Text.OfClass p s)
    (t : List Char) : (s ++ t).head?.any p = true := by
  obtain ⟨c, hc, hp⟩ := h.exists_head
  rw [List.head?_append, hc]
  exact hp

lemma Text.OfClass.mono {p q : Char → Bool} {s : List Char} (h : Text.OfClass p s)
    (hpq : ∀ c, p c = true → q c = true) : Text.OfClass q s :=
  ⟨h.1, fun c hc => hpq c (h.2 c hc)⟩

lemma Text.OfClass.not_mem {p : Char → Bool} {s : List Char} (h : Text.OfClass p s) {c : Char}
    (hc : p c = false) : c ∉ s :=
  fun hs => by simp [h.2 c hs] at hc

lemma Text.isBlank_of_isSolid {c : Char} (h : isSolid c = true) : isBlank c = false := by
  simpa [isSolid] using h

namespace Pattern

/-- At the front of `s` the search tries the match with the groups `g` and the rest `r` first. -/
def Prefers (a : Pattern) (s : List Char) (g : List Span) (r : List Char) : Prop :=
  ∀ (β : Type) (gs : List Span) (k : List Span → List Char → Option β) (b : β),
    k (gs ++ g) r = some b → a.matching gs s k = some b

/-- No match of `a` begins in `u`, where `t` follows it. -/
def Skips (a : Pattern) (u t : List Char) : Prop :=
  ∀ v w, u = v ++ w → w ≠ [] → ∀ g r, ¬ Matches a (w ++ t) g r

variable {a b c : Pattern} {p : Char → Bool} {s t r u : List Char} {g h : List Span}

/-- What is tried first is a match. -/
lemma Prefers.matches (ha : Prefers a s g r) : Matches a s g r := by
  obtain ⟨g', r', hm, he⟩ := matching_sound a (ha _ [] (fun gs r => some (gs, r)) (g, r) rfl)
  obtain ⟨rfl, rfl⟩ := Prod.mk.inj (Option.some.inj he)
  exact hm

lemma Prefers.atFront (ha : Prefers a s g r) : a.atFront s = some g := ha _ [] _ g rfl

/-! ### Patterns without a choice -/

lemma prefers_lit (w : String) (r : List Char) : Prefers (lit w) (w.toList ++ r) [] r := by
  intro β gs k b hk
  rw [List.append_nil] at hk
  rw [lit, matching_exactly, Text.after?_append, Option.bind_some, hk]

lemma prefers_one {x : Char} (hx : p x = true) (r : List Char) : Prefers (one p) (x :: r) [] r := by
  intro β gs k b hk
  rw [List.append_nil] at hk
  rw [matching_one_cons, if_pos hx, hk]

lemma prefers_textEnd : Prefers textEnd [] [] [] := by
  intro β gs k b hk
  rw [List.append_nil] at hk
  rw [matching_textEnd]
  exact hk

lemma Prefers.append (ha : Prefers a s g t) (hb : Prefers b t h r) :
    Prefers (a ++ b) s (g ++ h) r := by
  intro β gs k x hk
  rw [matching_append]
  refine ha β gs _ x (hb β (gs ++ g) k x ?_)
  rwa [List.append_assoc]

lemma Prefers.assoc (hp : Prefers (a ++ (b ++ c)) s g r) : Prefers ((a ++ b) ++ c) s g r := by
  intro β gs k x hk
  have hx := hp β gs k x hk
  rw [matching_append] at hx
  rw [matching_append, matching_append]
  simpa only [matching_append] using hx

lemma Prefers.group (ha : Prefers a s g r) : Prefers (group a) s (g ++ [⟨s, r⟩]) r := by
  intro β gs k x hk
  rw [matching_group]
  exact ha β gs _ x (by rwa [List.append_assoc])

/-! ### Alternatives -/

lemma matching_eq_none (ha : ∀ g r, ¬ Matches a s g r) {β : Type} (gs : List Span)
    (k : List Span → List Char → Option β) : a.matching gs s k = none := by
  cases hx : a.matching gs s k with
  | none => rfl
  | some x =>
    obtain ⟨g, r, hm, -⟩ := matching_sound a hx
    exact absurd hm (ha g r)

lemma Prefers.left (ha : Prefers a s g r) : Prefers (either a b) s g r := by
  intro β gs k x hk
  rw [matching_either, ha β gs k x hk]
  rfl

lemma Prefers.right (ha : ∀ g r, ¬ Matches a s g r) (hb : Prefers b s g r) :
    Prefers (either a b) s g r := by
  intro β gs k x hk
  rw [matching_either, matching_eq_none ha, hb β gs k x hk]
  rfl

/-! ### Runs -/

/-- A run takes all that it can. -/
lemma prefers_run (hu : ∀ x ∈ u, p x = true) (hr : ∀ x ∈ r.head?, p x = false) :
    Prefers (run p) (u ++ r) [] r := by
  intro β gs k b hk
  rw [List.append_nil] at hk
  rw [matching_run]
  induction u with
  | nil =>
    cases r with
    | nil => exact hk
    | cons x r => rwa [List.nil_append, longest, if_neg (by simpa using hr)]
  | cons x u ih =>
    obtain ⟨hx, hu⟩ := List.forall_mem_cons.1 hu
    rw [List.cons_append, longest, if_pos hx, ih hu]
    rfl

lemma prefers_many (hu : Text.OfClass p u) (hr : ∀ x ∈ r.head?, p x = false) :
    Prefers (many p) (u ++ r) [] r := by
  cases u with
  | nil => exact absurd rfl hu.1
  | cons x u =>
    obtain ⟨hx, hu⟩ := List.forall_mem_cons.1 hu.2
    exact (prefers_one hx _).append (prefers_run hu hr)

/-- Blanks go no farther than a text that begins with something else. -/
lemma prefers_blanks {x : Char} (hu : Text.OfClass Text.isBlank u) (hr : r.head? = some x)
    (hx : Text.isBlank x = false) : Prefers blanks (u ++ r) [] r := by
  refine prefers_many hu fun y hy => ?_
  rw [hr] at hy
  rwa [← Option.some.inj hy]

lemma matches_run_iff :
    Matches (run p) s g r ↔ g = [] ∧ ∃ u, (∀ x ∈ u, p x = true) ∧ s = u ++ r := by
  constructor
  · intro h
    cases h with
    | @run _ u _ hu => exact ⟨rfl, u, hu, rfl⟩
  · rintro ⟨rfl, u, hu, rfl⟩
    exact .run hu

lemma matches_many_iff :
    Matches (many p) s g r ↔ g = [] ∧ ∃ u, Text.OfClass p u ∧ s = u ++ r := by
  rw [many, matches_append_iff]
  constructor
  · rintro ⟨t, g₁, g₂, h₁, h₂, rfl⟩
    obtain ⟨x, hx, rfl, rfl⟩ := matches_one_iff.1 h₁
    obtain ⟨rfl, u, hu, rfl⟩ := matches_run_iff.1 h₂
    exact ⟨rfl, x :: u, ⟨List.cons_ne_nil _ _, List.forall_mem_cons.2 ⟨hx, hu⟩⟩, rfl⟩
  · rintro ⟨rfl, u, ⟨hne, hu⟩, rfl⟩
    cases u with
    | nil => exact absurd rfl hne
    | cons x u =>
      obtain ⟨hx, hu⟩ := List.forall_mem_cons.1 hu
      exact ⟨u ++ r, [], [], .one hx, .run hu, rfl⟩

/-! A pattern that goes on with a word, with characters of a class, or with a group of them. -/

lemma matches_append_lit_iff {w : String} :
    Matches (a ++ lit w) s g r ↔ Matches a s g (w.toList ++ r) := by
  rw [matches_append_iff]
  constructor
  · rintro ⟨t, g, h, ha, hw, rfl⟩
    obtain ⟨rfl, rfl⟩ := matches_lit_iff.1 hw
    rwa [List.append_nil]
  · exact fun h => ⟨_, g, [], h, .exactly, (List.append_nil g).symm⟩

lemma matches_append_many_iff :
    Matches (a ++ many p) s g r ↔ ∃ u, Text.OfClass p u ∧ Matches a s g (u ++ r) := by
  rw [matches_append_iff]
  constructor
  · rintro ⟨t, g, h, ha, hm, rfl⟩
    obtain ⟨rfl, u, hu, rfl⟩ := matches_many_iff.1 hm
    exact ⟨u, hu, by rwa [List.append_nil]⟩
  · rintro ⟨u, hu, ha⟩
    exact ⟨_, g, [], ha, matches_many_iff.2 ⟨rfl, u, hu, rfl⟩, (List.append_nil g).symm⟩

lemma matches_append_group_iff :
    Matches (a ++ group (many p)) s g r ↔ ∃ w : String, Text.OfClass p w.toList ∧
      ∃ h, Matches a s h (w.toList ++ r) ∧ g = h ++ [⟨w.toList ++ r, r⟩] := by
  simp only [matches_append_iff, matches_group_iff, matches_many_iff]
  constructor
  · rintro ⟨_, h, _, ha, ⟨_, ⟨rfl, u, hu, rfl⟩, rfl⟩, rfl⟩
    exact ⟨.ofList u, by simpa, h, by simpa, by simp⟩
  · rintro ⟨w, hw, h, ha, rfl⟩
    exact ⟨_, h, _, ha, ⟨[], ⟨rfl, _, hw, rfl⟩, rfl⟩, rfl⟩

/-- A sparing run matches what a run matches, in another order. -/
lemma matches_append_group_few_iff :
    Matches (a ++ group (few p)) s g r ↔ Matches (a ++ group (many p)) s g r := by
  have hspare {s r : List Char} {g : List Span} :
      Matches (Pattern.spare p) s g r ↔ Matches (run p) s g r := by
    constructor
    · intro h
      cases h with
      | spare hu => exact .run hu
    · intro h
      cases h with
      | run hu => exact .spare hu
  simp only [few, many, matches_append_iff, matches_group_iff, hspare]

lemma Matches.lit (w : String) (h : Matches a s g (w.toList ++ r)) :
    Matches (a ++ Pattern.lit w) s g r :=
  matches_append_lit_iff.2 h

lemma Matches.many {w : String} (h : Matches a s g (w.toList ++ r)) (hw : Text.OfClass p w.toList) :
    Matches (a ++ Pattern.group (Pattern.many p)) s (g ++ [⟨w.toList ++ r, r⟩]) r :=
  matches_append_group_iff.2 ⟨w, hw, g, h, rfl⟩

lemma Matches.few {w : String} (h : Matches a s g (w.toList ++ r)) (hw : Text.OfClass p w.toList) :
    Matches (a ++ Pattern.group (Pattern.few p)) s (g ++ [⟨w.toList ++ r, r⟩]) r :=
  matches_append_group_few_iff.2 (h.many hw)

lemma matches_append_textEnd_iff :
    Matches (a ++ textEnd) s g r ↔ r = [] ∧ Matches a s g [] := by
  rw [matches_append_iff]
  constructor
  · rintro ⟨t, g, h, ha, he, rfl⟩
    cases he
    exact ⟨rfl, by rwa [List.append_nil]⟩
  · rintro ⟨rfl, ha⟩
    exact ⟨[], g, [], ha, .textEnd, (List.append_nil g).symm⟩

/-- A run is given back down to the last place that is accepted. -/
lemma longest_eq_some {β : Type} {k : List Char → Option β} {b : β} (hu : ∀ x ∈ u, p x = true)
    (hn : ∀ v w, t = v ++ w → v ≠ [] → (∀ x ∈ v, p x = true) → k w = none) (hk : k t = some b) :
    longest p k (u ++ t) = some b := by
  have refused {x : Char} {t : List Char} (hx : p x = true)
      (hn : ∀ v w, x :: t = v ++ w → v ≠ [] → (∀ x ∈ v, p x = true) → k w = none) :
      longest p k t = none := by
    induction t generalizing x with
    | nil => exact hn [x] [] rfl (List.cons_ne_nil _ _) (by simpa using hx)
    | cons y t ih =>
      have hfront : k (y :: t) = none :=
        hn [x] (y :: t) rfl (List.cons_ne_nil _ _) (by simpa using hx)
      rw [longest, hfront]
      split_ifs with hy
      · rw [ih hy fun v w he hne hv => hn (x :: v) w (by simp [he]) (List.cons_ne_nil _ _)
          (List.forall_mem_cons.2 ⟨hx, hv⟩)]
        rfl
      · rfl
  induction u with
  | nil =>
    cases t with
    | nil => exact hk
    | cons x t =>
      rw [List.nil_append, longest]
      split_ifs with hx
      · rw [refused hx hn, hk]
        rfl
      · exact hk
  | cons x u ih =>
    obtain ⟨hx, hu⟩ := List.forall_mem_cons.1 hu
    rw [List.cons_append, longest, if_pos hx, ih hu]
    rfl

/-- A run of at least one, as a group, goes on up to the last place where what follows it can be. -/
lemma Prefers.back {w : List Char} (hw : Text.OfClass p w)
    (hn : ∀ u v, t = u ++ v → u ≠ [] → (∀ x ∈ u, p x = true) → ∀ g r, ¬ Matches b v g r)
    (hb : Prefers b t g r) :
    Prefers (Pattern.group (many p) ++ b) (w ++ t) (⟨w ++ t, t⟩ :: g) r := by
  intro β gs k x hk
  obtain ⟨hne, hw⟩ := hw
  cases w with
  | nil => exact absurd rfl hne
  | cons y w =>
    obtain ⟨hy, hw⟩ := List.forall_mem_cons.1 hw
    rw [matching_append, matching_group, many, matching_append, List.cons_append,
      matching_one_cons, if_pos hy, matching_run]
    refine longest_eq_some hw (fun u v he hu hp => matching_eq_none (hn u v he hu hp) ..) ?_
    exact hb β _ k x (by rwa [List.append_assoc])

/-- A sparing run is taken up to the first place that is accepted. -/
lemma shortest_eq_some {β : Type} {k : List Char → Option β} {b : β} (hu : ∀ x ∈ u, p x = true)
    (hn : ∀ v w, u = v ++ w → w ≠ [] → k (w ++ t) = none) (hk : k t = some b) :
    shortest p k (u ++ t) = some b := by
  induction u with
  | nil =>
    cases t with
    | nil => exact hk
    | cons x t => rw [List.nil_append, shortest, hk]; rfl
  | cons x u ih =>
    obtain ⟨hx, hu⟩ := List.forall_mem_cons.1 hu
    have hfront := hn [] (x :: u) rfl (List.cons_ne_nil _ _)
    rw [List.cons_append] at hfront ⊢
    rw [shortest, hfront, if_pos hx]
    exact ih hu fun v w he => hn (x :: v) w (congrArg _ he)

lemma Prefers.spare (hu : ∀ x ∈ u, p x = true) (hs : Skips b u t) (hb : Prefers b t g r) :
    Prefers (spare p ++ b) (u ++ t) g r := by
  intro β gs k x hk
  rw [matching_append, matching_spare]
  exact shortest_eq_some hu (fun v w he hw => matching_eq_none (hs v w he hw) ..) (hb β gs k x hk)

/-- A sparing run of at least one, as a group. -/
lemma Prefers.few {y : Char} (hy : p y = true) (hu : ∀ x ∈ u, p x = true) (hs : Skips b u t)
    (hb : Prefers b t g r) :
    Prefers (Pattern.group (few p) ++ b) (y :: u ++ t) (⟨y :: u ++ t, t⟩ :: g) r := by
  intro β gs k x hk
  rw [matching_append, matching_group, Pattern.few, matching_append, List.cons_append,
    matching_one_cons, if_pos hy, matching_spare]
  refine shortest_eq_some hu (fun v w he hw => matching_eq_none (hs v w he hw) ..) ?_
  exact hb β _ k x (by rwa [List.append_assoc])

/-! ### Any pattern -/

lemma exists_rests (p : Char → Bool) (s : List Char) : ∃ l : List (List Char),
    ∀ (β : Type) (k : List Char → Option β), longest p k s = l.findSome? k ∧
      shortest p k s = l.reverse.findSome? k := by
  induction s with
  | nil => exact ⟨[[]], fun β k => by cases h : k [] <;> simp [longest, shortest, h]⟩
  | cons x s ih =>
    obtain ⟨l, hl⟩ := ih
    by_cases hx : p x = true
    · refine ⟨l ++ [x :: s], fun β k => ?_⟩
      obtain ⟨hlong, hshort⟩ := hl β k
      cases h : k (x :: s) <;>
        simp [longest, shortest, hx, hlong, hshort, h, List.findSome?_append, Option.orElse_eq_or]
    · refine ⟨[x :: s], fun β k => ?_⟩
      cases h : k (x :: s) <;> simp [longest, shortest, hx, h]

lemma findSome?_flatMap {α β γ : Type} (l : List α) (f : α → List β) (k : β → Option γ) :
    (l.flatMap f).findSome? k = l.findSome? fun x => (f x).findSome? k := by
  induction l with
  | nil => rfl
  | cons x l ih =>
    rw [List.flatMap_cons, List.findSome?_append, ih, List.findSome?_cons]
    cases (f x).findSome? k <;> rfl

/-- The search tries the matches at the front of a text in an order. -/
lemma exists_order (a : Pattern) (s : List Char) : ∃ l : List (List Span × List Char),
    ∀ (β : Type) (gs : List Span) (k : List Span → List Char → Option β),
      a.matching gs s k = l.findSome? fun x => k (gs ++ x.1) x.2 := by
  induction a generalizing s with
  | empty => exact ⟨[([], s)], fun β gs k => by simp⟩
  | exactly w =>
    refine ⟨((Text.after? w s).map fun r => ([], r)).toList, fun β gs k => ?_⟩
    cases h : Text.after? w s <;> simp [h]
  | one p =>
    cases s with
    | nil => exact ⟨[], fun β gs k => rfl⟩
    | cons x s =>
      refine ⟨if p x = true then [([], s)] else [], fun β gs k => ?_⟩
      by_cases hx : p x = true <;> simp [hx]
  | run p =>
    obtain ⟨l, hl⟩ := exists_rests p s
    exact ⟨l.map fun r => ([], r), fun β gs k => by
      simp [(hl β (k gs)).1, List.findSome?_map, Function.comp_def]⟩
  | spare p =>
    obtain ⟨l, hl⟩ := exists_rests p s
    exact ⟨l.reverse.map fun r => ([], r), fun β gs k => by
      rw [matching_spare, (hl β (k gs)).2, List.findSome?_map]
      simp [Function.comp_def]⟩
  | seq a b iha ihb =>
    obtain ⟨l, hl⟩ := iha s
    choose m hm using ihb
    refine ⟨l.flatMap fun x => (m x.2).map fun y => (x.1 ++ y.1, y.2), fun β gs k => ?_⟩
    change (a ++ b).matching gs s k = _
    rw [matching_append, hl, findSome?_flatMap]
    simp only [hm, List.findSome?_map, Function.comp_def, List.append_assoc]
  | either a b iha ihb =>
    obtain ⟨l, hl⟩ := iha s
    obtain ⟨m, hm⟩ := ihb s
    refine ⟨l ++ m, fun β gs k => ?_⟩
    rw [matching_either, hl, hm, List.findSome?_append, Option.orElse_eq_or]
  | group a ih =>
    obtain ⟨l, hl⟩ := ih s
    refine ⟨l.map fun x => (x.1 ++ [⟨s, x.2⟩], x.2), fun β gs k => ?_⟩
    rw [matching_group, hl, List.findSome?_map]
    simp [Function.comp_def]
  | textEnd =>
    refine ⟨if s.isEmpty then [([], s)] else [], fun β gs k => ?_⟩
    by_cases hs : s.isEmpty <;> simp [hs]
  | lineEnd =>
    refine ⟨if s.isEmpty || s.head? == some '\n' then [([], s)] else [], fun β gs k => ?_⟩
    rw [matching_lineEnd]
    split <;> simp

/-- Where a pattern matches, there is a match that is tried first. -/
lemma Matches.exists_prefers (h : Matches a s g r) : ∃ g r, Prefers a s g r := by
  obtain ⟨l, hl⟩ := exists_order a s
  have hs : (a.matching [] s fun gs r => some (gs, r)).isSome = true := matching_complete h rfl
  rw [hl] at hs
  cases l with
  | nil => simp at hs
  | cons x l => exact ⟨x.1, x.2, fun β gs k b hk => by rw [hl, List.findSome?_cons, hk]⟩

end Pattern

end ViewPoints
