import ViewPoints.Proofs.Pattern.Preference
import ViewPoints.Proofs.Text.Digits

/-!
Where a search does not find anything. Every match begins with characters of known classes, and
where the characters of a text fall out of these classes no match begins, whatever follows. So the
search passes over the parts of a text that are known until it meets its match.
-/

namespace ViewPoints.Pattern

/-- Whether all matches are as long as the pattern tells. -/
def rigid : Pattern → Bool
  | empty => true
  | exactly _ => true
  | one _ => true
  | seq a b => a.rigid && b.rigid
  | group a => a.rigid
  | _ => false

/-- The classes of the characters with which every match begins. -/
def opening : Pattern → List (Char → Bool)
  | exactly w => w.map fun c d => c == d
  | one p => [p]
  | seq a b => if a.rigid then a.opening ++ b.opening else a.opening
  | group a => a.opening
  | _ => []

/-- Whether some character of the text is not of the class that it should be of. -/
def clashes : List (Char → Bool) → List Char → Bool
  | p :: ps, c :: s => !p c || clashes ps s
  | _, _ => false

/-- Whether at each place of the text what is left of it clashes. -/
def avoids (ps : List (Char → Bool)) : List Char → Bool
  | [] => true
  | c :: s => clashes ps (c :: s) && avoids ps s

variable {a : Pattern} {p : Char → Bool} {ps : List (Char → Bool)} {s t r u v : List Char}
  {g : List Span}

/-! ### Openings -/

lemma Matches.opening (h : Matches a s g r) : ∃ u t, s = u ++ t ∧
    List.Forall₂ (fun p c => p c = true) a.opening u ∧ (a.rigid = true → t = r) := by
  induction h with
  | empty => exact ⟨[], _, rfl, .nil, fun _ => rfl⟩
  | @exactly w r =>
    refine ⟨w, r, rfl, ?_, fun _ => rfl⟩
    rw [Pattern.opening, List.forall₂_map_left_iff]
    exact List.forall₂_same.2 fun c _ => beq_self_eq_true c
  | @one p c r h => exact ⟨[c], r, rfl, .cons h .nil, fun _ => rfl⟩
  | run => exact ⟨[], _, rfl, .nil, by simp [rigid]⟩
  | spare => exact ⟨[], _, rfl, .nil, by simp [rigid]⟩
  | @seq a b _ _ _ _ _ _ _ iha ihb =>
    obtain ⟨u, t, rfl, hu, hr⟩ := iha
    change ∃ v t', u ++ t = v ++ t' ∧ List.Forall₂ _ (if a.rigid = true then _ else _) v ∧
      ((a.rigid && b.rigid) = true → t' = _)
    by_cases ha : a.rigid = true
    · obtain rfl := hr ha
      obtain ⟨v, t', rfl, hv, hr'⟩ := ihb
      refine ⟨u ++ v, t', (List.append_assoc ..).symm, ?_, fun h => hr' ?_⟩
      · rw [if_pos ha]
        exact List.rel_append hu hv
      · exact ((Bool.and_eq_true _ _).mp h).2
    · refine ⟨u, t, rfl, ?_, fun h => absurd ((Bool.and_eq_true _ _).mp h).1 ha⟩
      rwa [if_neg ha]
  | left => exact ⟨[], _, rfl, .nil, by simp [rigid]⟩
  | right => exact ⟨[], _, rfl, .nil, by simp [rigid]⟩
  | group _ ih => exact ih
  | textEnd => exact ⟨[], [], rfl, .nil, by simp [rigid]⟩
  | lineEnd => exact ⟨[], _, rfl, .nil, by simp [rigid]⟩

lemma not_clashes_of_forall₂ {w : List Char} (hw : List.Forall₂ (fun p c => p c = true) ps w)
    (he : s ++ t = w ++ r) : clashes ps s = false := by
  induction hw generalizing s with
  | nil => cases s <;> rfl
  | @cons p c ps w hc _ ih =>
    cases s with
    | nil => rfl
    | cons d s =>
      obtain ⟨rfl, he'⟩ := List.cons.inj he
      rw [clashes, hc, ih he']
      rfl

lemma Matches.not_clashes (h : Matches a (s ++ t) g r) : clashes a.opening s = false := by
  obtain ⟨w, t', he, hw, -⟩ := h.opening
  exact not_clashes_of_forall₂ hw he

/-! ### Parts of a text in which nothing begins -/

lemma clashes_append (hs : clashes ps s = true) (t : List Char) : clashes ps (s ++ t) = true := by
  induction ps generalizing s with
  | nil => cases s <;> simp [clashes] at hs
  | cons p ps ih =>
    cases s with
    | nil => simp [clashes] at hs
    | cons c s =>
      rw [clashes, Bool.or_eq_true] at hs
      rw [List.cons_append, clashes, Bool.or_eq_true]
      exact hs.imp_right ih

lemma avoids_append (hu : avoids ps u = true) (hv : avoids ps v = true) :
    avoids ps (u ++ v) = true := by
  induction u with
  | nil => exact hv
  | cons c u ih =>
    rw [avoids, Bool.and_eq_true] at hu
    rw [List.cons_append, avoids, Bool.and_eq_true]
    exact ⟨clashes_append hu.1 v, ih hu.2⟩

lemma avoids_flatMap {l : List String} (h : ∀ w ∈ l, avoids ps w.toList = true) :
    avoids ps (l.flatMap String.toList) = true := by
  induction l with
  | nil => rfl
  | cons w l ih =>
    rw [List.forall_mem_cons] at h
    rw [List.flatMap_cons]
    exact avoids_append h.1 (ih h.2)

lemma avoids_of_head (hu : ∀ c ∈ u, p c = false) : avoids (p :: ps) u = true := by
  induction u with
  | nil => rfl
  | cons c u ih =>
    obtain ⟨hc, hu⟩ := List.forall_mem_cons.1 hu
    rw [avoids, clashes, hc, ih hu]
    rfl

lemma beq_eq_false_of_class {c d : Char} (hc : p c = false) (hd : p d = true) :
    (c == d) = false := by
  rw [beq_eq_false_iff_ne]
  rintro rfl
  rw [hc] at hd
  simp at hd

/-- A text of a class to which the first character of every match does not belong. -/
lemma avoids_of_class {c : Char} (hc : p c = false) (hu : ∀ d ∈ u, p d = true) :
    avoids ((fun d => c == d) :: ps) u = true :=
  avoids_of_head fun d hd => beq_eq_false_of_class hc (hu d hd)

/-- A text of a class to which the first character of a word does not belong. -/
lemma avoids_word {w : String} (hw : w.toList.head?.any (fun c => !p c) = true)
    (hu : ∀ c ∈ u, p c = true) : avoids (lit w).opening u = true := by
  cases hl : w.toList with
  | nil => simp [hl] at hw
  | cons c l =>
    rw [hl] at hw
    rw [lit, hl]
    exact avoids_of_class (by simpa using hw) hu

/-- A character behind which there comes what cannot be second. -/
lemma avoids_cons {q : Char → Bool} {c : Char} (hv : ∃ d, v.head? = some d ∧ q d = false)
    (h : avoids (p :: q :: ps) v = true) : avoids (p :: q :: ps) (c :: v) = true := by
  obtain ⟨d, hd, hq⟩ := hv
  cases v with
  | nil => simp at hd
  | cons e v =>
    obtain rfl := Option.some.inj hd
    rw [avoids, h, clashes, clashes, hq]
    simp

lemma skips_of_avoids (h : avoids a.opening u = true) (t : List Char) : Skips a u t := by
  intro v w he hw g r hm
  subst he
  cases w with
  | nil => exact hw rfl
  | cons c w =>
    have hv : avoids a.opening (c :: w) = true := by
      clear hm
      induction v with
      | nil => exact h
      | cons d v ih =>
        rw [List.cons_append, avoids, Bool.and_eq_true] at h
        exact ih h.2
    rw [avoids, hm.not_clashes] at hv
    simp at hv

lemma Skips.append (hu : Skips a u (v ++ t)) (hv : Skips a v t) : Skips a (u ++ v) t := by
  intro x w he hw g r hm
  rcases List.append_eq_append_iff.1 he with ⟨x', rfl, rfl⟩ | ⟨u', rfl, rfl⟩
  · exact hv x' w rfl hw g r hm
  · cases u' with
    | nil => exact hv [] v rfl (by simpa using hw) g r hm
    | cons c u' =>
      rw [List.append_assoc] at hm
      exact hu x (c :: u') rfl (List.cons_ne_nil _ _) g r hm

/-- Where the first part of a pattern does not begin, neither does the whole. -/
lemma Skips.seq (h : Skips a u t) (b : Pattern) : Skips (a ++ b) u t := by
  intro v w he hne g r hm
  obtain ⟨_, _, _, ha, -, -⟩ := matches_append_iff.1 hm
  exact h v w he hne _ _ ha

lemma Skips.tail {c : Char} (h : Skips a (c :: u) t) : Skips a u t :=
  fun v w he => h (c :: v) w (congrArg _ he)

lemma Skips.atFront {c : Char} (h : Skips a (c :: u) t) : a.atFront (c :: u ++ t) = none :=
  matching_eq_none (h [] (c :: u) rfl (List.cons_ne_nil _ _)) ..

lemma skips_singleton {c : Char} (h : ∀ g r, ¬ Matches a (c :: t) g r) : Skips a [c] t := by
  intro v w he hw g r hm
  cases v with
  | nil =>
    subst he
    exact h g r hm
  | cons d v => simp_all

/-! ### Searches -/

/-- A word that begins with a character that it does not hold again does not begin in a text in
which it does not stand, where it follows the text itself. -/
lemma skips_lit_append {w v : String} {x : Char} {m : List Char} (hw : w.toList = x :: m)
    (hx : x ∉ m) (hv : Text.mentions v w = false) (b : Pattern) (r : List Char) :
    Skips (lit w ++ b) v.toList (w.toList ++ r) := by
  intro u e he hne g r' hm
  obtain ⟨_, _, _, hl, -, -⟩ := matches_append_iff.1 hm
  obtain ⟨-, hl⟩ := matches_lit_iff.1 hl
  have absent {q : List Char} (h : e = w.toList ++ q) : False := by
    rw [Text.mentions_iff.2 ⟨u, q, by rw [he, h]⟩] at hv
    simp at hv
  rcases List.append_eq_append_iff.1 hl with ⟨w', hw', hr⟩ | ⟨e', rfl, -⟩
  · cases w' with
    | nil => exact absent (q := []) (by simp [hw'])
    | cons y w' =>
      -- the word behind the text would begin inside the other one
      cases e with
      | nil => exact hne rfl
      | cons z e =>
        rw [hw] at hr hw'
        obtain rfl : x = y := (List.cons.inj hr).1
        have hm : x ∈ m := by simp [(List.cons.inj hw').2]
        exact hx hm
  · exact absent rfl

/-- A phrase of which the first word ends with a blank does not begin in a word behind whose blank
it does not go on. -/
lemma skips_word {w : String} {m n : List Char} {x y : Char} (hw : w.toList = m ++ (' ' :: x :: n))
    (hm : ∀ c ∈ m, Text.isSolid c = true) (hu : ∀ c ∈ u, Text.isSolid c = true) (hxy : x ≠ y)
    (r : List Char) : Skips (lit w) u (' ' :: y :: r) := by
  intro v e he _ g r' hl
  obtain ⟨-, hl⟩ := matches_lit_iff.1 hl
  have hspace : ∀ (z : Char) (s : List Char), ∀ c ∈ (' ' :: z :: s).head?,
      Text.isSolid c = false := by
    rintro z s c ⟨⟩
    decide
  have hsolid : ∀ c ∈ e, Text.isSolid c = true := fun c hc => hu c (by simp [he, hc])
  rw [hw, List.append_assoc] at hl
  -- both texts are cut at their first blank
  obtain ⟨-, hrest⟩ := Text.cut_inj hsolid hm (hspace y r) (hspace x (n ++ r')) hl
  exact hxy (List.cons.inj (List.cons.inj hrest).2).1.symm

lemma leftmost_eq_some (h : a.leftmost s = some g) :
    ∃ u t, s = u ++ t ∧ Skips a u t ∧ a.atFront t = some g := by
  have none_at {t : List Char} (hn : a.atFront t = none) : ∀ g r, ¬ Matches a t g r :=
    fun g r hm => by simpa [hn] using isSome_atFront_iff.2 ⟨g, r, hm⟩
  induction s with
  | nil => exact ⟨[], [], rfl, fun v w he hw => absurd (List.append_eq_nil_iff.1 he.symm).2 hw, h⟩
  | cons c s ih =>
    rw [leftmost] at h
    split at h
    next g' hg =>
      refine ⟨[], c :: s, rfl, fun v w he hw => absurd (List.append_eq_nil_iff.1 he.symm).2 hw, ?_⟩
      rw [hg, Option.some.inj h]
    next hn =>
      obtain ⟨u, t, rfl, hs, hg⟩ := ih h
      exact ⟨c :: u, t, rfl, (skips_singleton (none_at hn)).append hs, hg⟩

lemma leftmost_skip (h : Skips a u t) : a.leftmost (u ++ t) = a.leftmost t := by
  induction u with
  | nil => rfl
  | cons c u ih =>
    have hf : a.atFront (c :: (u ++ t)) = none := h.atFront
    rw [List.cons_append, leftmost, hf]
    exact ih h.tail

lemma leftmost_of_prefers (h : Skips a u t) (ha : Prefers a t g r) :
    a.leftmost (u ++ t) = some g := by
  rw [leftmost_skip h]
  cases t with
  | nil => exact ha.atFront
  | cons c t => rw [leftmost, ha.atFront]

/-- Where a match needs a character there is none at the end of the text. -/
lemma atFront_nil (hne : a.opening ≠ []) : a.atFront [] = none := by
  refine matching_eq_none (fun g r hm => hne ?_) ..
  obtain ⟨w, t, he, hw, -⟩ := hm.opening
  obtain ⟨rfl, -⟩ := List.append_eq_nil_iff.1 he.symm
  exact List.forall₂_nil_right_iff.1 hw

lemma leftmost_eq_none (h : avoids a.opening u = true) (hne : a.opening ≠ []) :
    a.leftmost u = none := by
  have hs := leftmost_skip (skips_of_avoids h [])
  rw [List.append_nil] at hs
  rw [hs, leftmost, atFront_nil hne]

lemma everywhere_skip (h : Skips a u t) : a.everywhere (u ++ t) = a.everywhere t := by
  induction u with
  | nil => rfl
  | cons c u ih =>
    have hf : a.atFront (c :: (u ++ t)) = none := h.atFront
    rw [List.cons_append, everywhere, hf]
    exact ih h.tail

lemma everywhere_cons {c : Char} (ha : Prefers a (c :: s) g r) :
    a.everywhere (c :: s) = g :: a.everywhere s := by
  rw [everywhere, ha.atFront]

lemma everywhere_nil (hne : a.opening ≠ []) : a.everywhere [] = [] := by
  rw [everywhere, atFront_nil hne, Option.toList_none]

@[simp] lemma text_append (u r : List Char) : Span.text ⟨u ++ r, r⟩ = .ofList u := by
  rw [Span.text, Span.chars_append]

/-! ### What is read -/

/-- At the front of `s` the match tried first has the groups `l` and leaves `r`. -/
def Reads (a : Pattern) (s : List Char) (l : List String) (r : List Char) : Prop :=
  ∃ g, Prefers a s g r ∧ g.map Span.text = l

variable {b c : Pattern} {l m : List String}

lemma Prefers.reads (h : Prefers a s [] r) : Reads a s [] r := ⟨[], h, rfl⟩

lemma Reads.append (ha : Reads a s l t) (hb : Reads b t m r) : Reads (a ++ b) s (l ++ m) r := by
  obtain ⟨g, hg, rfl⟩ := ha
  obtain ⟨h, hh, rfl⟩ := hb
  exact ⟨g ++ h, hg.append hh, List.map_append⟩

lemma Reads.assoc (h : Reads (a ++ (b ++ c)) s l r) : Reads ((a ++ b) ++ c) s l r := by
  obtain ⟨g, hg, hl⟩ := h
  exact ⟨g, hg.assoc, hl⟩

lemma Prefers.reads_group {w : String} (h : Prefers a (w.toList ++ r) [] r) :
    Reads (Pattern.group a) (w.toList ++ r) [w] r :=
  ⟨_, h.group, by simp⟩

lemma reads_lit (w : String) (r : List Char) : Reads (lit w) (w.toList ++ r) [] r :=
  (prefers_lit w r).reads

lemma reads_blank (r : List Char) : Reads (one Text.isBlank) (' ' :: r) [] r :=
  (prefers_one (by decide) r).reads

/-! What is read in front goes on with a word, with blanks, or with a group. -/

lemma Reads.lit (w : String) (h : Reads a s l (w.toList ++ r)) :
    Reads (a ++ Pattern.lit w) s l r := by
  have hw := h.append (reads_lit w r)
  rwa [List.append_nil] at hw

lemma Reads.textEnd (h : Reads a s l []) : Reads (a ++ Pattern.textEnd) s l [] := by
  have he := h.append prefers_textEnd.reads
  rwa [List.append_nil] at he

lemma Reads.blanks {x : Char} (h : Reads a s l (u ++ r)) (hu : Text.OfClass Text.isBlank u)
    (hr : r.head? = some x) (hx : Text.isBlank x = false := by decide) :
    Reads (a ++ Pattern.blanks) s l r := by
  have hu := h.append (prefers_blanks hu hr hx).reads
  rwa [List.append_nil] at hu

lemma Reads.space {x : Char} (h : Reads a s l (' ' :: r)) (hr : r.head? = some x)
    (hx : Text.isBlank x = false := by decide) : Reads (a ++ Pattern.blanks) s l r :=
  Reads.blanks (u := [' ']) h (by decide) hr hx

/-- A group of characters of a class goes on up to something else. -/
lemma Reads.group {w : String} (h : Reads a s l (w.toList ++ r)) (hw : Text.OfClass p w.toList)
    (hr : ∀ x ∈ r.head?, p x = false) : Reads (a ++ Pattern.group (many p)) s (l ++ [w]) r :=
  h.append (prefers_many hw hr).reads_group

/-- It goes on up to a word that begins with something else. -/
lemma Reads.upTo {w v : String} (h : Reads a s l (w.toList ++ (v.toList ++ r)))
    (hw : Text.OfClass p w.toList) (hv : v.toList.head?.any (fun x => !p x) = true := by decide) :
    Reads (a ++ Pattern.group (many p)) s (l ++ [w]) (v.toList ++ r) := by
  refine h.group hw ?_
  cases hl : v.toList with
  | nil => simp [hl] at hv
  | cons y m =>
    rw [hl] at hv
    rintro x ⟨⟩
    simpa using hv

/-- Blanks go on up to a word. -/
lemma Reads.toSolid {w : List Char} (h : Reads a s l (u ++ (w ++ r)))
    (hu : Text.OfClass Text.isBlank u) (hw : ∃ x, w.head? = some x ∧ Text.isSolid x = true) :
    Reads (a ++ Pattern.blanks) s l (w ++ r) := by
  obtain ⟨x, hx, hs⟩ := hw
  exact h.blanks hu (by rw [List.head?_append, hx]; rfl) (Text.isBlank_of_isSolid hs)

lemma isSolid_of_head (hu : Text.OfClass Text.isBlank u) :
    ∀ x ∈ (u ++ r).head?, Text.isSolid x = false := by
  obtain ⟨x, hx, hb⟩ := hu.exists_head
  rw [List.head?_append, hx]
  rintro _ ⟨⟩
  rw [Text.isSolid, hb]
  rfl

/-- A word goes on up to blanks. -/
lemma Reads.toBlank {w : String} (h : Reads a s l (w.toList ++ (u ++ r)))
    (hw : Text.OfClass Text.isSolid w.toList) (hu : Text.OfClass Text.isBlank u) :
    Reads (a ++ Pattern.group solids) s (l ++ [w]) (u ++ r) :=
  h.group hw (isSolid_of_head hu)

@[simp] lemma text_toList_append (w : String) (r : List Char) :
    Span.text ⟨w.toList ++ r, r⟩ = w := by
  rw [text_append, String.ofList_toList]

/-- A sparing group goes on up to where what follows it can be. -/
lemma Reads.few {w : String} (hne : w ≠ "") (hw : ∀ x ∈ w.toList, p x = true)
    (hs : Skips b w.toList t) (hb : Reads b t l r) :
    Reads (Pattern.group (Pattern.few p) ++ b) (w.toList ++ t) (w :: l) r := by
  obtain ⟨g, hg, rfl⟩ := hb
  cases he : w.toList with
  | nil => exact absurd (String.toList_eq_nil_iff.1 he) hne
  | cons y u =>
    rw [he, List.forall_mem_cons] at hw
    rw [he] at hs
    refine ⟨_, Prefers.few hw.1 hw.2 hs.tail hg, ?_⟩
    rw [List.map_cons, text_append, ← he, String.ofList_toList]

lemma Reads.spare (hu : ∀ x ∈ u, p x = true) (hs : Skips b u t) (hb : Reads b t l r) :
    Reads (Pattern.spare p ++ b) (u ++ t) l r := by
  obtain ⟨g, hg, hl⟩ := hb
  exact ⟨g, Prefers.spare hu hs hg, hl⟩

lemma Reads.leftmost_eq (ha : Reads a t l r) (h : Skips a u t) :
    (a.leftmost (u ++ t)).map (List.map Span.text) = some l := by
  obtain ⟨g, hg, rfl⟩ := ha
  rw [leftmost_of_prefers h hg, Option.map_some]

lemma Reads.read_eq {w : String} (ha : Reads a t l r) (h : Skips a u t) (hw : w.toList = u ++ t) :
    a.read w = some l := by
  rw [read, hw, ha.leftmost_eq h]

lemma Reads.readFront_eq {w : String} (ha : Reads a w.toList l r) : a.readFront w = some l := by
  obtain ⟨g, hg, rfl⟩ := ha
  rw [readFront, hg.atFront, Option.map_some]

/-- A word does not stand in a text of which it avoids every place. -/
lemma mentions_eq_false {w v : String} (hw : (lit w).opening ≠ [])
    (h : avoids (lit w).opening v.toList = true) : Text.mentions v w = false := by
  rw [← Bool.not_eq_true, Text.mentions_iff]
  rintro ⟨u, r, hv⟩
  have hs : ((lit w).leftmost v.toList).isSome = true :=
    isSome_leftmost_iff.2 ⟨u, w.toList ++ r, [], r, hv, .exactly⟩
  rw [leftmost_eq_none h hw] at hs
  simp at hs

/-! ### Texts in parts -/

/-- The first group of the leftmost match. -/
def firstGroup (a : Pattern) (s : List Char) : Option String :=
  ((a.leftmost s).map (List.map Span.text)).bind List.head?

/-- The part `u` of a text, where `t` follows it, offers a match with this group or no match. -/
def Offers (a : Pattern) (u t : List Char) (o : Option String) : Prop :=
  firstGroup a (u ++ t) = o.or (firstGroup a t)

variable {o o' : Option String}

lemma offers_none (h : Skips a u t) : Offers a u t none := by
  rw [Offers, firstGroup, leftmost_skip h]
  rfl

lemma offers_some {value : String} {s : List Char} (h : Reads a (u ++ t) [value] s) :
    Offers a u t (some value) := by
  have hl := h.leftmost_eq (u := []) (skips_of_avoids rfl _)
  rw [List.nil_append] at hl
  rw [Offers, firstGroup, hl]
  rfl

lemma Offers.append (hu : Offers a u (v ++ t) o) (hv : Offers a v t o') :
    Offers a (u ++ v) t (o.or o') := by
  rw [Offers, List.append_assoc, hu, hv, Option.or_assoc]

lemma offers_flatMap {α : Type} {f : α → List Char} {g : α → Option String} {l : List α}
    (h : ∀ x ∈ l, ∀ t, Offers a (f x) t (g x)) : Offers a (l.flatMap f) t (l.findSome? g) := by
  induction l with
  | nil => rfl
  | cons x l ih =>
    rw [List.forall_mem_cons] at h
    have hx := (h.1 (l.flatMap f ++ t)).append (ih h.2)
    rw [List.flatMap_cons, List.findSome?_cons]
    cases hg : g x <;> simpa [hg] using hx

/-! ### First places -/

variable {α : Type} {P : List Char → α → Prop} {f : α → List String}

/-- The first place of a text at which `P` holds of anything is one at which it holds of `x`. -/
def First (P : List Char → α → Prop) (s : List Char) (x : α) : Prop :=
  ∃ u t, s = u ++ t ∧ P t x ∧ ∀ v w, u = v ++ w → w ≠ [] → ∀ y, ¬ P (w ++ t) y

/-- All places of the text at which `P` holds are at the first one or behind it. -/
lemma First.exists_place {x : α} (h : First P s x) :
    ∃ t, t <:+ s ∧ P t x ∧ ∀ q y, q <:+ s → P q y → q <:+ t := by
  obtain ⟨u, t, rfl, hx, hn⟩ := h
  refine ⟨t, List.suffix_append _ _, hx, fun q y hq hy => ?_⟩
  rcases List.suffix_or_suffix_of_suffix hq (List.suffix_append u t) with h | ⟨w, rfl⟩
  · exact h
  · obtain ⟨v, hv⟩ := hq
    rw [← List.append_assoc] at hv
    obtain rfl := List.append_cancel_right hv
    by_cases hw : w = []
    · exact ⟨[], by simp [hw]⟩
    · exact absurd hy (hn v w rfl hw y)

/-- What is read is read at the first place, where `P` tells at which places there is a match. -/
lemma first_of_read {w : String} {l : List String} (h : a.read w = some l)
    (hP : ∀ t, (∃ g r, Matches a t g r) ↔ ∃ x, P t x) :
    ∃ t g, a.atFront t = some g ∧ g.map Span.text = l ∧ ∀ x, P t x → First P w.toList x := by
  obtain ⟨g, hg, rfl⟩ := Option.map_eq_some_iff.1 h
  obtain ⟨u, t, hs, hn, ht⟩ := leftmost_eq_some hg
  refine ⟨t, g, ht, rfl, fun x hx => ⟨u, t, hs, hx, fun v w he hne y hy => ?_⟩⟩
  obtain ⟨g, r, hm⟩ := (hP _).2 ⟨y, hy⟩
  exact hn v w he hne g r hm

/-- `P` tells at which places `a` matches, and `f` what is read there. -/
structure Finds (a : Pattern) (P : List Char → α → Prop) (f : α → List String) : Prop where
  reads : ∀ {s x}, P s x → ∃ r, Reads a s (f x) r
  places : ∀ {s g r}, Matches a s g r → ∃ x, P s x

lemma Finds.matches_iff (h : Finds a P f) (t : List Char) :
    (∃ g r, Matches a t g r) ↔ ∃ x, P t x := by
  constructor
  · rintro ⟨g, r, hm⟩
    exact h.places hm
  · rintro ⟨x, hx⟩
    obtain ⟨r, g, hp, -⟩ := h.reads hx
    exact ⟨g, r, hp.matches⟩

lemma Finds.read_eq_some_iff (h : Finds a P f) {w : String} {l : List String} :
    a.read w = some l ↔ ∃ x, First P w.toList x ∧ f x = l := by
  constructor
  · intro hr
    obtain ⟨t, g, ht, rfl, hfirst⟩ := first_of_read hr h.matches_iff
    obtain ⟨r, hm⟩ := atFront_sound ht
    obtain ⟨x, hx⟩ := h.places hm
    obtain ⟨_, g', hp, hf⟩ := h.reads hx
    obtain rfl : g' = g := Option.some.inj (hp.atFront.symm.trans ht)
    exact ⟨x, hfirst x hx, hf.symm⟩
  · rintro ⟨x, ⟨u, t, hw, hx, hn⟩, rfl⟩
    obtain ⟨r, hr⟩ := h.reads hx
    refine hr.read_eq (fun v w he hne g r hm => ?_) hw
    obtain ⟨y, hy⟩ := h.places hm
    exact hn v w he hne y hy

/-- What is read at all places is what stands there. -/
lemma Finds.mem_readAll_iff (h : Finds a P f) {w n : String} :
    n ∈ a.readAll w ↔ ∃ t x, t <:+ w.toList ∧ P t x ∧ (f x).head? = some n := by
  rw [readAll, List.mem_filterMap]
  constructor
  · rintro ⟨g, hg, hn⟩
    obtain ⟨t, ht, hf⟩ := mem_everywhere_iff.1 hg
    obtain ⟨r, hm⟩ := atFront_sound hf
    obtain ⟨x, hx⟩ := h.places hm
    obtain ⟨_, g', hp, hl⟩ := h.reads hx
    obtain rfl : g' = g := Option.some.inj (hp.atFront.symm.trans hf)
    exact ⟨t, x, ht, hx, by rw [← hl, List.head?_map, hn]⟩
  · rintro ⟨t, x, ht, hx, hn⟩
    obtain ⟨_, g, hp, hl⟩ := h.reads hx
    exact ⟨g, mem_everywhere_iff.2 ⟨t, ht, hp.atFront⟩, by rw [← List.head?_map, hl, hn]⟩

/-- Where something stands, something stands first. -/
lemma Finds.exists_first (h : Finds a P f) {w : String} {u t : List Char} {x : α}
    (hw : w.toList = u ++ t) (hx : P t x) : ∃ y, First P w.toList y := by
  obtain ⟨r, g, hp, -⟩ := h.reads hx
  have hs : (a.leftmost w.toList).isSome = true :=
    isSome_leftmost_iff.2 ⟨u, t, g, r, hw, hp.matches⟩
  obtain ⟨g, hg⟩ := Option.isSome_iff_exists.1 hs
  have hr : a.read w = some (g.map Span.text) := by rw [read, hg, Option.map_some]
  obtain ⟨y, hy, -⟩ := h.read_eq_some_iff.1 hr
  exact ⟨y, hy⟩

end ViewPoints.Pattern
