import ViewPoints.Proofs.Deviation.Candidates
import ViewPoints.Proofs.Deviation.Shape

/-!
Which tracks the candidates of a track are. They are all that the block mentions after the first,
whichever the first is. So the track itself is left out just when it is mentioned first, or when
that makes no difference.
-/

namespace ViewPoints.Unmatched

open Pattern

/-! ### Mentions -/

/-- The mention of a track stands here: its number, between `#` and a point. -/
def IsMention (n : String) (place : List Char) : Prop :=
  Text.OfClass Text.isDigit n.toList ∧ ∃ r, place = '#' :: (n.toList ++ ('.' :: r))

/-- A track of this number is mentioned at a place of the text. -/
structure Mentioned (text n : String) (place : List Char) : Prop where
  inside : place <:+ text.toList
  mention : IsMention n place

/-- No track is mentioned before this one. -/
structure FirstMention (text : String) (place : List Char) : Prop where
  mentioned : ∃ n, Mentioned text n place
  first : ∀ n q, Mentioned text n q → q <:+ place

/-- The track that is mentioned here is mentioned elsewhere as well. -/
def Again (text : String) (place : List Char) : Prop :=
  ∃ n, IsMention n place ∧ ∃ q, q ≠ place ∧ Mentioned text n q

/-- The numbers of all tracks that are mentioned elsewhere, in byte order and each once. -/
structure AllBut (text : String) (place : List Char) (numbers : List String) : Prop where
  ascending : numbers.Pairwise fun a b => Text.before a b = true
  mem_iff : ∀ n, n ∈ numbers ↔ ∃ q, q ≠ place ∧ Mentioned text n q

/-- The mention that the number of the track itself is read from. -/
def Own (owner : Side) (text : String) (place : List Char) : Prop :=
  ∃ g gs, (phrase owner).leftmost text.toList = some (g :: gs) ∧ place = '#' :: g.start

/-- The other tracker's filter lists all tracks but for the mention of one. -/
def Excludes (t : Trackers) (owner : Side) (text : String) (v : ViewPoint)
    (place : List Char) : Prop :=
  ∃ numbers, AllBut text place numbers ∧
    v.filters.trackNumber (t.name owner.opposite) = some (String.intercalate "," numbers)

variable {text n m : String} {p q s r : List Char} {g : List Span} {owner : Side}

lemma IsMention.unique (hn : IsMention n p) (hm : IsMention m p) : n = m := by
  obtain ⟨hn, r, rfl⟩ := hn
  obtain ⟨hm, r', hp⟩ := hm
  -- both are cut behind their digits
  obtain ⟨hcut, -⟩ := Text.cut_inj hn.2 hm.2 (by rintro _ ⟨⟩; decide) (by rintro _ ⟨⟩; decide)
    (List.cons.inj hp).2
  exact String.toList_injective hcut

lemma IsMention.reads (h : IsMention n p) : ∃ r, Reads mention p [n] r := by
  obtain ⟨hn, r, rfl⟩ := h
  exact ⟨r, reads_lit "#" _ |>.upTo hn |>.lit "."⟩

lemma finds_mention : Finds mention (fun q n => IsMention n q) fun n => [n] where
  reads h := h.reads
  places h := by
    obtain ⟨n, hn, hs, -⟩ := matches_mention_iff.1 h
    exact ⟨n, hn, _, hs⟩

/-- All mentions are found. -/
lemma mem_numbersIn_iff : n ∈ numbersIn s ↔ ∃ q, q <:+ s ∧ IsMention n q := by
  have hread : numbersIn s = mention.readAll (.ofList s) := by
    rw [readAll, String.toList_ofList, numbersIn]
  rw [hread, finds_mention.mem_readAll_iff, String.toList_ofList]
  simp

/-- The candidates are all numbers that are mentioned, but for the first. -/
lemma mem_keys_candidates :
    n ∈ (SortedMap.ofList (((mention.readAll text).drop 1).map fun n => (n, ()))).keys ↔
      n ∈ (numbersIn text.toList).drop 1 := by
  rw [SortedMap.mem_keys_ofList, List.map_map, Function.comp_def, List.map_id']
  rfl

/-! ### The first mention -/

/-- Where a track is mentioned, one is mentioned first. -/
lemma exists_first (h : Mentioned text n p) : ∃ q, FirstMention text q := by
  obtain ⟨⟨u, hu⟩, hn⟩ := h
  obtain ⟨m, hm⟩ := finds_mention.exists_first hu.symm hn
  obtain ⟨q, hq, hmention, hfirst⟩ := hm.exists_place
  exact ⟨q, ⟨m, hq, hmention⟩, fun k r hr => hfirst r k hr.inside hr.mention⟩

lemma FirstMention.drop_numbersIn (h : FirstMention text p) :
    (numbersIn text.toList).drop 1 = numbersIn p.tail := by
  obtain ⟨⟨n, ⟨u, hu⟩, hn⟩, hfirst⟩ := h
  have hskips : Skips mention u p := by
    intro v w he hw g r hm
    obtain ⟨k, hk, hplace, -⟩ := matches_mention_iff.1 hm
    have hinside : w ++ p <:+ text.toList := ⟨v, by rw [← hu, he, List.append_assoc]⟩
    have hle := (hfirst k (w ++ p) ⟨hinside, hk, r, hplace⟩).length_le
    have hpos := List.length_pos_iff.2 hw
    rw [List.length_append] at hle
    omega
  obtain ⟨r, g, hg, hl⟩ := hn.reads
  have hhead : g.head?.map Span.text = some n := by
    rw [← List.head?_map, hl, List.head?_cons]
  obtain ⟨-, r, rfl⟩ := hn
  rw [← hu, numbersIn_skip hskips, numbersIn, everywhere_cons hg, List.filterMap_cons, hhead]
  rfl

/-- The candidates are all tracks but the first. -/
lemma FirstMention.allBut (h : FirstMention text p) :
    ∃ numbers, AllBut text p numbers ∧ candidates text = String.intercalate "," numbers := by
  refine ⟨_, ⟨List.pairwise_map.2 (SortedMap.sorted _), fun n => mem_keys_candidates.trans ?_⟩, rfl⟩
  rw [h.drop_numbersIn, mem_numbersIn_iff]
  obtain ⟨⟨m, hinside, hm⟩, hfirst⟩ := h
  obtain ⟨-, r, rfl⟩ := hm
  constructor
  · rintro ⟨q, hq, hn⟩
    refine ⟨q, ?_, (hq.trans (List.suffix_cons _ _)).trans hinside, hn⟩
    rintro rfl
    have hlength := hq.length_le
    simp only [List.tail_cons, List.length_cons] at hlength
    omega
  · rintro ⟨q, hne, hq⟩
    rcases List.suffix_cons_iff.1 (hfirst n q hq) with he | hs
    · exact absurd he hne
    · exact ⟨q, hs, hq.mention⟩

/-! ### The mention of the track itself -/

lemma matches_time {s r : List Char} {g : List Span} (h : Matches time s g r) :
    ∃ (u : List Char) (w : String), s = u ++ (w.toList ++ (" UTC".toList ++ r)) ∧
      g = [⟨w.toList ++ (" UTC".toList ++ r), " UTC".toList ++ r⟩] := by
  simp only [time, solids, matches_append_many_iff, matches_append_group_iff,
    matches_append_lit_iff, matches_lit_iff] at h
  obtain ⟨w, -, _, ⟨u, -, rfl, rfl⟩, rfl⟩ := h
  exact ⟨"Time of ".toList ++ (u ++ ": ".toList), w, by simp, rfl⟩

/-- What the phrase of a track reads: its number behind the caption, and two times. -/
lemma matches_phrase (h : Matches (phrase owner) s g r) :
    ∃ (track part first last : String) (a b : List Char),
      Text.OfClass Text.isDigit track.toList ∧
      s = (caption owner).toList ++ (track.toList ++ ('.' :: (part.toList ++ (a ++ (first.toList ++
        (" UTC".toList ++ (b ++ (last.toList ++ (" UTC".toList ++ r))))))))) ∧
      g.map Span.text = [track, part, first, last] ∧
      g.head?.map Span.start = some (track.toList ++ ('.' :: (part.toList ++ (a ++ (first.toList ++
        (" UTC".toList ++ (b ++ (last.toList ++ (" UTC".toList ++ r))))))))) := by
  rw [phrase] at h
  obtain ⟨_, _, _, hrest, hlast, rfl⟩ := matches_append_iff.1 h
  rw [blanks, matches_append_many_iff] at hrest
  obtain ⟨b, -, hrest⟩ := hrest
  obtain ⟨_, _, _, hfront, hfirst, rfl⟩ := matches_append_iff.1 hrest
  simp only [digits, matches_append_many_iff, matches_append_group_iff, matches_append_lit_iff,
    matches_lit_iff] at hfront
  obtain ⟨a, -, part, -, _, ⟨track, htrack, _, ⟨rfl, rfl⟩, rfl⟩, rfl⟩ := hfront
  obtain ⟨u, first, rfl, rfl⟩ := matches_time hfirst
  obtain ⟨v, last, rfl, rfl⟩ := matches_time hlast
  exact ⟨track, part, first, last, a ++ u, b ++ v, htrack, by simp, by simp, by simp⟩

lemma Own.mentioned (h : Own owner text p) :
    ∃ n l, (phrase owner).read text = some (n :: l) ∧ Mentioned text n p := by
  obtain ⟨g, gs, hg, rfl⟩ := h
  obtain ⟨u, t, r, ht, hm⟩ := leftmost_sound hg
  obtain ⟨track, part, first, last, a, b, hdigits, hs, htexts, hstart⟩ := matches_phrase hm
  obtain ⟨x, hx⟩ : ∃ x, (caption owner).toList = x ++ ['#'] := by
    cases owner
    · exact ⟨"Missing reference track ".toList, rfl⟩
    · exact ⟨"Extra test track ".toList, rfl⟩
  have hplace : g.start = _ := Option.some.inj hstart
  refine ⟨track, [part, first, last], ?_, ⟨u ++ x, ?_⟩, hdigits, _, by rw [hplace]⟩
  · rw [Pattern.read, hg, Option.map_some, htexts]
  · rw [ht, hs, hx, hplace]
    simp

/-! ### Lists of numbers -/

/-- Numbers that are joined can be told apart again. -/
lemma intercalate_inj {l k : List String} (hl : ∀ n ∈ l, Text.OfClass Text.isDigit n.toList)
    (hk : ∀ n ∈ k, Text.OfClass Text.isDigit n.toList)
    (h : String.intercalate "," l = String.intercalate "," k) : l = k := by
  have hsplit {l : List String} (hl : ∀ n ∈ l, Text.OfClass Text.isDigit n.toList) :
      (List.splitOn ',' (String.intercalate "," l).toList).filter (· ≠ []) =
        l.map String.toList := by
    cases l with
    | nil => simp
    | cons n l =>
      have hcomma : ∀ w ∈ (n :: l).map String.toList, ',' ∉ w := by
        rw [List.forall_mem_map]
        exact fun n hn => (hl n hn).not_mem (by decide)
      have hne : ∀ w ∈ (n :: l).map String.toList, decide (w ≠ []) = true := by
        rw [List.forall_mem_map]
        exact fun n hn => decide_eq_true (hl n hn).1
      have hjoin : (String.intercalate "," (n :: l)).toList =
          [','].intercalate ((n :: l).map String.toList) :=
        String.toList_intercalate
      rw [hjoin, List.splitOn_intercalate ',' hcomma (by simp), List.filter_eq_self.2 hne]
  have hmap := hsplit hl
  rw [h, hsplit hk] at hmap
  exact List.map_injective_iff.2 (fun _ _ => String.toList_injective) hmap.symm

variable {numbers : List String}

lemma AllBut.ofClass (h : AllBut text p numbers) :
    ∀ n ∈ numbers, Text.OfClass Text.isDigit n.toList := by
  intro n hn
  obtain ⟨q, -, hq⟩ := (h.mem_iff n).1 hn
  exact hq.mention.1

/-- To leave out a mention makes no difference where its track is mentioned again. -/
lemma AllBut.of_again (h : AllBut text p numbers) (hp : Again text p) (hq : Again text q) :
    AllBut text q numbers := by
  refine ⟨h.ascending, fun n => (h.mem_iff n).trans ?_⟩
  have moved {p q : List Char} (hq : Again text q) (h : ∃ x, x ≠ p ∧ Mentioned text n x) :
      ∃ x, x ≠ q ∧ Mentioned text n x := by
    obtain ⟨x, -, hx⟩ := h
    by_cases he : x = q
    · subst he
      obtain ⟨m, hm, y, hy, hmy⟩ := hq
      obtain rfl := hx.mention.unique hm
      exact ⟨y, hy, hmy⟩
    · exact ⟨x, he, hx⟩
  exact ⟨moved hq, moved hp⟩

lemma again_of_allBut (hp : AllBut text p numbers) (hq : AllBut text q numbers) (hne : p ≠ q)
    (h : Mentioned text n p) : Again text p := by
  have hn : n ∈ numbers := (hq.mem_iff n).2 ⟨p, hne, h⟩
  exact ⟨n, h.mention, (hp.mem_iff n).1 hn⟩

/-! ### What is left out -/

variable {t : Trackers} {h : Header} {d : Dubiousness} {b : Block} {v : ViewPoint}

/-- A track with candidates is read from the text, and its candidates are in the filter of the
other tracker. -/
lemma candidates_of_viewPoint (hk : (viewPoint t owner h text).kind = .unmatched owner d)
    (hd : d ≠ .clear) : (∃ l, (phrase owner).read text = some l) ∧
      (viewPoint t owner h text).filters.trackNumber (t.name owner.opposite) =
        some (candidates text) := by
  unfold viewPoint at hk ⊢
  split at hk
  next track part first last hp =>
    obtain ⟨-, hl⟩ := ViewPointKind.unmatched.inj hk
    refine ⟨⟨_, hp⟩, ?_⟩
    rw [filled, Filters.trackNumber, trackNumbers_codeFilters, trackFilters, if_neg (hl ▸ hd)]
    exact Filters.trackNumber_setTrackNumber_self ..
  next => exact absurd (ViewPointKind.unmatched.inj hk).2.symm hd

lemma exists_own {l : List String} (h : (phrase owner).read text = some l) :
    ∃ q, Own owner text q := by
  obtain ⟨gs, hg, -⟩ := Option.map_eq_some_iff.1 h
  obtain ⟨u, s, r, -, hm⟩ := leftmost_sound hg
  obtain ⟨_, _, _, _, _, _, -, -, -, hstart⟩ := matches_phrase hm
  cases gs with
  | nil => simp at hstart
  | cons g gs => exact ⟨_, g, gs, hg, rfl⟩

/-- The candidates of a track are all tracks that its block mentions but for the mention of itself,
exactly when it is mentioned first, or when both tracks, it and the one that is mentioned first, are
mentioned again. -/
theorem excludes_iff (hv : b.outcome t = .ok (.viewPoint v)) (hk : v.kind = .unmatched owner d)
    (hd : d ≠ .clear) :
    ∃ own first, Own owner b.text own ∧ FirstMention b.text first ∧
      Excludes t owner b.text v first ∧
      (Excludes t owner b.text v own ↔
        own = first ∨ Again b.text own ∧ Again b.text first) := by
  obtain ⟨h, rfl⟩ := Block.unmatched_of_outcome hv hk
  obtain ⟨⟨l, hl⟩, hfilter⟩ := candidates_of_viewPoint hk hd
  obtain ⟨own, hown⟩ := exists_own hl
  obtain ⟨n, -, -, hn⟩ := hown.mentioned
  obtain ⟨first, hfirst⟩ := exists_first hn
  obtain ⟨m, hm⟩ := hfirst.mentioned
  obtain ⟨numbers, hall, hjoin⟩ := hfirst.allBut
  rw [hjoin] at hfilter
  refine ⟨own, first, hown, hfirst, ⟨numbers, hall, hfilter⟩, ?_, ?_⟩
  · rintro ⟨numbers', hall', hfilter'⟩
    obtain rfl := intercalate_inj hall.ofClass hall'.ofClass
      (Option.some.inj (hfilter.symm.trans hfilter'))
    by_cases he : own = first
    · exact .inl he
    · exact .inr ⟨again_of_allBut hall' hall he hn, again_of_allBut hall hall' (Ne.symm he) hm⟩
  · rintro (rfl | ⟨ho, hf⟩)
    · exact ⟨numbers, hall, hfilter⟩
    · exact ⟨numbers, hall.of_again hf ho, hfilter⟩

/-- A block about an extra track that mentions another one before it. -/
def remarked (count : String) (candidates : List String) : Block :=
  .under 0 "1" "Extra" "test" (["see #31.2", "Extra test track #7.1",
    "Time of start: 10:00:00.000 UTC", "Time of end: 10:00:05.000 UTC",
    "searching ... " ++ count ++ " found"] ++ candidates)

/-- The track is mentioned second, but both it and the first are candidates as well. -/
theorem excludes_iff_again : ∃ b v, b = remarked "2 candidates" ["#31.1", "#7.3"] ∧
    b.outcome {} = .ok (.viewPoint v) ∧ v.kind = .unmatched .test .multiple ∧
    v.filters.trackNumber "REF" = some "31,7" ∧
    ∃ own first, Own .test b.text own ∧ FirstMention b.text first ∧
      Excludes {} .test b.text v first ∧
      (Excludes {} .test b.text v own ↔
        own = first ∨ Again b.text own ∧ Again b.text first) := by
  have hout : ((remarked "2 candidates" ["#31.1", "#7.3"]).viewPoint? {}).map
      (fun v => (v.kind, v.filters.trackNumber "REF")) =
      some (.unmatched .test .multiple, some "31,7") := by
    decide +kernel
  obtain ⟨v, hv, he⟩ := Block.exists_viewPoint hout
  obtain ⟨hk, hf⟩ := Prod.mk.inj he
  exact ⟨_, v, rfl, hv, hk, hf, excludes_iff hv hk (by decide)⟩

/-- The track is mentioned second, and it counts among its own candidates in place of the first. -/
theorem not_excludes_of_remark : ∃ b v own, b = remarked "1 candidate" ["#40.1"] ∧
    b.outcome {} = .ok (.viewPoint v) ∧ v.kind = .unmatched .test .single ∧
    v.filters.trackNumber "REF" = some "40,7" ∧ Own .test b.text own ∧
    Mentioned b.text "7" own ∧ ¬ Excludes {} .test b.text v own := by
  obtain ⟨b, hb⟩ : ∃ b, b = remarked "1 candidate" ["#40.1"] := ⟨_, rfl⟩
  -- what can be computed of the block, with one evaluation of its text
  have hcomputed : ((b.viewPoint? {}).map fun v =>
        (v.kind, v.filters.trackNumber "REF")) = some (.unmatched .test .single, some "40,7") ∧
      (phrase .test).read b.text = some ["7", "1", "10:00:00.000", "10:00:05.000"] ∧
      "31" ∈ numbersIn b.text.toList := by
    rw [hb]
    decide +kernel
  obtain ⟨hout, hread, hremark⟩ := hcomputed
  obtain ⟨v, hv, he⟩ := Block.exists_viewPoint hout
  obtain ⟨hk, hf⟩ := Prod.mk.inj he
  obtain ⟨own, hown⟩ := exists_own hread
  obtain ⟨n, l, hn, hm⟩ := hown.mentioned
  obtain rfl : n = "7" := by simp_all
  refine ⟨b, v, own, hb, hv, hk, hf, hown, hm, ?_⟩
  rintro ⟨numbers, hall, hjoin⟩
  obtain rfl : ["40", "7"] = numbers := by
    refine intercalate_inj (by decide) hall.ofClass ?_
    exact (show String.intercalate "," ["40", "7"] = "40,7" by decide).trans
      (Option.some.inj (hf.symm.trans hjoin))
  -- the first track is mentioned elsewhere, and is missing
  obtain ⟨q, hq, hmention⟩ := mem_numbersIn_iff.1 hremark
  have hne : q ≠ own := by
    rintro rfl
    exact absurd (hmention.unique hm.mention) (by decide)
  exact absurd ((hall.mem_iff "31").2 ⟨q, hne, hq, hmention⟩) (by decide)

end ViewPoints.Unmatched
