import Mathlib.Data.List.Infix
import Mathlib.Data.List.TakeWhile
import ViewPoints.Proofs.Deviation.Contents

/-!
Which clause is shown beside the tracks of a deviation in contents. The tracks are those of the
first preamble of the block, and the clause is the first of the block that begins with the word
behind that preamble. So it is the clause of the preamble just when that one has all its parts and
no other of its word stands before it.
-/

namespace ViewPoints.Content

open Pattern

/-- The tracks and the time, as a preamble names them. -/
def Subject.caption (s : Subject) : String :=
  .join ["Test track #", s.testTrack, ".", s.testPart, " (reference track #", s.referenceTrack,
    ".", s.referencePart, ") near ", s.stamp] ++ " UTC:"

/-- A preamble stands here: the tracks and the time, and behind blanks the clause, with the word
that it begins with. -/
inductive PreambleAt : List Char → Subject × String × List Char → Prop
  | mk {s : Subject} {word : String} {blanks rest : List Char} (hs : s.Formed)
      (hb : Text.OfClass Text.isBlank blanks) (hw : Text.OfClass Text.isWord word.toList)
      (hr : rest.head?.any Text.isBlank = true) :
      PreambleAt (s.caption.toList ++ (blanks ++ (word.toList ++ rest)))
        (s, word, word.toList ++ rest)

/-- A clause that begins with this word has all its parts. -/
inductive Complete (word : String) : List Char → Prop
  | reported {field value : String} {rest : List Char} (hw : word = "reported")
      (hf : Text.OfClass inField field.toList) (hv : Text.OfClass inLine value.toList)
      (hr : rest.head?.any inLine = true) :
      Complete word ("reported ".toList ++ (field.toList ++ ("=".toList ++ (value.toList ++
        ("; expected ".toList ++ rest)))))
  | unexpected {rest : List Char} (hw : word = "unexpected")
      (hr : rest.head?.any inLine = true) : Complete word ("unexpected ".toList ++ rest)

/-- Behind a blank there stands a clause with all its parts. -/
def ClauseAt (word : String) (place clause : List Char) : Prop :=
  ∃ c, Text.isBlank c = true ∧ place = c :: clause ∧ Complete word clause

variable {word : String} {q r : List Char} {g : List Span}

/-! ### Preambles -/

lemma toList_caption (s : Subject) : s.caption.toList =
    "Test track #".toList ++ (s.testTrack.toList ++ (".".toList ++ (s.testPart.toList ++
      (" (reference track #".toList ++ (s.referenceTrack.toList ++ (".".toList ++
        (s.referencePart.toList ++ (") near ".toList ++ (s.stamp.toList ++
          " UTC:".toList))))))))) := by
  rw [Subject.caption, String.toList_append, String.toList_join]
  simp only [List.flatMap_cons, List.flatMap_nil, List.append_nil, List.append_assoc]

lemma reads_preamble {x : Subject × String × List Char} (h : PreambleAt q x) :
    ∃ r, Reads preamble q [x.1.testTrack, x.1.testPart, x.1.referenceTrack, x.1.referencePart,
      x.1.stamp, x.2.1] r := by
  cases h with
  | @mk s word blanks rest hs hb hw hr =>
    obtain ⟨c, hc, hblank⟩ := (Option.any_eq_true _ _).1 hr
    obtain ⟨rest, rfl⟩ : ∃ r, rest = c :: r := ⟨rest.tail, List.eq_cons_of_mem_head? hc⟩
    obtain ⟨d, hd, hdw⟩ := hw.exists_head
    have hword : (word.toList ++ (c :: rest)).head? = some d := by
      rw [List.head?_append, hd]
      rfl
    have hstop : ∀ x ∈ (c :: rest).head?, Text.isWord x = false := by
      rintro x ⟨⟩
      by_contra hx
      rw [Text.isBlank_of_isSolid (Text.isSolid_of_isWord (by simpa using hx))] at hblank
      simp at hblank
    rw [toList_caption]
    simp only [List.append_assoc]
    exact ⟨rest, reads_lit "Test track #" _ |>.upTo hs.testTrack |>.lit "." |>.upTo hs.testPart
      |>.lit " (reference track #" |>.upTo hs.referenceTrack |>.lit "." |>.upTo hs.referencePart
      |>.lit ") near " |>.append (Stamp.prefers_shape hs.stamp _).reads_group |>.lit " UTC:"
      |>.blanks hb hword (Text.isBlank_of_isSolid (Text.isSolid_of_isWord hdw)) |>.group hw hstop
      |>.append (prefers_one hblank rest).reads⟩

lemma exists_preambleAt (h : Matches preamble q g r) : ∃ x, PreambleAt q x := by
  obtain ⟨_, _, _, h, hone, -⟩ := matches_append_iff.1 h
  obtain ⟨c, hc, -, rfl⟩ := matches_one_iff.1 hone
  simp only [digits, words, blanks, matches_append_many_iff, matches_append_group_iff,
    matches_append_lit_iff, Stamp.matches_append_shape_iff, matches_lit_iff] at h
  obtain ⟨word, hw, _, ⟨blanks, hb, stamp, h₅, _, ⟨referencePart, h₄, _, ⟨referenceTrack, h₃, _,
    ⟨testPart, h₂, _, ⟨testTrack, h₁, _, ⟨-, rfl⟩, -⟩, -⟩, -⟩, -⟩, -⟩, -⟩ := h
  have hs : Subject.Formed ⟨testTrack, testPart, referenceTrack, referencePart, stamp⟩ :=
    ⟨h₁, h₂, h₃, h₄, h₅⟩
  have hr : (c :: r).head?.any Text.isBlank = true := hc
  have hp := PreambleAt.mk hs hb hw hr
  rw [toList_caption] at hp
  simp only [List.append_assoc] at hp
  exact ⟨_, hp⟩

lemma finds_preamble : Finds preamble PreambleAt fun x => [x.1.testTrack, x.1.testPart,
    x.1.referenceTrack, x.1.referencePart, x.1.stamp, x.2.1] :=
  ⟨reads_preamble, exists_preambleAt⟩

/-! ### Clauses -/

lemma matches_reported (h : Matches reported q g r) : ∃ clause, ClauseAt "reported" q clause ∧
    ∃ field value expected : String, Text.OfClass inField field.toList ∧
      Text.OfClass inLine value.toList ∧ Text.OfClass inLine expected.toList ∧
      ("reported " ++ field ++ "=" ++ value ++ "; expected " ++ expected).toList <+: clause ∧
      g.map Span.text = [field, value, expected] := by
  rw [reported] at h
  obtain ⟨rest, g, g', hm, hend, rfl⟩ := matches_append_iff.1 h
  obtain rfl : g' = [] := List.eq_nil_of_length_eq_zero (hend.length_groups rfl)
  simp only [matches_append_group_few_iff, matches_append_group_iff, matches_append_lit_iff,
    matches_one_iff] at hm
  obtain ⟨expected, he, _, ⟨value, hv, _, ⟨field, hf, _, ⟨c, hc, rfl, rfl⟩, rfl⟩, rfl⟩, rfl⟩ := hm
  exact ⟨_, ⟨c, hc, rfl, .reported rfl hf hv (he.any_head _)⟩, field, value, expected, hf, hv, he,
    ⟨rest, by simp⟩, by simp⟩

lemma matches_unexpected (h : Matches unexpected q g r) :
    ∃ clause, ClauseAt "unexpected" q clause ∧ ∃ value : String, Text.OfClass inLine value.toList ∧
      ("unexpected " ++ value).toList <+: clause ∧ g.map Span.text = [value] := by
  rw [unexpected] at h
  obtain ⟨rest, g, g', hm, hend, rfl⟩ := matches_append_iff.1 h
  obtain rfl : g' = [] := List.eq_nil_of_length_eq_zero (hend.length_groups rfl)
  simp only [matches_append_group_few_iff, matches_append_group_iff, matches_append_lit_iff,
    matches_one_iff] at hm
  obtain ⟨value, hv, _, ⟨c, hc, rfl, rfl⟩, rfl⟩ := hm
  exact ⟨_, ⟨c, hc, rfl, .unexpected rfl (hv.any_head _)⟩, value, hv, ⟨rest, by simp⟩, by simp⟩

/-- A value that is there may go on to the end of its line. -/
lemma exists_value (h : r.head?.any inLine = true) : ∃ (value : String) (rest : List Char),
    Text.OfClass inLine value.toList ∧ r = value.toList ++ rest ∧
      Matches valueEnd rest [] rest := by
  obtain ⟨c, hc, hline⟩ := (Option.any_eq_true _ _).1 h
  obtain ⟨r, rfl⟩ : ∃ s, r = c :: s := ⟨r.tail, List.eq_cons_of_mem_head? hc⟩
  refine ⟨.ofList (c :: r.takeWhile inLine), r.dropWhile inLine, ⟨by simp, ?_⟩, ?_, ?_⟩
  · rw [String.toList_ofList, List.forall_mem_cons]
    exact ⟨hline, fun x hx => List.mem_takeWhile_imp hx⟩
  · simp
  · have hend : r.dropWhile inLine = [] ∨ (r.dropWhile inLine).head? = some '\n' := by
      cases hd : r.dropWhile inLine with
      | nil => exact .inl rfl
      | cons x s =>
        have hx := List.head?_dropWhile_not inLine r
        rw [hd] at hx
        exact .inr (by simpa [inLine] using hx)
    exact .right (.seq (s := r.dropWhile inLine) (.run (u := []) (by simp)) (.lineEnd hend))

lemma reported_matches_iff :
    (∃ g r, Matches reported q g r) ↔ ∃ clause, ClauseAt "reported" q clause := by
  constructor
  · rintro ⟨g, r, h⟩
    obtain ⟨clause, hc, -⟩ := matches_reported h
    exact ⟨clause, hc⟩
  · rintro ⟨_, c, hc, rfl, h⟩
    cases h with
    | unexpected hw => exact absurd hw (by decide)
    | @reported field value rest _ hf hv hr =>
      obtain ⟨expected, rest, he, rfl, hend⟩ := exists_value hr
      exact ⟨_, _, Matches.one hc |>.lit "reported " |>.many hf |>.lit "=" |>.few hv
        |>.lit "; expected " |>.few he |>.seq hend⟩

lemma unexpected_matches_iff :
    (∃ g r, Matches unexpected q g r) ↔ ∃ clause, ClauseAt "unexpected" q clause := by
  constructor
  · rintro ⟨g, r, h⟩
    obtain ⟨clause, hc, -⟩ := matches_unexpected h
    exact ⟨clause, hc⟩
  · rintro ⟨_, c, hc, rfl, h⟩
    cases h with
    | reported hw => exact absurd hw (by decide)
    | @unexpected rest _ hr =>
      obtain ⟨value, rest, hv, rfl, hend⟩ := exists_value hr
      exact ⟨_, _, Matches.one hc |>.lit "unexpected " |>.few hv |>.seq hend⟩

/-! ### What is shown -/

/-- The fields of each quantity. -/
inductive Registered : ContentKind → String → Prop
  | named {kind : ContentKind} {field : String} (h : (field, kind) ∈ fields) : Registered kind field
  | status {field : String} (h : Text.startsWith "status.".toList field.toList = true) :
      Registered .status field

/-- A clause, as it is shown, is about this quantity. -/
inductive About : ContentKind → String → Prop
  | reported {kind : ContentKind} {field value expected : String} (hk : Registered kind field)
      (hf : Text.OfClass inField field.toList) (hv : Text.OfClass inLine value.toList)
      (he : Text.OfClass inLine expected.toList) :
      About kind ("reported " ++ field ++ "=" ++ value ++ "; expected " ++ expected)
  | unexpected {kind : ContentKind} {lead value : String} (hk : (lead, kind) ∈ values)
      (hl : Text.startsWith lead.toList value.toList = true)
      (hv : Text.OfClass inLine value.toList) : About kind ("unexpected " ++ value)

variable {kind : ContentKind} {text payload : String} {h : Header}

lemma registered_of_fieldKind? {field : String} (hk : fieldKind? field = some kind) :
    Registered kind field := by
  unfold fieldKind? at hk
  split at hk
  next kind' hl =>
    obtain rfl := Option.some.inj hk
    obtain ⟨l, m, he, -⟩ := List.lookup_eq_some_iff.1 hl
    exact .named (by rw [he]; simp)
  next =>
    split at hk
    next hs =>
      obtain rfl := Option.some.inj hk
      exact .status hs
    next => simp at hk

lemma mem_values_of_valueKind? {value : String} (hk : valueKind? value = some kind) :
    ∃ lead, (lead, kind) ∈ values ∧ Text.startsWith lead.toList value.toList = true := by
  obtain ⟨⟨lead, kind⟩, hf, rfl⟩ := Option.map_eq_some_iff.1 hk
  exact ⟨lead, List.mem_of_find?_eq_some hf, by simpa using List.find?_some hf⟩

lemma clause?_cases (hc : clause? h text word = some (.ok (kind, payload))) :
    (word = "reported" ∧ ∃ field value expected,
      reported.read text = some [field, value, expected] ∧ fieldKind? field = some kind ∧
        payload = "reported " ++ field ++ "=" ++ value ++ "; expected " ++ expected) ∨
    (word = "unexpected" ∧ ∃ value,
      unexpected.read text = some [value] ∧ valueKind? value = some kind ∧
        payload = "unexpected " ++ value) := by
  unfold clause? at hc
  split at hc
  next hw =>
    have hc := Option.some.inj hc
    split at hc
    next field value expected hr =>
      split at hc
      next kind' hk =>
        obtain ⟨rfl, rfl⟩ := Prod.mk.inj (Except.ok.inj hc)
        exact .inl ⟨hw, field, value, expected, hr, hk, rfl⟩
      next => simp at hc
    next => simp at hc
  next =>
    split at hc
    next hw =>
      have hc := Option.some.inj hc
      split at hc
      next value hr =>
        split at hc
        next kind' hk =>
          obtain ⟨rfl, rfl⟩ := Prod.mk.inj (Except.ok.inj hc)
          exact .inr ⟨hw, value, hr, hk, rfl⟩
        next => simp at hc
      next => simp at hc
    next => simp at hc

/-- The clause that is shown is the first of its word, as it stands there. -/
lemma first_of_clause? (hc : clause? h text word = some (.ok (kind, payload))) :
    ∃ shown, First (ClauseAt word) text.toList shown ∧ payload.toList <+: shown ∧
      About kind payload := by
  rcases clause?_cases hc with ⟨rfl, field, value, expected, hr, hk, rfl⟩ |
    ⟨rfl, value, hr, hk, rfl⟩
  · obtain ⟨q, g, hg, hl, hfirst⟩ := first_of_read hr fun _ => reported_matches_iff
    obtain ⟨r, hm⟩ := atFront_sound hg
    obtain ⟨shown, hclause, _, _, _, hf, hv, he, hprefix, hgroups⟩ := matches_reported hm
    simp only [hl, List.cons.injEq, and_true] at hgroups
    obtain ⟨rfl, rfl, rfl⟩ := hgroups
    exact ⟨shown, hfirst _ hclause, hprefix, .reported (registered_of_fieldKind? hk) hf hv he⟩
  · obtain ⟨q, g, hg, hl, hfirst⟩ := first_of_read hr fun _ => unexpected_matches_iff
    obtain ⟨r, hm⟩ := atFront_sound hg
    obtain ⟨shown, hclause, _, hv, hprefix, hgroups⟩ := matches_unexpected hm
    simp only [hl, List.cons.injEq, and_true] at hgroups
    subst hgroups
    obtain ⟨lead, hlead, hstart⟩ := mem_values_of_valueKind? hk
    exact ⟨shown, hfirst _ hclause, hprefix, .unexpected hlead hstart hv⟩

/-- What a view point shows of the tracks, the time and the clause. -/
structure Shows (t : Trackers) (s : Subject) (payload : String) (v : ViewPoint) : Prop where
  text : v.text = some (t.trackText .test s.testTrack s.testPart ++ " to " ++
    t.trackText .reference s.referenceTrack s.referencePart ++ "\n" ++ payload)
  time : ∃ time window, Stamp.read s.stamp = .ok time ∧ v.timing = some ⟨some time.seconds, window⟩
  trackNumbers : v.filters.trackNumbers = ((({} : Filters).setTrackNumber t.reference
    s.referenceTrack).setTrackNumber t.test s.testTrack).trackNumbers

/-- Where a text tells what a view point shows: the tracks, the time and the word of the clause in
the first preamble, and the clause where the first of this word stands that has all its parts. -/
structure Source (t : Trackers) (text : String) (kind : ContentKind) (v : ViewPoint) (s : Subject)
    (word payload : String) (own shown : List Char) : Prop where
  preamble : First PreambleAt text.toList (s, word, own)
  clause : First (ClauseAt word) text.toList shown
  verbatim : payload.toList <+: shown
  about : About kind payload
  shows : Shows t s payload v

/-- The text names the tracks and the time of a view point, and nothing but blanks stands between
them and the clause that it shows. -/
def Paired (t : Trackers) (text : String) (v : ViewPoint) : Prop :=
  ∃ s payload blanks, Shows t s payload v ∧ Text.OfClass Text.isBlank blanks.toList ∧
    Text.mentions text (s.caption ++ blanks ++ payload) = true

variable {t : Trackers} {b : Block} {v : ViewPoint} {s : Subject} {own shown : List Char}

lemma shows_of_viewPoint (hv : viewPoint t h text s kind payload = .ok v) :
    Shows t s payload v := by
  obtain ⟨time, span, window, ht, -, rfl⟩ := eq_of_viewPoint hv
  exact ⟨rfl, ⟨time, window, ht, rfl⟩, rfl⟩

lemma exists_source (hv : b.outcome t = .ok (.viewPoint v)) (hk : v.kind = .content kind) :
    ∃ s word payload own shown, Source t b.text kind v s word payload own shown := by
  obtain ⟨h, s, payload, word, hp, hc, hv⟩ := Block.contents_of_outcome hv hk
  obtain ⟨⟨s', word', own⟩, hfirst, he⟩ := finds_preamble.read_eq_some_iff.1 hp
  obtain ⟨shown, hclause, hpayload, habout⟩ := first_of_clause? hc
  simp only [List.cons.injEq, and_true] at he
  obtain ⟨h₁, h₂, h₃, h₄, h₅, rfl⟩ := he
  obtain rfl : s' = s := by
    cases s
    cases s'
    simp_all
  exact ⟨s', word', payload, own, shown, hfirst, hclause, hpayload, habout, shows_of_viewPoint hv⟩

/-- Between the tracks and their own clause there are blanks. -/
lemma PreambleAt.exists_blanks (hp : PreambleAt q (s, word, own)) :
    ∃ blanks : String, Text.OfClass Text.isBlank blanks.toList ∧
      q = s.caption.toList ++ (blanks.toList ++ own) := by
  cases hp with
  | @mk _ _ blanks rest _ hb => exact ⟨.ofList blanks, by simpa, by simp⟩

namespace Source

variable (hs : Source t text kind v s word payload own shown)

include hs

lemma paired (he : shown = own) : Paired t text v := by
  obtain ⟨u, q, ht, hp, -⟩ := hs.preamble
  obtain ⟨blanks, hb, hq⟩ := hp.exists_blanks
  obtain ⟨rest, hrest⟩ := hs.verbatim
  refine ⟨s, payload, blanks, hs.shows, hb, Text.mentions_iff.2 ⟨u, rest, ?_⟩⟩
  rw [ht, hq, ← he, ← hrest, String.toList_append, String.toList_append]
  simp only [List.append_assoc]

/-- The clause of the preamble is the first just when it is one, and none stands before it. -/
lemma shown_eq_own_iff : shown = own ↔ Complete word own ∧
    ∀ q clause, q <:+ text.toList → ClauseAt word q clause → clause <:+ own := by
  obtain ⟨q, hplace, ⟨c, hc, rfl, hcomplete⟩, hfirst⟩ := hs.clause.exists_place
  constructor
  · rintro rfl
    refine ⟨hcomplete, fun q' clause hq' hclause => ?_⟩
    have hbehind := hfirst q' clause hq' hclause
    obtain ⟨d, -, rfl, -⟩ := hclause
    rcases List.suffix_cons_iff.1 hbehind with he | hsuffix
    · exact (List.cons.inj he).2 ▸ List.suffix_refl _
    · exact (List.suffix_cons _ _).trans hsuffix
  · rintro ⟨hown, hbefore⟩
    obtain ⟨u, q, ht, hp, -⟩ := hs.preamble
    obtain ⟨blanks, ⟨hne, hblank⟩, hq⟩ := hp.exists_blanks
    obtain ⟨l, d, hd⟩ : ∃ l d, blanks.toList = l ++ [d] :=
      ⟨_, _, (List.dropLast_append_getLast hne).symm⟩
    have hown' : (d :: own) <:+ text.toList :=
      ⟨u ++ (s.caption.toList ++ l), by rw [ht, hq, hd]; simp⟩
    have hclause : ClauseAt word (d :: own) own := ⟨d, hblank d (by simp [hd]), rfl, hown⟩
    have hafter := hfirst _ _ hown' hclause
    have hshown := hbefore _ shown hplace ⟨c, hc, rfl, hcomplete⟩
    refine hshown.eq_of_length_le ?_
    have hle := hafter.length_le
    simp only [List.length_cons] at hle
    omega

end Source

/-- The clause that is shown beside the tracks is their own exactly when that has all its parts and
no other one of its word stands before it. Then the text has both side by side. -/
theorem own_clause_iff (hv : b.outcome t = .ok (.viewPoint v)) (hk : v.kind = .content kind) :
    ∃ s word payload own shown, Source t b.text kind v s word payload own shown ∧
      (shown = own ↔ Complete word own ∧
        ∀ q clause, q <:+ b.text.toList → ClauseAt word q clause → clause <:+ own) ∧
      (shown = own → Paired t b.text v) := by
  obtain ⟨s, word, payload, own, shown, hs⟩ := exists_source hv hk
  exact ⟨s, word, payload, own, shown, hs, hs.shown_eq_own_iff, hs.paired⟩

/-- The places behind the tracks at which a clause may stand. -/
def behindTime (text : String) : List (List Char) :=
  text.toList.tails.filterMap (Text.after? " UTC:".toList)

lemma exists_behindTime {blanks : String} (hb : Text.OfClass Text.isBlank blanks.toList)
    (hp : payload.toList.head?.any Text.isSolid = true)
    (hm : Text.mentions text (s.caption ++ blanks ++ payload) = true) :
    ∃ q ∈ behindTime text, Text.startsWith payload.toList (Text.trimStart q) = true := by
  obtain ⟨u, rest, ht⟩ := Text.mentions_iff.1 hm
  obtain ⟨c, hc, hsolid⟩ := (Option.any_eq_true _ _).1 hp
  obtain ⟨w, hw⟩ : ∃ w, payload.toList = c :: w := ⟨_, List.eq_cons_of_mem_head? hc⟩
  obtain ⟨front, hfront⟩ : ∃ front, s.caption.toList = front ++ " UTC:".toList :=
    ⟨_, String.toList_append⟩
  have htime : " UTC:".toList ++ (blanks.toList ++ (payload.toList ++ rest)) <:+ text.toList := by
    refine ⟨u ++ front, ?_⟩
    rw [ht, String.toList_append, String.toList_append, hfront]
    simp only [List.append_assoc]
  refine ⟨blanks.toList ++ (payload.toList ++ rest),
    List.mem_filterMap.2 ⟨_, (List.mem_tails _ _).2 htime, Text.after?_append _ _⟩, ?_⟩
  rw [Text.trimStart, List.dropWhile_append_of_pos hb.2, hw, List.cons_append,
    List.dropWhile_cons_of_neg (by simp [Text.isBlank_of_isSolid hsolid])]
  exact Text.startsWith_iff.2 ⟨rest, rfl⟩

/-- A block about a climb rate, with a line in front of its preamble and some behind. -/
def climbBlock (front : String) (behind : List String) : Block :=
  .under 0 "1" "Track" "contents" (front :: contentLine ⟨"12", "1", "40", "2", "10:15:00.000"⟩
    "reported rocd=1200; expected 900" :: behind)

/-- One more clause stands in front, without what is expected, and one behind. -/
theorem own_clause_iff_incomplete : ∃ b v,
    b = climbBlock "  reported tmc=5" ["  reported heading=3; expected 4"] ∧
    b.outcome {} = .ok (.viewPoint v) ∧ v.kind = .content .climbRate ∧
    v.text = some "TST 12:(12.1) to REF 40:(40.2)\nreported rocd=1200; expected 900" ∧
    ∃ s word payload own shown, Source {} b.text .climbRate v s word payload own shown ∧
      (shown = own ↔ Complete word own ∧
        ∀ q clause, q <:+ b.text.toList → ClauseAt word q clause → clause <:+ own) ∧
      (shown = own → Paired {} b.text v) := by
  have hout : ((climbBlock "  reported tmc=5" ["  reported heading=3; expected 4"]).viewPoint?
        {}).map (fun v => (v.kind, v.text)) = some (.content .climbRate,
      some "TST 12:(12.1) to REF 40:(40.2)\nreported rocd=1200; expected 900") := by
    decide +kernel
  obtain ⟨v, hv, he⟩ := Block.exists_viewPoint hout
  obtain ⟨hk, ht⟩ := Prod.mk.inj he
  exact ⟨_, v, rfl, hv, hk, ht, own_clause_iff hv hk⟩

/-- A clause in front is shown in place of the one of the preamble. -/
theorem not_paired_of_earlier : ∃ b v,
    b = climbBlock "  repeated: reported heading=10; expected 11" [] ∧
    b.outcome {} = .ok (.viewPoint v) ∧ v.kind = .content .heading ∧
    v.text = some "TST 12:(12.1) to REF 40:(40.2)\nreported heading=10; expected 11" ∧
    ¬ Paired {} b.text v := by
  obtain ⟨b, hb⟩ : ∃ b, b = climbBlock "  repeated: reported heading=10; expected 11" [] :=
    ⟨_, rfl⟩
  -- what can be computed of the block, with one evaluation of its text
  have hcomputed : ((b.viewPoint? {}).map fun v => (v.kind, v.text)) = some (.content .heading,
        some "TST 12:(12.1) to REF 40:(40.2)\nreported heading=10; expected 11") ∧
      (behindTime b.text).all (fun q =>
        !Text.startsWith "reported heading=10; expected 11".toList (Text.trimStart q)) = true := by
    rw [hb]
    decide +kernel
  obtain ⟨hout, hplaces⟩ := hcomputed
  obtain ⟨v, hv, he⟩ := Block.exists_viewPoint hout
  obtain ⟨hk, ht⟩ := Prod.mk.inj he
  refine ⟨b, v, hb, hv, hk, ht, ?_⟩
  rintro ⟨s, payload, blanks, hs, hblanks, hm⟩
  obtain rfl : payload = "reported heading=10; expected 11" := by
    have hline := congrArg String.toList (Option.some.inj (hs.text.symm.trans ht))
    rw [String.toList_append, String.toList_append, List.append_assoc] at hline
    have hhead : '\n' ∉ "TST 12:(12.1) to REF 40:(40.2)".toList := by decide
    have hclause : '\n' ∉ "reported heading=10; expected 11".toList := by decide
    have hcut := (List.append_cons_inj_of_notMem hhead hclause).1 hline.symm
    exact String.toList_injective hcut.2.2.symm
  obtain ⟨q, hq, hstart⟩ := exists_behindTime hblanks (by decide) hm
  have hnot := List.all_eq_true.1 hplaces q hq
  rw [hstart] at hnot
  simp at hnot

end ViewPoints.Content
