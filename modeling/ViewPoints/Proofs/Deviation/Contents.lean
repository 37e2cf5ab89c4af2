import ViewPoints.Proofs.Deviation.Blocks
import ViewPoints.Proofs.Deviation.Failures
import ViewPoints.Proofs.Deviation.TrackNumbers
import ViewPoints.Proofs.Stamp.Codec
import ViewPoints.Proofs.Stamp.Search

/-!
What is read from a block about the contents of two tracks that is written as such blocks are. Of
the line behind the header the preamble takes the tracks and the time, and the clause is shown as
it stands there, up to the end of the line or a column `REF`. The values in the clause may be any
text that does not hold what ends them.
-/

namespace ViewPoints.Content

open Pattern

/-! ### Bracketed stamps -/

/-- A stamp in square brackets stands in the text, in digits of any script. -/
def Bracketed (text stamp : String) : Prop :=
  Stamp.Fits Text.isDigit stamp.toList ∧ Text.mentions text ("[" ++ stamp ++ "]") = true

/-- The times of day from the first bracketed stamp of a text to the last in byte order, and the
length of time between them. -/
inductive Spans (text : String) : TimeOfDay → Option Float → Prop
  | none (h : ∀ x, ¬ Bracketed text x) : Spans text {} none
  | some {a b : String} {p q : Stamp} (ha : Bracketed text a) (hb : Bracketed text b)
      (hfirst : ∀ x, Bracketed text x → Text.before x a = false)
      (hlast : ∀ x, Bracketed text x → Text.before b x = false)
      (hp : Stamp.read a = .ok p) (hq : Stamp.read b = .ok q) :
      Spans text ⟨some a, some b⟩ (some (Stamp.difference p q))

/-- The length of time of a span is the exact one, as the nearest float. It is negative where the
last stamp is the earlier one. -/
def Measured (span : TimeOfDay) (window : Option Float) : Prop :=
  ∀ a ∈ span.minimum, ∀ b ∈ span.maximum, ∃ p q x, Stamp.read a = .ok p ∧ Stamp.read b = .ok q ∧
    window = some x ∧ Binary.Rounded x (decide (q.millis < p.millis))
      (((q.millis : ℤ) - p.millis).natAbs / 1000)

lemma Spans.measured {text : String} {span : TimeOfDay} {window : Option Float}
    (h : Spans text span window) : Measured span window := by
  cases h with
  | none => simp [Measured]
  | some _ _ _ _ hp hq =>
    rintro _ ⟨⟩ _ ⟨⟩
    exact ⟨_, _, _, hp, hq, rfl,
      (Stamp.inRange_of_read hp).rounded_difference (Stamp.inRange_of_read hq)⟩

/-- A stamp stands here between square brackets. -/
def BracketedAt (place : List Char) (stamp : String) : Prop :=
  Stamp.Fits Text.isDigit stamp.toList ∧ ∃ r, place = '[' :: (stamp.toList ++ (']' :: r))

lemma finds_bracketed : Finds bracketed BracketedAt fun x => [x] where
  reads := by
    rintro _ x ⟨hx, r, rfl⟩
    exact ⟨r, reads_lit "[" _ |>.append (Stamp.prefers_shape hx _).reads_group |>.lit "]"⟩
  places := by
    intro _ _ r h
    simp only [bracketed, matches_append_lit_iff, Stamp.matches_append_shape_iff,
      matches_lit_iff] at h
    obtain ⟨x, hx, _, ⟨-, rfl⟩, -⟩ := h
    exact ⟨x, hx, r, rfl⟩

lemma bracketed_iff {text x : String} :
    Bracketed text x ↔ ∃ q, q <:+ text.toList ∧ BracketedAt q x := by
  have hb (r : List Char) : ("[" ++ x ++ "]").toList ++ r = '[' :: (x.toList ++ (']' :: r)) := by
    simp
  rw [Bracketed, Text.mentions_iff]
  constructor
  · rintro ⟨hx, u, r, ht⟩
    exact ⟨_, ⟨u, ht.symm⟩, hx, r, hb r⟩
  · rintro ⟨_, ⟨u, hu⟩, hx, r, rfl⟩
    exact ⟨hx, u, r, by rw [hb, hu]⟩

lemma mem_readAll_bracketed {text x : String} :
    x ∈ bracketed.readAll text ↔ Bracketed text x := by
  rw [finds_bracketed.mem_readAll_iff, bracketed_iff]
  simp

/-- Of some texts the one that is kept against all others is behind none of them in the order. -/
lemma foldl_first (lt : String → String → Bool) (hirrefl : ∀ a, lt a a = false)
    (htrans : ∀ {a b c}, lt a b = true → lt b c = true → lt a c = true)
    (htotal : ∀ {a b}, lt a b = false → lt b a = false → a = b) (s : String) (l : List String) :
    ∀ x ∈ s :: l, lt x (l.foldl (fun a b => if lt b a then b else a) s) = false := by
  have later {a b m : String} (hab : lt a b = true) (ha : lt a m = false) : lt b m = false := by
    by_contra hb
    rw [htrans hab (by simpa using hb)] at ha
    simp at ha
  induction l generalizing s with
  | nil => simp [hirrefl]
  | cons d l ih =>
    have h := ih (if lt d s then d else s)
    rw [List.forall_mem_cons] at h
    rw [List.foldl_cons, List.forall_mem_cons, List.forall_mem_cons, ← and_assoc]
    refine ⟨?_, h.2⟩
    replace h := h.1
    by_cases hd : lt d s = true
    · rw [if_pos hd] at h ⊢
      exact ⟨later hd h, h⟩
    · rw [if_neg hd] at h ⊢
      refine ⟨h, ?_⟩
      cases hs : lt s d with
      | true => exact later hs h
      | false =>
        obtain rfl := htotal hs (by simpa using hd)
        exact h

lemma before_span? {l : List String} {first last : String} (h : span? l = some (first, last)) :
    ∀ x ∈ l, Text.before x first = false ∧ Text.before last x = false := by
  cases l with
  | nil => simp
  | cons s l =>
    obtain ⟨rfl, rfl⟩ := Prod.mk.inj (Option.some.inj h)
    exact fun x hx => ⟨foldl_first Text.before Text.before_irrefl Text.before_trans
      Text.before_total s l x hx, foldl_first (fun a b => Text.before b a) Text.before_irrefl
        (fun hab hbc => Text.before_trans hbc hab) (fun hab hba => Text.before_total hba hab)
        s l x hx⟩

lemma span?_eq_none_iff {l : List String} : span? l = none ↔ l = [] := by
  cases l <;> simp [span?]

/-- What a text says of the times of day. -/
lemma spans_of_timeSpan {text : String} {span : TimeOfDay} {window : Option Float}
    (h : timeSpan text = .ok (span, window)) :
    Spans text span window := by
  unfold timeSpan at h
  split at h
  next hn =>
    obtain ⟨rfl, rfl⟩ := Prod.mk.inj (Except.ok.inj h)
    refine .none fun x hx => ?_
    simpa [span?_eq_none_iff.1 hn] using mem_readAll_bracketed.2 hx
  next first last hs =>
    obtain ⟨length, hd, he⟩ := map_eq_ok_iff.1 h
    obtain ⟨rfl, rfl⟩ := Prod.mk.inj he
    obtain ⟨q, hq, hd⟩ := bind_eq_ok_iff.1 hd
    obtain ⟨p, hp, hd⟩ := bind_eq_ok_iff.1 hd
    obtain rfl := Except.ok.inj hd
    obtain ⟨hf, hl⟩ := mem_of_span? hs
    exact .some (mem_readAll_bracketed.1 hf) (mem_readAll_bracketed.1 hl)
      (fun x hx => (before_span? hs x (mem_readAll_bracketed.2 hx)).1)
      (fun x hx => (before_span? hs x (mem_readAll_bracketed.2 hx)).2) hp hq

/-- Where the bracketed stamps can all be read, so can the times of day. -/
lemma spans_of_plain {text : String}
    (h : ∀ x, Bracketed text x → Stamp.Fits Text.isPlainDigit x.toList) :
    ∃ span window, timeSpan text = .ok (span, window) ∧ Spans text span window := by
  obtain ⟨⟨span, window⟩, ht⟩ : ∃ y, timeSpan text = .ok y := by
    unfold timeSpan
    split
    next => exact ⟨_, rfl⟩
    next first last hs =>
      obtain ⟨hf, hl⟩ := mem_of_span? hs
      obtain ⟨p, hp⟩ := Stamp.exists_read first (h first (mem_readAll_bracketed.1 hf))
      obtain ⟨q, hq⟩ := Stamp.exists_read last (h last (mem_readAll_bracketed.1 hl))
      rw [Stamp.delta, hq, hp]
      exact ⟨_, rfl⟩
  exact ⟨span, window, ht, spans_of_timeSpan ht⟩

/-! ### Values -/

/-- A value that nothing in it ends: it is on one line, with no blank at the end and no column
`REF` inside. -/
structure Value (v : String) : Prop where
  ne_empty : v ≠ ""
  inLine : '\n' ∉ v.toList
  solid : ∀ c ∈ v.toList.getLast?, Text.isBlank c = false
  noColumn : ∀ b, Text.isBlank b = true → Text.mentions v (.ofList [b] ++ "REF") = false

/-- What may stand behind a value on its line: blanks, or a column `REF`. -/
def Column (s : String) : Prop :=
  (∀ c ∈ s.toList, Text.isBlank c = true) ∨
    ∃ u x, s.toList = u ++ ("REF".toList ++ x) ∧ Text.OfClass Text.isBlank u

variable {v column : String}

lemma Column.blank_head (h : Column column) (rest : List Char) :
    ∀ c ∈ (column.toList ++ ('\n' :: rest)).head?, Text.isBlank c = true := by
  rcases h with h | ⟨u, x, hs, hu⟩
  · cases hl : column.toList with
    | nil =>
      rintro c ⟨⟩
      decide
    | cons d l =>
      rintro c ⟨⟩
      exact h d (by simp [hl])
  · obtain ⟨d, hd, hblank⟩ := hu.exists_head
    rw [hs, List.head?_append, List.head?_append, hd]
    rintro c ⟨⟩
    exact hblank

lemma Column.reads (h : Column column) (rest : List Char) :
    ∃ r, Reads valueEnd (column.toList ++ ('\n' :: rest)) [] r := by
  rcases h with h | ⟨u, x, hs, hu⟩
  · -- a column on a later line may be met first, which makes no difference
    have hm : Matches valueEnd (column.toList ++ ('\n' :: rest)) ([] ++ []) ('\n' :: rest) :=
      .right (.seq (.run h) (.lineEnd (.inr rfl)))
    obtain ⟨g, r, hp⟩ := hm.exists_prefers
    have hg : g = [] := List.eq_nil_of_length_eq_zero (hp.matches.length_groups rfl)
    exact ⟨r, (hg ▸ hp).reads⟩
  · refine ⟨x ++ ('\n' :: rest), ?_⟩
    rw [hs, List.append_assoc, List.append_assoc]
    exact (Prefers.left ((prefers_blanks hu rfl (by decide)).append (prefers_lit "REF" _))).reads

/-- Nothing in a value ends it, where a blank follows it or nothing. -/
lemma Value.skips (hv : Value v) {t : List Char} (ht : ∀ c ∈ t.head?, Text.isBlank c = true) :
    Skips valueEnd v.toList t := by
  intro u w he hne g r hm
  -- blanks that begin in the value end in it
  have inside {b r : List Char} (hb : ∀ c ∈ b, Text.isBlank c = true) (h : w ++ t = b ++ r) :
      ∃ c w', w = b ++ (c :: w') ∧ r = c :: (w' ++ t) := by
    have notBlank (hw : ∀ c ∈ w, Text.isBlank c = true) : False := by
      have hc : w.getLast? = some (w.getLast hne) := List.getLast?_eq_some_getLast hne
      have hlast := hv.solid (w.getLast hne) (by rw [he, List.getLast?_append, hc]; rfl)
      rw [hw _ (List.getLast_mem hne)] at hlast
      simp at hlast
    rcases List.append_eq_append_iff.1 h with ⟨b', rfl, -⟩ | ⟨w', rfl, rfl⟩
    · exact (notBlank fun c hc => hb c (List.mem_append_left _ hc)).elim
    · cases w' with
      | nil => exact (notBlank (by simpa using hb)).elim
      | cons c w' => exact ⟨c, w', rfl, rfl⟩
  cases hm with
  | left hm =>
    obtain ⟨_, _, _, hblanks, href, -⟩ := matches_append_iff.1 hm
    obtain ⟨-, b, hb, hs⟩ := matches_many_iff.1 hblanks
    obtain ⟨-, rfl⟩ := matches_lit_iff.1 href
    obtain ⟨c, w', rfl, hr⟩ := inside hb.2 hs
    obtain ⟨b', d, rfl⟩ : ∃ b' d, b = b' ++ [d] :=
      ⟨_, _, (List.dropLast_append_getLast hb.1).symm⟩
    have hcolumn := hv.noColumn d (hb.2 d (by simp))
    simp only [String.reduceToList, List.cons_append, List.nil_append, List.cons.injEq] at hr
    obtain ⟨rfl, hr⟩ := hr
    -- the word does not fit between the blanks and the end of the value
    rcases w' with _ | ⟨e, _ | ⟨f, w'⟩⟩
    · rw [List.nil_append] at hr
      exact absurd (ht 'E' (by rw [← hr]; rfl)) (by decide)
    · simp only [List.cons_append, List.nil_append, List.cons.injEq] at hr
      exact absurd (ht 'F' (by rw [← hr.2]; rfl)) (by decide)
    · simp only [List.cons_append, List.cons.injEq] at hr
      obtain ⟨rfl, rfl, -⟩ := hr
      rw [Text.mentions_iff.2 ⟨u ++ b', w', by rw [he]; simp⟩] at hcolumn
      simp at hcolumn
  | right hm =>
    obtain ⟨_, _, _, hrun, hend, -⟩ := matches_append_iff.1 hm
    obtain ⟨-, b, hb, hs⟩ := matches_run_iff.1 hrun
    obtain ⟨c, w', rfl, rfl⟩ := inside hb hs
    have hmem : c ∈ v.toList := by rw [he]; simp
    cases hend with
    | lineEnd h =>
      obtain rfl : c = '\n' := by simpa using h
      exact hv.inLine hmem

/-! ### Clauses -/

/-- A character of the name of a field. -/
def inField (c : Char) : Bool := Text.isWord c || c == '.'

/-- A clause about a quantity, as it is shown. -/
inductive Clause : ContentKind → String → Prop
  | reported {kind : ContentKind} {field value expected : String}
      (hk : fieldKind? field = some kind) (hf : ∀ c ∈ field.toList, inField c = true)
      (hne : value ≠ "") (hl : '\n' ∉ value.toList)
      (hs : Text.mentions value "; expected " = false) (he : Value expected) :
      Clause kind ("reported " ++ field ++ "=" ++ value ++ "; expected " ++ expected)
  | unexpected {kind : ContentKind} {value : String} (hk : valueKind? value = some kind)
      (hv : Value value) : Clause kind ("unexpected " ++ value)

variable {text : String} {front rest : List Char}

lemma inLine_of_notMem {w : String} (h : '\n' ∉ w.toList) : ∀ c ∈ w.toList, inLine c = true := by
  intro c hc
  rw [inLine, bne_iff_ne]
  rintro rfl
  exact h hc

lemma read_reported {field value expected : String} (hfront : avoids reported.opening front = true)
    (hf : Text.OfClass inField field.toList) (hne : value ≠ "") (hl : '\n' ∉ value.toList)
    (hs : Text.mentions value "; expected " = false) (he : Value expected) (hc : Column column)
    (ht : text.toList = front ++ (' ' :: ("reported ".toList ++ (field.toList ++ ("=".toList ++
      (value.toList ++ ("; expected ".toList ++ (expected.toList ++
        (column.toList ++ ('\n' :: rest)))))))))) :
    reported.read text = some [field, value, expected] := by
  obtain ⟨r, hend⟩ := hc.reads rest
  have hexpected := Reads.few he.ne_empty (inLine_of_notMem he.inLine)
    (he.skips (hc.blank_head rest)) hend
  have hvalue := Reads.few hne (inLine_of_notMem hl)
    (skips_lit_append rfl (by decide) hs _ _) ((reads_lit "; expected " _).append hexpected)
  have h := reads_blank _ |>.lit "reported " |>.upTo hf |>.lit "=" |>.append hvalue
  exact h.assoc.assoc.assoc.read_eq (skips_of_avoids hfront _) ht

lemma read_unexpected (hfront : avoids unexpected.opening front = true) (hv : Value v)
    (hc : Column column) (ht : text.toList = front ++ (' ' :: ("unexpected ".toList ++ (v.toList ++
      (column.toList ++ ('\n' :: rest)))))) :
    unexpected.read text = some [v] := by
  obtain ⟨r, hend⟩ := hc.reads rest
  have hvalue := Reads.few hv.ne_empty (inLine_of_notMem hv.inLine)
    (hv.skips (hc.blank_head rest)) hend
  have h := reads_blank _ |>.lit "unexpected " |>.append hvalue
  exact h.assoc.read_eq (skips_of_avoids hfront _) ht

/-! ### The line behind the header -/

/-- The line that names the tracks and the time. -/
def contentLine (s : Subject) (clause : String) : String :=
  .join ["  Test track #", s.testTrack, ".", s.testPart, " (reference track #", s.referenceTrack,
    ".", s.referencePart, ") near ", s.stamp, " UTC: ", clause]

/-- The numbers are in digits of any script, and the time has the form of a stamp. -/
structure Subject.Formed (s : Subject) : Prop where
  testTrack : Text.OfClass Text.isDigit s.testTrack.toList
  testPart : Text.OfClass Text.isDigit s.testPart.toList
  referenceTrack : Text.OfClass Text.isDigit s.referenceTrack.toList
  referencePart : Text.OfClass Text.isDigit s.referencePart.toList
  stamp : Stamp.Fits Text.isDigit s.stamp.toList

/-- What stands in front of the clause, but for a blank. -/
def lead (number : String) (s : Subject) : List Char :=
  "DEV #".toList ++ (number.toList ++ (": Track contents\n  Test track #".toList ++
    (s.testTrack.toList ++ (".".toList ++ (s.testPart.toList ++ (" (reference track #".toList ++
      (s.referenceTrack.toList ++ (".".toList ++ (s.referencePart.toList ++ (") near".toList ++
        (' ' :: (s.stamp.toList ++ " UTC:".toList))))))))))))

variable {id : Nat} {number : String} {s : Subject}

lemma toList_text (id : Nat) (number : String) (s : Subject) (clause : String)
    (following : List String) :
    (Block.under id number "Track" "contents" (contentLine s clause :: following)).text.toList =
      lead number s ++ (' ' :: (clause.toList ++ ('\n' :: (Block.unlines following).toList))) := by
  rw [Block.toList_text_under, Block.toList_unlines_cons, contentLine, String.toList_join, lead]
  simp only [List.flatMap_cons, List.flatMap_nil, List.append_assoc, List.cons_append]
  rfl

/-- No clause begins in front of the clause. -/
lemma avoids_lead {q : Char → Bool} {ps : List (Char → Bool)}
    (hn : Text.OfClass Text.isDigit number.toList) (hs : s.Formed)
    (hq : ∀ c, Text.isDigit c = true → q c = false)
    (hl : ∀ w ∈ ["DEV #", ": Track contents\n  Test track #", ".", " (reference track #", ") near",
      " UTC:"], avoids (Text.isBlank :: q :: ps) w.toList = true) :
    avoids (Text.isBlank :: q :: ps) (lead number s) = true := by
  simp only [List.forall_mem_cons] at hl
  obtain ⟨h₁, h₂, h₃, h₄, h₅, h₆, -⟩ := hl
  have digits {u : List Char} (hu : Text.OfClass Text.isDigit u) :
      avoids (Text.isBlank :: q :: ps) u = true :=
    avoids_of_head fun c hc => Text.isBlank_of_isSolid (Text.isSolid_of_isDigit (hu.2 c hc))
  have hstamp : avoids (Text.isBlank :: q :: ps) (' ' :: (s.stamp.toList ++ " UTC:".toList)) =
      true := by
    refine avoids_cons ?_ (avoids_append
      (avoids_of_head fun c hc => Text.isBlank_of_isSolid (hs.stamp.isSolid hc)) h₆)
    obtain ⟨c, hc, hdigit⟩ := hs.stamp.exists_head
    exact ⟨c, by rw [List.head?_append, hc]; rfl, hq c hdigit⟩
  exact avoids_append h₁ (avoids_append (digits hn) (avoids_append h₂
    (avoids_append (digits hs.testTrack) (avoids_append h₃ (avoids_append (digits hs.testPart)
      (avoids_append h₄ (avoids_append (digits hs.referenceTrack) (avoids_append h₃
        (avoids_append (digits hs.referencePart) (avoids_append h₅ hstamp))))))))))

lemma read_preamble {word : String} (hn : Text.OfClass Text.isDigit number.toList)
    (hs : s.Formed) (hw : Text.OfClass Text.isWord word.toList)
    (ht : text.toList = lead number s ++ (' ' :: (word.toList ++ (' ' :: rest)))) :
    preamble.read text = some [s.testTrack, s.testPart, s.referenceTrack, s.referencePart, s.stamp,
      word] := by
  obtain ⟨c, hc, hcw⟩ := hw.exists_head
  have hfront : avoids preamble.opening
      ("DEV #".toList ++ (number.toList ++ ": Track contents\n  ".toList)) = true :=
    avoids_append (by decide) (avoids_append (avoids_of_class (by decide) hn.2) (by decide))
  have hword : (word.toList ++ (' ' :: rest)).head? = some c := by
    rw [List.head?_append, hc]
    rfl
  have hstop : ∀ x ∈ (' ' :: rest).head?, Text.isWord x = false := by
    rintro x ⟨⟩
    decide
  have h := reads_lit "Test track #" _ |>.upTo hs.testTrack |>.lit "." |>.upTo hs.testPart
    |>.lit " (reference track #" |>.upTo hs.referenceTrack |>.lit "." |>.upTo hs.referencePart
    |>.lit ") near " |>.append (Stamp.prefers_shape hs.stamp _).reads_group |>.lit " UTC:"
    |>.space hword (Text.isBlank_of_isSolid (Text.isSolid_of_isWord hcw)) |>.group hw hstop
    |>.append (reads_blank rest)
  refine h.read_eq (skips_of_avoids hfront _) ?_
  rw [ht, lead]
  simp only [List.append_assoc, List.cons_append]
  rfl

/-! ### Blocks -/

lemma clause?_of_clause {kind : ContentKind} {clause : String} (hc : Clause kind clause)
    (hcol : Column column) (hn : Text.OfClass Text.isDigit number.toList) (hs : s.Formed)
    (ht : text.toList =
      lead number s ++ (' ' :: ((clause ++ column).toList ++ ('\n' :: rest)))) (h : Header) :
    ∃ word more, clause.toList = word.toList ++ (' ' :: more) ∧
      Text.OfClass Text.isWord word.toList ∧ clause? h text word = some (.ok (kind, clause)) := by
  rw [String.toList_append] at ht
  cases hc with
  | @reported field value expected hk hf hne hl hsep he =>
    have hfield : field.toList ≠ [] := by
      rintro hnil
      obtain rfl := String.toList_eq_nil_iff.1 hnil
      have hnone : fieldKind? "" = none := by decide
      rw [hnone] at hk
      simp at hk
    have hfront : avoids reported.opening (lead number s) = true :=
      avoids_lead hn hs (fun c => beq_eq_false_of_class (by decide)) (by decide)
    have hclause : ("reported " ++ field ++ "=" ++ value ++ "; expected " ++ expected).toList =
        "reported ".toList ++ (field.toList ++ ("=".toList ++ (value.toList ++
          ("; expected ".toList ++ expected.toList)))) := by
      rw [String.toList_append, String.toList_append, String.toList_append, String.toList_append,
        String.toList_append]
      simp only [List.append_assoc]
    have hread : reported.read text = some [field, value, expected] := by
      rw [hclause] at ht
      simp only [List.append_assoc] at ht
      exact read_reported hfront ⟨hfield, hf⟩ hne hl hsep he hcol ht
    refine ⟨"reported", _, hclause, by decide, ?_⟩
    rw [clause?, if_pos rfl, hread]
    simp only [hk]
  | @unexpected value hk hv =>
    have hfront : avoids unexpected.opening (lead number s) = true :=
      avoids_lead hn hs (fun c => beq_eq_false_of_class (by decide)) (by decide)
    have hread : unexpected.read text = some [value] := by
      rw [String.toList_append, List.append_assoc, List.append_assoc] at ht
      exact read_unexpected hfront hv hcol ht
    refine ⟨"unexpected", value.toList, ?_, by decide, ?_⟩
    · rw [String.toList_append]
      rfl
    · rw [clause?, if_neg (by decide), if_pos rfl, hread]
      simp only [hk]

/-- What a block about contents turns into. -/
structure Decodes (t : Trackers) (id : Nat) (number : String) (s : Subject) (time : Stamp)
    (quantity : ContentKind) (clause block : String) (v : ViewPoint) : Prop where
  id : v.id = id
  kind : v.kind = .content quantity
  name : v.name = quantity.abbreviation ++ " DEV #" ++ number
  text : v.text = some (t.test ++ " " ++ s.testTrack ++ ":(" ++ s.testTrack ++ "." ++ s.testPart ++
    ")" ++ " to " ++ t.reference ++ " " ++ s.referenceTrack ++ ":(" ++ s.referenceTrack ++ "." ++
      s.referencePart ++ ")" ++ "\n" ++ clause)
  times : ∃ window span, v.timing = some ⟨some time.seconds, window⟩ ∧
    v.filters.timeOfDay = some span ∧ Spans block span window ∧ Measured span window
  seconds : time.InSeconds time.seconds
  testNumber : v.filters.trackNumber t.test = some s.testTrack
  referenceNumber : v.filters.trackNumber t.reference = some s.referenceTrack
  both : v.filters.KeyedBy [t.reference, t.test]
  codes : v.filters.mode3A = none ∧ v.filters.targetAddress = none
  dbObjects : v.dbObjects = ["Tracker"]
  deviations : v.deviations = [number]
  contextVariables : v.contextVariables = quantity.contextVariables.map fun e => .single e.1 e.2

lemma decodes_of_viewPoint {t : Trackers} (hne : t.reference ≠ t.test) {time : Stamp}
    {kind : ContentKind} {clause : String} (htime : Stamp.read s.stamp = .ok time) (h : Header)
    (hb : ∀ x, Bracketed text x → Stamp.Fits Text.isPlainDigit x.toList) :
    ∃ v, viewPoint t h text s kind clause = .ok v ∧
      Decodes t h.id h.number s time kind clause text v := by
  obtain ⟨span, window, hspan, hspans⟩ := spans_of_plain hb
  have hv : ∃ v, viewPoint t h text s kind clause = .ok v := by
    unfold viewPoint
    rw [htime, hspan]
    exact ⟨_, rfl⟩
  obtain ⟨v, hv⟩ := hv
  refine ⟨v, hv, ?_⟩
  obtain ⟨time', htime', hv⟩ := bind_eq_ok_iff.1 hv
  obtain ⟨span', hspan', hv⟩ := bind_eq_ok_iff.1 hv
  obtain rfl := Except.ok.inj hv
  obtain rfl := Except.ok.inj (htime.symm.trans htime')
  obtain rfl := Except.ok.inj (hspan.symm.trans hspan')
  constructor
  case id => rfl
  case kind => rfl
  case name => rfl
  case text => simp only [Trackers.trackText, Trackers.name, String.append_assoc]
  case times => exact ⟨window, span, rfl, rfl, hspans, hspans.measured⟩
  case seconds => exact (Stamp.inRange_of_read htime).inSeconds
  case testNumber => exact Filters.trackNumber_setTrackNumber_self ..
  case referenceNumber =>
    exact (Filters.trackNumber_setTrackNumber_of_ne _ _ hne).trans
      (Filters.trackNumber_setTrackNumber_self ..)
  case both => exact ((Filters.keyedBy_nil rfl).set t.reference _).set t.test _
  case codes => exact ⟨rfl, rfl⟩
  case dbObjects => rfl
  case deviations => rfl
  case contextVariables => rfl

/-- A block about contents, with any column behind the clause and any lines behind that, turns into
one view point, if its bracketed stamps are in plain digits. -/
theorem outcome_of_contents (t : Trackers) (hne : t.reference ≠ t.test) (id : Nat)
    (hn : Text.OfClass Text.isDigit number.toList) (hs : s.Formed) {time : Stamp}
    (htime : Stamp.read s.stamp = .ok time) {kind : ContentKind} {clause : String}
    (hc : Clause kind clause) (hcol : Column column) (following : List String) {b : Block}
    (hblock : b = .under id number "Track" "contents"
      (contentLine s (clause ++ column) :: following))
    (hb : ∀ x, Bracketed b.text x → Stamp.Fits Text.isPlainDigit x.toList) :
    ∃ v, b.outcome t = .ok (.viewPoint v) ∧
      Decodes t id number s time kind clause b.text v := by
  have htext := toList_text id number s (clause ++ column) following
  rw [← hblock] at htext
  have hheader : b.header = some ⟨id, number, "Track", "contents"⟩ := by
    rw [hblock]
    exact Header.read?_headerLine id hn (by decide) (by decide)
  obtain ⟨word, more, hclause, hword, hread⟩ :=
    clause?_of_clause hc hcol hn hs htext ⟨id, number, "Track", "contents"⟩
  have hpreamble : preamble.read b.text = some [s.testTrack, s.testPart, s.referenceTrack,
      s.referencePart, s.stamp, word] := by
    rw [String.toList_append, hclause, List.append_assoc, List.append_assoc,
      List.cons_append] at htext
    exact read_preamble hn hs hword htext
  obtain ⟨v, hv, hd⟩ := decodes_of_viewPoint hne htime ⟨id, number, "Track", "contents"⟩ hb
  refine ⟨v, ?_, hd⟩
  have hkind : DeviationKind.ofBlock? ⟨id, number, "Track", "contents"⟩ b = some .contents :=
    DeviationKind.ofBlock?_eq rfl
  have hcontent : Content.outcome t ⟨id, number, "Track", "contents"⟩ b.text =
      .ok (.viewPoint v) := by
    rw [outcome, hpreamble]
    simp only [hread, hv]
    rfl
  rw [Block.outcome, hheader]
  simp only [hkind, hcontent]

lemma plain_of_readAll {text : String}
    (h : (bracketed.readAll text).all (fun x => (Stamp.ofChars? x.toList).isSome) = true)
    (x : String) (hx : Bracketed text x) : Stamp.Fits Text.isPlainDigit x.toList :=
  Stamp.isSome_ofChars?_iff.1 (List.all_eq_true.1 h x (mem_readAll_bracketed.2 hx))

lemma formed_example : Subject.Formed ⟨"12", "1", "40", "2", "10:15:00.000"⟩ where
  testTrack := by decide
  testPart := by decide
  referenceTrack := by decide
  referencePart := by decide
  stamp := (Stamp.isSome_ofChars?_iff.1 (by decide)).plain_isDigit

lemma Value.of_unmentioned (hne : v ≠ "") (hl : '\n' ∉ v.toList)
    (hs : ∀ c ∈ v.toList.getLast?, Text.isBlank c = false) (hc : Text.mentions v "REF" = false) :
    Value v := by
  refine ⟨hne, hl, hs, fun b _ => ?_⟩
  rw [← Bool.not_eq_true, Text.mentions_iff] at hc ⊢
  rintro ⟨u, r, h⟩
  rw [String.toList_append, List.append_assoc] at h
  exact hc ⟨u ++ (String.ofList [b]).toList, r, by rw [h, List.append_assoc]⟩

/-- The value holds a bracketed stamp, and all that separates it from the other but for a blank. -/
theorem outcome_of_contents_value :
    Clause .status "reported status.x=a; expected[10:14:59.500]; expected 0 b" ∧ Column "  REF" ∧
    ∃ b v, b = Block.under 0 "7" "Track" "contents"
        [contentLine ⟨"12", "1", "40", "2", "10:15:00.000"⟩
          ("reported status.x=a; expected[10:14:59.500]; expected 0 b" ++ "  REF"),
          "    TST [10:16:00.000]"] ∧
      b.outcome {} = .ok (.viewPoint v) ∧
      Decodes {} 0 "7" ⟨"12", "1", "40", "2", "10:15:00.000"⟩ ⟨10, 15, 0, 0⟩ .status
        "reported status.x=a; expected[10:14:59.500]; expected 0 b" b.text v := by
  have hv : Value "0 b" := .of_unmentioned (by decide) (by decide) (by rintro c ⟨⟩; decide)
    (by decide)
  have hc : Clause .status "reported status.x=a; expected[10:14:59.500]; expected 0 b" :=
    @Clause.reported .status "status.x" "a; expected[10:14:59.500]" "0 b" (by decide)
      (List.all_eq_true.1 (by decide)) (by decide) (by decide) (by decide) hv
  have hcol : Column "  REF" := .inr ⟨[' ', ' '], [], rfl, by decide⟩
  have hn : Text.OfClass Text.isDigit "7".toList := by decide
  have htime : Stamp.read "10:15:00.000" = .ok ⟨10, 15, 0, 0⟩ := by decide
  obtain ⟨v, hv, hd⟩ := outcome_of_contents {} (by decide) 0 hn formed_example htime hc hcol
    ["    TST [10:16:00.000]"] rfl (plain_of_readAll (by decide +kernel))
  exact ⟨hc, hcol, _, v, rfl, hv, hd⟩

/-- A bracketed stamp in a value that is in digits of another script cannot be read. -/
theorem malformed_of_contents :
    Clause .climbRate ("reported rocd=[" ++
      "\u0661\u0660:\u0660\u0660:\u0660\u0660.\u0660\u0660\u0660" ++ "]; expected 900") ∧
    (Block.under 0 "1" "Track" "contents" [contentLine ⟨"12", "1", "40", "2", "10:15:00.000"⟩
      ("reported rocd=[" ++ "\u0661\u0660:\u0660\u0660:\u0660\u0660.\u0660\u0660\u0660" ++
        "]; expected 900")]).outcome {} =
      .error (.malformedTime "\u0661\u0660:\u0660\u0660:\u0660\u0660.\u0660\u0660\u0660") := by
  have hv : Value "900" := .of_unmentioned (by decide) (by decide) (by rintro c ⟨⟩; decide)
    (by decide)
  refine ⟨@Clause.reported .climbRate "rocd"
    "[\u0661\u0660:\u0660\u0660:\u0660\u0660.\u0660\u0660\u0660]" "900" (by decide)
      (List.all_eq_true.1 (by decide)) (by decide) (by decide) (by decide) hv,
      failure?_eq_some_iff.1 ?_⟩
  decide +kernel

end ViewPoints.Content
