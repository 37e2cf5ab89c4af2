import ViewPoints.Deviation.Unmatched
import ViewPoints.Proofs.Deviation.Blocks
import ViewPoints.RunLog

/-!
The candidates for a track that only one run has, each on a line of its own with the codes that are
known of it. A search for a code finds the first candidate that tells it, and a search for tracks
finds all of them.
-/

namespace ViewPoints.Unmatched

open Pattern

/-! ### Lines -/

/-- A counterpart that may be the same track, with the codes that are known of it. -/
structure Candidate where
  side : Side
  track : String
  part : String
  mode3A : Option String := none
  address : Option String := none
  modeC : Option String := none

def sideWord : Side → String
  | .reference => "reference"
  | .test => "test"

/-- A value behind its caption, if there is one. -/
def remark (caption : String) : Option String → List String
  | some value => [caption, value]
  | none => []

namespace Candidate

/-- Which track it is. -/
def name (c : Candidate) : List String :=
  ["    ", sideWord c.side, " track #", c.track, ".", c.part]

def mode3ARemark (c : Candidate) : List String := remark " SSR mode 3/A code; value=0" c.mode3A

def addressRemark (c : Candidate) : List String := remark " aircraft address; value=0x" c.address

def modeCRemark (c : Candidate) : List String := remark " SSR mode C code; value=" c.modeC

/-- For instance `    test track #33.1 SSR mode 3/A code; value=07000`. -/
def line (c : Candidate) : String :=
  .join (c.name ++ (c.mode3ARemark ++ (c.addressRemark ++ c.modeCRemark)))

structure Formed (c : Candidate) : Prop where
  track : Text.OfClass Text.isDigit c.track.toList
  part : Text.OfClass Text.isDigit c.part.toList
  mode3A : ∀ v ∈ c.mode3A, Text.OfClass Text.isDigit v.toList
  address : ∀ v ∈ c.address, Text.OfClass RunLog.isHex v.toList
  modeC : ∀ v ∈ c.modeC, Text.OfClass Text.isDigit v.toList

end Candidate

/-- A line with its end. -/
def Candidate.chars (c : Candidate) : List Char :=
  c.name.flatMap String.toList ++ (c.mode3ARemark.flatMap String.toList ++
    (c.addressRemark.flatMap String.toList ++ (c.modeCRemark.flatMap String.toList ++ ['\n'])))

variable {c : Candidate}

lemma toList_candidates (l : List Candidate) :
    (Block.unlines (l.map Candidate.line)).toList = l.flatMap Candidate.chars := by
  induction l with
  | nil => rfl
  | cons c l ih =>
    rw [List.map_cons, Block.toList_unlines_cons, ih, List.flatMap_cons, Candidate.line,
      String.toList_join, Candidate.chars]
    simp only [List.flatMap_append, List.append_assoc]
    rfl

/-! ### Codes -/

variable {t : List Char} {o : Option String}

/-- What may follow a value. -/
def Bounded (t : List Char) : Prop := ∃ x, t.head? = some x ∧ (x = ' ' ∨ x = '\n')

lemma Bounded.stops {p : Char → Bool} (hp : p ' ' = false ∧ p '\n' = false) (h : Bounded t) :
    ∀ x ∈ t.head?, p x = false := by
  obtain ⟨x, hx, rfl | rfl⟩ := h
  · rw [hx]
    rintro y ⟨⟩
    exact hp.1
  · rw [hx]
    rintro y ⟨⟩
    exact hp.2

lemma bounded_remark {caption : String} (hc : caption.toList.head? = some ' ') (h : Bounded t) :
    Bounded ((remark caption o).flatMap String.toList ++ t) := by
  cases o with
  | none => exact h
  | some value => exact ⟨' ', by simp [remark, hc], .inl rfl⟩

variable {p : Char → Bool} {w caption : String}

/-- The caption of a value is what is searched for, behind a blank. -/
lemma offers_own (ho : ∀ value ∈ o, Text.OfClass p value.toList) (ht : Bounded t)
    (hc : caption.toList = ' ' :: w.toList := by rfl)
    (hw : avoids (lit w).opening [' '] = true := by decide)
    (hp : p ' ' = false ∧ p '\n' = false := by decide) :
    Offers (lit w ++ group (many p)) ((remark caption o).flatMap String.toList) t o := by
  cases o with
  | none => exact offers_none (skips_of_avoids rfl t)
  | some value =>
    have hr : Reads (lit w ++ group (many p)) ((w.toList ++ value.toList) ++ t) [value] t := by
      rw [List.append_assoc]
      exact (reads_lit w _).group (ho value rfl) (ht.stops hp)
    have h := (offers_none ((skips_of_avoids hw ((w.toList ++ value.toList) ++ t)).seq _)).append
      (offers_some hr)
    simpa [remark, hc] using h

/-- Any other caption is not, and neither is anything in its value. -/
lemma offers_other {q : Char → Bool} (ho : ∀ value ∈ o, Text.OfClass q value.toList)
    (t : List Char) (hc : avoids (lit w).opening caption.toList = true := by decide)
    (hw : w.toList.head?.any (fun x => !q x) = true := by decide) :
    Offers (lit w ++ group (many p)) ((remark caption o).flatMap String.toList) t none := by
  refine offers_none ((skips_of_avoids (avoids_flatMap ?_) t).seq _)
  cases o with
  | none => simp [remark]
  | some value => simpa [remark, hc] using avoids_word hw (ho value rfl).2

lemma avoids_name (hc : c.Formed) (hw : w.toList.head?.any (fun x => !Text.isDigit x) = true)
    (hl : ∀ v ∈ ["    ", "reference", "test", " track #", "."],
      avoids (lit w).opening v.toList = true) :
    avoids (lit w).opening (c.name.flatMap String.toList) = true := by
  simp only [List.forall_mem_cons] at hl
  obtain ⟨hindent, href, htest, htrack, hdot, -⟩ := hl
  refine avoids_flatMap ?_
  simp only [Candidate.name, List.forall_mem_cons]
  refine ⟨hindent, ?_, htrack, avoids_word hw hc.track.2, hdot, avoids_word hw hc.part.2, by simp⟩
  cases c.side
  · exact href
  · exact htest

variable {o₁ o₂ o₃ : Option String}

/-- What a line offers in its remarks it offers in all. -/
lemma offers_chars (hc : c.Formed)
    (h₁ : ∀ t, Bounded t → Offers (lit w ++ group (many p))
      (c.mode3ARemark.flatMap String.toList) t o₁)
    (h₂ : ∀ t, Bounded t → Offers (lit w ++ group (many p))
      (c.addressRemark.flatMap String.toList) t o₂)
    (h₃ : ∀ t, Bounded t → Offers (lit w ++ group (many p))
      (c.modeCRemark.flatMap String.toList) t o₃) (t : List Char)
    (hw : w.toList.head?.any (fun x => !Text.isDigit x) = true := by decide)
    (hl : ∀ v ∈ ["    ", "reference", "test", " track #", ".", "\n"],
      avoids (lit w).opening v.toList = true := by decide) :
    Offers (lit w ++ group (many p)) c.chars t (o₁.or (o₂.or o₃)) := by
  have hname : avoids (lit w).opening (c.name.flatMap String.toList) = true :=
    avoids_name hc hw fun v hv => hl v (List.mem_append_left ["\n"] hv)
  have hend : Bounded (['\n'] ++ t) := ⟨'\n', rfl, .inr rfl⟩
  have hmodeC : Bounded (c.modeCRemark.flatMap String.toList ++ (['\n'] ++ t)) :=
    bounded_remark rfl hend
  have haddress : Bounded (c.addressRemark.flatMap String.toList ++
      (c.modeCRemark.flatMap String.toList ++ (['\n'] ++ t))) :=
    bounded_remark rfl hmodeC
  have hline : Skips (lit w) ['\n'] t := skips_of_avoids (hl "\n" (by simp)) t
  have h := ((((offers_none ((skips_of_avoids hname _).seq _)).append (h₁ _ haddress)).append
    (h₂ _ hmodeC)).append (h₃ _ hend)).append (offers_none (hline.seq (group (many p))))
  simpa only [Candidate.chars, List.append_assoc, Option.none_or, Option.or_none, Option.or_assoc]
    using h

lemma isSolid_of_isHex {x : Char} (h : RunLog.isHex x = true) : Text.isSolid x = true := by
  refine Text.isSolid_of_isWord (Text.isWord_of_isPlainWord ?_)
  simp only [RunLog.isHex, Text.isPlainWord, Text.isPlainLetter, Text.isPlainDigit,
    Bool.or_eq_true, Bool.and_eq_true, decide_eq_true_eq] at h ⊢
  omega

lemma offers_mode3A (hc : c.Formed) (t : List Char) : Offers mode3APhrase c.chars t c.mode3A := by
  have h := offers_chars (w := "SSR mode 3/A code; value=0") (p := Text.isDigit) hc
    (fun t ht => offers_own hc.mode3A ht) (fun t _ => offers_other hc.address t)
    (fun t _ => offers_other hc.modeC t) t
  rwa [Option.none_or, Option.or_none] at h

lemma offers_address (hc : c.Formed) (t : List Char) :
    Offers addressPhrase c.chars t c.address := by
  have hsolid : ∀ v ∈ c.address, Text.OfClass Text.isSolid v.toList :=
    fun v hv => (hc.address v hv).mono fun x hx => isSolid_of_isHex hx
  have h := offers_chars (w := "aircraft address; value=0x") (p := Text.isSolid) hc
    (fun t _ => offers_other hc.mode3A t) (fun t ht => offers_own hsolid ht)
    (fun t _ => offers_other hc.modeC t) t
  rwa [Option.none_or, Option.or_none] at h

lemma offers_modeC (hc : c.Formed) (t : List Char) : Offers modeCPhrase c.chars t c.modeC := by
  have hsolid : ∀ v ∈ c.modeC, Text.OfClass Text.isSolid v.toList :=
    fun v hv => (hc.modeC v hv).mono fun x hx => Text.isSolid_of_isDigit hx
  have h := offers_chars (w := "SSR mode C code; value=") (p := Text.isSolid) hc
    (fun t _ => offers_other hc.mode3A t) (fun t _ => offers_other hc.address t)
    (fun t ht => offers_own hsolid ht) t
  rwa [Option.none_or, Option.none_or] at h

/-! ### The numbers of tracks -/

variable {u v s r : List Char} {g : List Span}

lemma matches_mention_iff : Matches mention s g r ↔
    ∃ n : String, Text.OfClass Text.isDigit n.toList ∧ s = '#' :: (n.toList ++ ('.' :: r)) ∧
      g = [⟨n.toList ++ ('.' :: r), '.' :: r⟩] := by
  simp only [mention, digits, matches_append_lit_iff, matches_append_group_iff, matches_lit_iff]
  constructor
  · rintro ⟨n, hn, _, ⟨rfl, rfl⟩, rfl⟩
    exact ⟨n, hn, rfl, rfl⟩
  · rintro ⟨n, hn, rfl, rfl⟩
    exact ⟨n, hn, [], ⟨rfl, rfl⟩, rfl⟩

/-- The numbers of the tracks that are mentioned in some characters. -/
def numbersIn (s : List Char) : List String :=
  (mention.everywhere s).filterMap fun gs => gs.head?.map Span.text

lemma numbersIn_skip (h : Skips mention u t) : numbersIn (u ++ t) = numbersIn t := by
  rw [numbersIn, everywhere_skip h, numbersIn]

lemma skips_unhashed (h : '#' ∉ u) (t : List Char) : Skips mention u t := by
  have hu : avoids mention.opening u = true := by
    change avoids ((fun x => '#' == x) :: [Text.isDigit]) u = true
    refine avoids_of_head fun x hx => beq_eq_false_iff_ne.2 ?_
    rintro rfl
    exact h hx
  exact skips_of_avoids hu t

/-- Where a track is mentioned its number comes first, and then those of the text behind it. -/
lemma numbersIn_track {n : String} (hn : Text.OfClass Text.isDigit n.toList) (hv : '#' ∉ v)
    (t : List Char) :
    numbersIn ('#' :: (n.toList ++ ('.' :: (v ++ t)))) = n :: numbersIn t := by
  obtain ⟨g, hg, hl⟩ : Reads mention ("#".toList ++ (n.toList ++ (".".toList ++ (v ++ t)))) [n]
      (v ++ t) :=
    reads_lit "#" _ |>.upTo hn |>.lit "."
  have hhead : g.head?.map Span.text = some n := by
    rw [← List.head?_map, hl, List.head?_cons]
  have hrest : '#' ∉ n.toList ++ ('.' :: v) := by
    simp only [List.mem_append, List.mem_cons, not_or]
    exact ⟨hn.not_mem (by decide), by decide, hv⟩
  have htail : numbersIn ((n.toList ++ ('.' :: v)) ++ t) = numbersIn t :=
    numbersIn_skip (skips_unhashed hrest t)
  rw [List.append_assoc, List.cons_append] at htail
  have hcons : mention.everywhere ('#' :: (n.toList ++ ('.' :: (v ++ t)))) =
      g :: mention.everywhere (n.toList ++ ('.' :: (v ++ t))) :=
    everywhere_cons hg
  rw [numbersIn, hcons, List.filterMap_cons, hhead, ← htail]
  rfl

lemma unhashed_remark (hc : '#' ∉ caption.toList) (ho : ∀ value ∈ o, '#' ∉ value.toList) :
    '#' ∉ (remark caption o).flatMap String.toList := by
  cases o with
  | none => simp [remark]
  | some value => simpa [remark, hc] using ho value rfl

lemma numbersIn_chars (hc : c.Formed) (t : List Char) :
    numbersIn (c.chars ++ t) = c.track :: numbersIn t := by
  have hside : '#' ∉ "    ".toList ++ ((sideWord c.side).toList ++ " track ".toList) := by
    cases c.side <;> decide
  have hremarks : '#' ∉ c.part.toList ++ (c.mode3ARemark.flatMap String.toList ++
      (c.addressRemark.flatMap String.toList ++
        (c.modeCRemark.flatMap String.toList ++ ['\n']))) := by
    simp only [List.mem_append, not_or]
    exact ⟨hc.part.not_mem (by decide),
      unhashed_remark (by decide) fun v hv => (hc.mode3A v hv).not_mem (by decide),
      unhashed_remark (by decide) fun v hv => (hc.address v hv).not_mem (by decide),
      unhashed_remark (by decide) fun v hv => (hc.modeC v hv).not_mem (by decide), by decide⟩
  have hchars : c.chars ++ t = ("    ".toList ++ ((sideWord c.side).toList ++ " track ".toList)) ++
      ('#' :: (c.track.toList ++ ('.' :: ((c.part.toList ++ (c.mode3ARemark.flatMap String.toList ++
        (c.addressRemark.flatMap String.toList ++
          (c.modeCRemark.flatMap String.toList ++ ['\n'])))) ++ t)))) := by
    simp only [Candidate.chars, Candidate.name, List.flatMap_cons, List.flatMap_nil,
      List.append_assoc]
    rfl
  rw [hchars, numbersIn_skip (skips_unhashed hside _), numbersIn_track hc.track hremarks]

lemma numbersIn_candidates {l : List Candidate} (h : ∀ c ∈ l, c.Formed) :
    numbersIn (l.flatMap Candidate.chars) = l.map Candidate.track := by
  induction l with
  | nil => rw [List.flatMap_nil, numbersIn, everywhere_nil (by decide)]; rfl
  | cons c l ih =>
    rw [List.forall_mem_cons] at h
    rw [List.flatMap_cons, numbersIn_chars h.1, ih h.2, List.map_cons]

/-- The numbers of the candidates in ascending order, each once. -/
structure Sorted (numbers : List String) (l : List Candidate) : Prop where
  ascending : numbers.Pairwise fun a b => Text.before a b = true
  mem_iff : ∀ n, n ∈ numbers ↔ ∃ c ∈ l, c.track = n

end ViewPoints.Unmatched
