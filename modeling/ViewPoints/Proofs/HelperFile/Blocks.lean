import Mathlib.Data.List.Basic
import ViewPoints.HelperFile
import ViewPoints.Proofs.Pattern.Groups

/-!
A helper file as a whole: what its lines begin with, the blocks it is cut into, and the facts it
states. A place is the number of lines before it, so the end of the file is a place as well.
Nothing here depends on how a file is scanned.
-/

namespace ViewPoints.HelperFile

/-! ### Lines -/

/-- The characters that lines of a kind begin with. -/
def LineKind.word : LineKind → String
  | version => "AOC"
  | deviation => "DEV"
  | timeOffset => "DT "
  | now => "NOW"
  | filename .reference => "REF"
  | filename .test => "TST"

def begins (k : LineKind) (line : String) : Bool := Text.startsWith k.word.toList line.toList

/-- A line that opens a block. -/
def opens (line : String) : Bool := begins .deviation line

/-- A line that states a fact and belongs to no block. -/
def informs (line : String) : Bool :=
  [.version, .timeOffset, .now, .filename .reference, .filename .test].any fun k => begins k line

/-- A line that ends the block before it. -/
def ends (line : String) : Bool := opens line || isBlankLine line

/-- A line that has the form of a header. -/
def isHeader (line : String) : Bool := (Header.phrase.readFront line).isSome

lemma eq_of_startsWith {u w s : List Char} (hu : Text.startsWith u s = true)
    (hw : Text.startsWith w s = true) (hl : u.length = w.length) : u = w := by
  obtain ⟨r, rfl⟩ := Text.startsWith_iff.1 hu
  obtain ⟨t, ht⟩ := Text.startsWith_iff.1 hw
  exact (List.append_inj ht hl).1

lemma LineKind.word_length (k : LineKind) : k.word.toList.length = 3 := by
  rcases k with _ | _ | _ | _ | _ | _ <;> rfl

lemma LineKind.word_inj {j k : LineKind} (h : j.word.toList = k.word.toList) : j = k := by
  rcases j with _ | _ | _ | _ | _ | _ <;> rcases k with _ | _ | _ | _ | _ | _ <;>
    first | rfl | simp [word] at h

lemma LineKind.mem_vocabulary {e : String × LineKind} : e ∈ vocabulary ↔ e.1 = e.2.word := by
  obtain ⟨w, k⟩ := e
  rcases k with _ | _ | _ | _ | _ | _ <;> simp [vocabulary, word]

theorem LineKind.of?_eq_some_iff {line : String} {k : LineKind} :
    of? line = some k ↔ begins k line = true := by
  constructor
  · intro h
    obtain ⟨e, he, rfl⟩ := Option.map_eq_some_iff.1 h
    have hw := mem_vocabulary.1 (List.mem_of_find?_eq_some he)
    have hs := List.find?_some he
    rw [begins, ← hw]
    exact hs
  · intro h
    have hm : (k.word, k) ∈ vocabulary := mem_vocabulary.2 rfl
    -- some entry is found, and no two words of one length begin the same line
    obtain ⟨e, he⟩ : ∃ e, vocabulary.find? (fun e => Text.startsWith e.1.toList line.toList) =
        some e := by
      rw [← Option.isSome_iff_exists, List.find?_isSome]
      exact ⟨_, hm, h⟩
    have hw := mem_vocabulary.1 (List.mem_of_find?_eq_some he)
    have hs := List.find?_some he
    rw [hw] at hs
    have := word_inj (eq_of_startsWith hs h (by simp only [word_length]))
    simp [of?, he, this]

lemma begins_eq (k : LineKind) (line : String) :
    begins k line = decide (LineKind.of? line = some k) := by
  rw [Bool.eq_iff_iff, decide_eq_true_iff, LineKind.of?_eq_some_iff]

lemma of?_of_isBlankLine {line : String} (h : isBlankLine line = true) :
    LineKind.of? line = none := by
  cases hk : LineKind.of? line with
  | none => rfl
  | some k =>
    obtain ⟨r, hr⟩ := Text.startsWith_iff.1 (LineKind.of?_eq_some_iff.1 hk)
    rw [isBlankLine, hr, List.all_append, Bool.and_eq_true] at h
    rcases k with _ | _ | _ | _ | _ | _ <;> exact absurd h.1 (by decide)

lemma opens_of_isHeader {line : String} (h : isHeader line = true) : opens line = true := by
  obtain ⟨l, hl⟩ := Option.isSome_iff_exists.1 h
  exact Pattern.startsWith_of_readFront hl rfl

lemma ends_of_of? {line : String} {k : LineKind} (h : LineKind.of? line = some k)
    (hk : k ≠ .deviation) : ends line = false := by
  have hb : isBlankLine line = false := by
    rw [← Bool.not_eq_true]
    exact fun hb => by simp [of?_of_isBlankLine hb] at h
  simp [ends, opens, begins_eq, h, hk, hb]

lemma informs_iff {line : String} :
    informs line = true ↔ ∃ k ≠ LineKind.deviation, LineKind.of? line = some k := by
  constructor
  · intro h
    obtain ⟨k, hk, hb⟩ := List.any_eq_true.1 h
    refine ⟨k, ?_, LineKind.of?_eq_some_iff.2 hb⟩
    rintro rfl
    simp at hk
  · rintro ⟨k, hd, hk⟩
    refine List.any_eq_true.2 ⟨k, ?_, LineKind.of?_eq_some_iff.1 hk⟩
    rcases k with _ | _ | _ | _ | _ | _ <;> simp at hd ⊢

lemma isHeader_of_ne {line : String} (h : LineKind.of? line ≠ some .deviation) :
    isHeader line = false := by
  rw [← Bool.not_eq_true]
  exact fun hh => h (LineKind.of?_eq_some_iff.2 (opens_of_isHeader hh))

lemma isSome_header_read? (n : Nat) (line : String) :
    (Header.read? n line).isSome = isHeader line := by
  unfold Header.read? isHeader
  cases h : Header.phrase.readFront line with
  | none => rfl
  | some l =>
    have hl : l.length = 3 := Pattern.length_of_readFront h rfl
    match l, hl with
    | [_, _, _], _ => rfl

/-! ### Blocks -/

/-- The lines up to the end of a block. -/
def stretch (lines : List String) : List String := lines.takeWhile fun l => !ends l

/-- The lines of a block behind the first. -/
def bodyOf (lines : List String) : List String := (stretch lines).filter fun l => !informs l

/-- How many of the lines before a place are headers. -/
def rank (lines : List String) (i : Nat) : Nat := (lines.take i).countP isHeader

/-- The block that the line at a place opens. -/
def blockAt (lines : List String) (line : String) (i : Nat) : Block where
  header := Header.read? (rank lines i) line
  opening := line
  following := bodyOf (lines.drop (i + 1))

/-- The place of the line that ends the block opened at a place, or the end of the file. -/
def closing (lines : List String) (i : Nat) : Nat := i + 1 + (stretch (lines.drop (i + 1))).length

/-- The lines that open a block, with their places. -/
def openings (lines : List String) : List (String × Nat) :=
  lines.zipIdx.filter fun e => opens e.1

/-- The blocks of a file, each with the place where it ends. -/
def blocks (lines : List String) : List (Nat × Block) :=
  (openings lines).map fun e => (closing lines e.2, blockAt lines e.1 e.2)

/-- The blocks that the lines `rest` open in a file that begins with `before`. -/
def blocksFrom (before rest : List String) : List (Nat × Block) :=
  ((rest.zipIdx before.length).filter fun e => opens e.1).map fun e =>
    (closing (before ++ rest) e.2, blockAt (before ++ rest) e.1 e.2)

lemma blocks_eq (lines : List String) : blocks lines = blocksFrom [] lines := rfl

@[simp] lemma blocksFrom_nil (before : List String) : blocksFrom before [] = [] := rfl

lemma blocksFrom_cons (before : List String) (line : String) (rest : List String) :
    blocksFrom before (line :: rest) =
      (if opens line then
        [(before.length + 1 + (stretch rest).length,
          ⟨Header.read? (before.countP isHeader) line, line, bodyOf rest⟩)] else []) ++
      blocksFrom (before ++ [line]) rest := by
  have hd : (before ++ line :: rest).drop (before.length + 1) = rest := by
    rw [← List.singleton_append, ← List.append_assoc]
    exact List.drop_left' (by simp)
  cases h : opens line <;>
    simp [blocksFrom, List.zipIdx_cons, h, closing, blockAt, rank, hd]

/-- A block ends behind its first line. -/
lemma lt_of_mem_blocksFrom {before rest : List String} {e : Nat × Block}
    (h : e ∈ blocksFrom before rest) : before.length < e.1 := by
  obtain ⟨⟨line, i⟩, hi, rfl⟩ := List.mem_map.1 h
  have := (List.mem_zipIdx (List.mem_filter.1 hi).1).1
  simp only [closing]
  omega

/-- What stands in a block stands on a line of the file, apart from the ends of lines. -/
lemma exists_line_of_mem_text {lines : List String} {e : Nat × Block} (he : e ∈ blocks lines)
    {c : Char} (hc : c ∈ e.2.text.toList) : c = '\n' ∨ ∃ line ∈ lines, c ∈ line.toList := by
  obtain ⟨⟨line, i⟩, hi, rfl⟩ := List.mem_map.1 he
  have hsub : line :: bodyOf (lines.drop (i + 1)) ⊆ lines := by
    refine List.cons_subset.2 ⟨?_, fun l hl => ?_⟩
    · exact List.fst_mem_of_mem_zipIdx (List.mem_filter.1 hi).1
    · exact List.mem_of_mem_drop ((List.takeWhile_sublist _).subset (List.mem_filter.1 hl).1)
  rw [Block.text, Block.toList_unlines, List.mem_flatMap] at hc
  obtain ⟨l, hl, hc⟩ := hc
  rcases List.mem_append.1 hc with hc | hc
  · exact .inr ⟨l, hsub hl, hc⟩
  · exact .inl (List.mem_singleton.1 hc)

@[simp] lemma stretch_nil : stretch [] = [] := rfl

lemma stretch_cons_of_ends {line : String} (h : ends line = true) (rest : List String) :
    stretch (line :: rest) = [] := by
  simp [stretch, h]

lemma stretch_cons {line : String} (h : ends line = false) (rest : List String) :
    stretch (line :: rest) = line :: stretch rest := by
  simp [stretch, h]

lemma bodyOf_cons {line : String} (h : ends line = false) (rest : List String) :
    bodyOf (line :: rest) = if informs line then bodyOf rest else line :: bodyOf rest := by
  cases hi : informs line <;> simp [bodyOf, stretch_cons h, hi]

/-! ### Facts -/

/-- What was read from the last line of a kind from which it could be read. -/
def lastOf {α : Type} (k : LineKind) (read : String → Option α) (lines : List String) : Option α :=
  ((lines.filter (begins k)).filterMap read).getLast?

/-- The clock offset on a line, if it is in numbers. -/
def numbers? (line : String) : Option TimeOffset :=
  match offset? line with
  | some (.ok o) => some o
  | _ => none

/-- A line of the form of a clock offset that holds no numbers. -/
def isGarbled (line : String) : Bool :=
  match offset? line with
  | some (.error _) => true
  | _ => false

/-- The lines whose clock offset cannot be read, each reported at its place; `p` is the place of
the first line. -/
def offsetReports (p : Nat) (lines : List String) : List (Nat × Diagnostic) :=
  ((lines.zipIdx p).filter fun e => begins .timeOffset e.1 && isGarbled e.1).map fun e =>
    (e.2, .invalidTimeOffset e.1)

/-- Reports from the place `p` on, at so many places, in the order of their places. -/
def inOrder (p n : Nat) (reports : List (Nat × Diagnostic)) : List Diagnostic :=
  (List.range' p n).flatMap fun i => (reports.filter fun e => e.1 = i).map Prod.snd

lemma lastOf_cons {α : Type} (k : LineKind) (read : String → Option α) (line : String)
    (rest : List String) :
    lastOf k read (line :: rest) =
      (lastOf k read rest).or (if begins k line then read line else none) := by
  unfold lastOf
  cases hb : begins k line
  · simp [hb]
  · cases hr : read line <;> simp [hb, hr, List.getLast?_cons]

lemma offset?_error {line : String} {d : Diagnostic} (h : offset? line = some (.error d)) :
    d = .invalidTimeOffset line := by
  unfold offset? at h
  split at h
  · split at h <;> simp_all
  · simp at h

lemma offsetReports_cons (p : Nat) (line : String) (rest : List String) :
    offsetReports p (line :: rest) =
      (if begins .timeOffset line && isGarbled line then [(p, .invalidTimeOffset line)] else []) ++
        offsetReports (p + 1) rest := by
  cases h : begins .timeOffset line && isGarbled line <;>
    simp [offsetReports, List.zipIdx_cons, h]

lemma le_of_mem_offsetReports {p : Nat} {lines : List String} {e : Nat × Diagnostic}
    (h : e ∈ offsetReports p lines) : p ≤ e.1 := by
  obtain ⟨⟨line, i⟩, hi, rfl⟩ := List.mem_map.1 h
  exact (List.mem_zipIdx (List.mem_filter.1 hi).1).1

/-- What is reported at the first place comes first. -/
lemma inOrder_succ {p n : Nat} {a a' b b' : List (Nat × Diagnostic)}
    (ha : ∀ e ∈ a, e.1 = p) (ha' : ∀ e ∈ a', p < e.1)
    (hb : ∀ e ∈ b, e.1 = p) (hb' : ∀ e ∈ b', p < e.1) :
    inOrder p (n + 1) ((a ++ a') ++ (b ++ b')) =
      (a ++ b).map Prod.snd ++ inOrder (p + 1) n (a' ++ b') := by
  have here {c : List (Nat × Diagnostic)} (h : ∀ e ∈ c, e.1 = p) :
      (c.filter fun e => e.1 = p) = c :=
    List.filter_eq_self.2 fun e he => by simpa using h e he
  have past {c : List (Nat × Diagnostic)} (h : ∀ e ∈ c, p < e.1) :
      (c.filter fun e => e.1 = p) = [] :=
    List.filter_eq_nil_iff.2 fun e he => by simpa using Nat.ne_of_gt (h e he)
  have gone {c : List (Nat × Diagnostic)} (h : ∀ e ∈ c, e.1 = p) {i : Nat} (hi : p < i) :
      (c.filter fun e => e.1 = i) = [] :=
    List.filter_eq_nil_iff.2 fun e he => by simpa [h e he] using Nat.ne_of_lt hi
  unfold inOrder
  rw [List.range'_succ, List.flatMap_cons]
  congr 1
  · simp [here ha, here hb, past ha', past hb']
  · refine List.flatMap_congr fun i hi => ?_
    have hi : p < i := by have := (List.mem_range'_1.1 hi).1; omega
    simp [gone ha hi, gone hb hi]

end ViewPoints.HelperFile
