import ViewPoints.Proofs.HelperFile.Blocks
import ViewPoints.Proofs.Pattern.Search

/-!
The lines that state a fact. Of each kind of fact there is one written form, and a fact is read
from a line exactly if the line has it.
-/

namespace ViewPoints.HelperFile

open Pattern

/-! ### Written forms -/

/-- The version of the tool: blanks on either side of the word, and nothing behind. -/
def StatesVersion (line value : String) : Prop :=
  Text.OfClass Text.isSolid value.toList ∧ ∃ b c, Text.OfClass Text.isBlank b ∧
    Text.OfClass Text.isBlank c ∧
      line.toList = "AOC".toList ++ (b ++ ("Version".toList ++ (c ++ ("V".toList ++ value.toList))))

/-- The time at which the file was made: two words with one space between them. -/
def StatesNow (line value : String) : Prop :=
  ∃ u v b c, Text.OfClass Text.isSolid u ∧ Text.OfClass Text.isSolid v ∧
    Text.OfClass Text.isBlank b ∧ Text.OfClass Text.isBlank c ∧ value.toList = u ++ (' ' :: v) ∧
      line.toList = "NOW".toList ++ (b ++ (value.toList ++ (c ++ "UTC".toList)))

/-- A name stands here between quotes, without blanks. It goes on up to the last quote that no
blank comes before. -/
def QuotedAt (place : List Char) (name : String) : Prop :=
  Text.OfClass Text.isSolid name.toList ∧ ∃ r, place = '"' :: (name.toList ++ ('"' :: r)) ∧
    ∀ u v, r = u ++ ('"' :: v) → ∃ c ∈ u, Text.isBlank c = true

/-- The first quoted name on the line. -/
def StatesFilename (line name : String) : Prop := First QuotedAt line.toList name

/-- The clock offset and its deviation, whatever these are. -/
def StatesOffset (line mean deviation : String) : Prop :=
  Text.OfClass Text.isSolid mean.toList ∧ Text.OfClass Text.isSolid deviation.toList ∧
    ∃ b₁ b₂ b₃ b₄ b₅, (∀ b ∈ [b₁, b₂, b₃, b₄, b₅], Text.OfClass Text.isBlank b) ∧
      line.toList = "DT".toList ++ (b₁ ++ (mean.toList ++ (b₂ ++ ("secs".toList ++ (b₃ ++
        ("(STD".toList ++ (b₄ ++ (deviation.toList ++ (b₅ ++ "secs)".toList)))))))))

variable {line value : String}

/-! ### Facts from the beginning of a line -/

lemma exists_match_of_readFront {a : Pattern} {l : List String} (h : a.readFront line = some l) :
    ∃ g r, Matches a line.toList g r ∧ g.map Span.text = l := by
  obtain ⟨g, hg, hl⟩ := Option.map_eq_some_iff.1 h
  obtain ⟨r, hm⟩ := atFront_sound hg
  exact ⟨g, r, hm, hl⟩

lemma head?_readFront_eq_some_iff {a : Pattern} {P : String → Prop}
    (h : ∀ l, a.readFront line = some l ↔ ∃ v, P v ∧ l = [v]) :
    (a.readFront line).bind List.head? = some value ↔ P value := by
  rw [Option.bind_eq_some_iff]
  constructor
  · rintro ⟨l, hl, hv⟩
    obtain ⟨v, hp, rfl⟩ := (h l).1 hl
    obtain rfl := Option.some.inj hv
    exact hp
  · exact fun hp => ⟨_, (h _).2 ⟨value, hp, rfl⟩, rfl⟩

lemma readFront_versionPhrase_eq_iff (l : List String) :
    versionPhrase.readFront line = some l ↔ ∃ v, StatesVersion line v ∧ l = [v] := by
  constructor
  · intro h
    obtain ⟨g, r, hm, rfl⟩ := exists_match_of_readFront h
    simp only [versionPhrase, solids, blanks, matches_append_textEnd_iff, matches_append_group_iff,
      matches_append_lit_iff, matches_append_many_iff, matches_lit_iff] at hm
    obtain ⟨rfl, v, hv, _, ⟨c, hc, b, hb, rfl, hline⟩, rfl⟩ := hm
    exact ⟨v, ⟨hv, b, c, hb, hc, by simpa using hline⟩, congrArg (· :: []) (text_toList_append v [])⟩
  · rintro ⟨v, ⟨hv, b, c, hb, hc, hline⟩, rfl⟩
    refine Reads.readFront_eq (r := []) ?_
    rw [hline, ← List.append_nil v.toList]
    exact reads_lit "AOC" _ |>.blanks hb rfl |>.lit "Version" |>.blanks hc rfl |>.lit "V"
      |>.group hv (by simp) |>.textEnd

theorem version?_eq_some_iff : version? line = some value ↔ StatesVersion line value :=
  head?_readFront_eq_some_iff readFront_versionPhrase_eq_iff

/-- Two words with a space between them. -/
def moment : Pattern := solids ++ lit " " ++ solids

lemma prefers_moment {u v w r : List Char} (hu : Text.OfClass Text.isSolid u)
    (hv : Text.OfClass Text.isSolid v) (hw : Text.OfClass Text.isBlank w) :
    Prefers moment ((u ++ (' ' :: v)) ++ (w ++ r)) [] (w ++ r) := by
  rw [List.append_assoc]
  have hspace : ∀ c ∈ (' ' :: (v ++ (w ++ r))).head?, Text.isSolid c = false := by
    rintro _ ⟨⟩
    decide
  exact ((prefers_many hu hspace).append (prefers_lit " " _)).append
    (prefers_many hv (isSolid_of_head hw))

lemma matches_append_moment_iff {a : Pattern} {s r : List Char} {g : List Span} :
    Matches (a ++ group moment) s g r ↔ ∃ (m : String) (u v : List Char),
      Text.OfClass Text.isSolid u ∧ Text.OfClass Text.isSolid v ∧ m.toList = u ++ (' ' :: v) ∧
        ∃ h, Matches a s h (m.toList ++ r) ∧ g = h ++ [⟨m.toList ++ r, r⟩] := by
  simp only [moment, solids, matches_append_iff, matches_group_iff, matches_many_iff, matches_lit_iff]
  constructor
  · rintro ⟨_, h, _, ha, ⟨_, ⟨_, _, _, ⟨_, _, _, ⟨rfl, u, hu, rfl⟩, ⟨rfl, rfl⟩, rfl⟩,
      ⟨rfl, v, hv, rfl⟩, rfl⟩, rfl⟩, rfl⟩
    exact ⟨.ofList (u ++ (' ' :: v)), u, v, hu, hv, by simp, h, by simpa using ha, by simp⟩
  · rintro ⟨m, u, v, hu, hv, hm, h, ha, rfl⟩
    refine ⟨_, h, _, ha, ⟨[], ⟨v ++ r, [], [], ⟨' ' :: (v ++ r), [], [], ⟨rfl, u, hu, ?_⟩,
      ⟨rfl, rfl⟩, rfl⟩, ⟨rfl, v, hv, rfl⟩, rfl⟩, rfl⟩, rfl⟩
    rw [hm, List.append_assoc]
    rfl

lemma readFront_nowPhrase_eq_iff (l : List String) :
    nowPhrase.readFront line = some l ↔ ∃ v, StatesNow line v ∧ l = [v] := by
  change (lit "NOW" ++ blanks ++ group moment ++ blanks ++ lit "UTC" ++ textEnd).readFront line =
    some l ↔ _
  constructor
  · intro h
    obtain ⟨g, r, hm, rfl⟩ := exists_match_of_readFront h
    simp only [blanks, matches_append_textEnd_iff, matches_append_moment_iff,
      matches_append_lit_iff, matches_append_many_iff, matches_lit_iff] at hm
    obtain ⟨rfl, c, hc, m, u, v, hu, hv, hmv, _, ⟨b, hb, rfl, hline⟩, rfl⟩ := hm
    exact ⟨m, ⟨u, v, b, c, hu, hv, hb, hc, hmv, by simpa using hline⟩,
      congrArg (· :: []) (text_toList_append m _)⟩
  · rintro ⟨m, ⟨u, v, b, c, hu, hv, hb, hc, hm, hline⟩, rfl⟩
    have hmoment : Prefers moment (m.toList ++ (c ++ ("UTC".toList ++ []))) []
        (c ++ ("UTC".toList ++ [])) := by
      rw [hm]
      exact prefers_moment hu hv hc
    have hhead : ∃ c, m.toList.head? = some c ∧ Text.isSolid c = true := by
      obtain ⟨c, hc, hs⟩ := hu.exists_head
      exact ⟨c, by rw [hm, List.head?_append, hc]; rfl, hs⟩
    refine Reads.readFront_eq (r := []) ?_
    rw [hline, ← List.append_nil "UTC".toList]
    exact reads_lit "NOW" _ |>.toSolid hb hhead |>.append hmoment.reads_group |>.blanks hc rfl
      |>.lit "UTC" |>.textEnd

theorem now?_eq_some_iff : now? line = some value ↔ StatesNow line value :=
  head?_readFront_eq_some_iff readFront_nowPhrase_eq_iff

lemma readFront_offsetPhrase_eq_iff (l : List String) :
    offsetPhrase.readFront line = some l ↔ ∃ m d, StatesOffset line m d ∧ l = [m, d] := by
  constructor
  · intro h
    obtain ⟨g, r, hm, rfl⟩ := exists_match_of_readFront h
    simp only [offsetPhrase, solids, blanks, matches_append_textEnd_iff, matches_append_group_iff,
      matches_append_lit_iff, matches_append_many_iff, matches_lit_iff] at hm
    obtain ⟨rfl, b₅, h₅, d, hd, _, ⟨b₄, h₄, b₃, h₃, b₂, h₂, m, hm, _, ⟨b₁, h₁, rfl, hline⟩, rfl⟩,
      rfl⟩ := hm
    refine ⟨m, d, ⟨hm, hd, b₁, b₂, b₃, b₄, b₅, ?_, by simpa using hline⟩, ?_⟩
    · simp only [List.forall_mem_cons]
      exact ⟨h₁, h₂, h₃, h₄, h₅, List.forall_mem_nil _⟩
    · simp only [List.nil_append, List.singleton_append, List.map_cons, List.map_nil,
        text_toList_append]
  · rintro ⟨m, d, ⟨hm, hd, b₁, b₂, b₃, b₄, b₅, hb, hline⟩, rfl⟩
    simp only [List.forall_mem_cons] at hb
    obtain ⟨h₁, h₂, h₃, h₄, h₅, -⟩ := hb
    refine Reads.readFront_eq (r := []) ?_
    rw [hline, ← List.append_nil "secs)".toList]
    have h := reads_lit "DT" _ |>.toSolid h₁ hm.exists_head |>.toBlank hm h₂ |>.blanks h₂ rfl
      |>.lit "secs" |>.blanks h₃ rfl |>.lit "(STD" |>.toSolid h₄ hd.exists_head |>.toBlank hd h₅
      |>.blanks h₅ rfl |>.lit "secs)" |>.textEnd
    exact h

lemma StatesOffset.unique {m d m' d' : String} (h : StatesOffset line m d)
    (h' : StatesOffset line m' d') : m = m' ∧ d = d' := by
  have hl := (readFront_offsetPhrase_eq_iff _).2 ⟨m, d, h, rfl⟩
  have hl' := (readFront_offsetPhrase_eq_iff _).2 ⟨m', d', h', rfl⟩
  simpa using hl.symm.trans hl'

/-- Both numbers of a clock offset. -/
def StatesNumbers (line : String) (o : TimeOffset) : Prop :=
  ∃ m d x y, StatesOffset line m d ∧ Decimal.readFloat? m.toList = some x ∧
    Decimal.readFloat? d.toList = some y ∧ o = ⟨some x, some y⟩

/-- A clock offset of which not both are numbers. -/
def Garbled (line : String) : Prop :=
  ∃ m d, StatesOffset line m d ∧
    (Decimal.readFloat? m.toList = none ∨ Decimal.readFloat? d.toList = none)

lemma offset?_of_states {m d : String} (h : StatesOffset line m d) : offset? line =
    match Decimal.readFloat? m.toList, Decimal.readFloat? d.toList with
    | some x, some y => some (.ok ⟨some x, some y⟩)
    | _, _ => some (.error (.invalidTimeOffset line)) := by
  have hread := (readFront_offsetPhrase_eq_iff _).2 ⟨m, d, h, rfl⟩
  cases hx : Decimal.readFloat? m.toList <;> cases hy : Decimal.readFloat? d.toList <;>
    simp [offset?, hread, hx, hy]

lemma exists_states_of_offset? (h : offset? line ≠ none) : ∃ m d, StatesOffset line m d := by
  unfold offset? at h
  split at h
  next m d hl =>
    obtain ⟨m, d, hs, -⟩ := (readFront_offsetPhrase_eq_iff _).1 hl
    exact ⟨m, d, hs⟩
  next => exact absurd rfl h

theorem numbers?_eq_some_iff {o : TimeOffset} : numbers? line = some o ↔ StatesNumbers line o := by
  constructor
  · intro h
    have hne : offset? line ≠ none := by
      intro hn
      rw [numbers?, hn] at h
      cases h
    obtain ⟨m, d, hs⟩ := exists_states_of_offset? hne
    rw [numbers?, offset?_of_states hs] at h
    cases hx : Decimal.readFloat? m.toList <;> cases hy : Decimal.readFloat? d.toList <;>
      simp only [hx, hy, Option.some.injEq, reduceCtorEq] at h
    exact ⟨m, d, _, _, hs, hx, hy, h.symm⟩
  · rintro ⟨m, d, x, y, hs, hx, hy, rfl⟩
    rw [numbers?, offset?_of_states hs, hx, hy]

lemma isGarbled_iff : isGarbled line = true ↔ Garbled line := by
  constructor
  · intro h
    have hne : offset? line ≠ none := by
      intro hn
      rw [isGarbled, hn] at h
      cases h
    obtain ⟨m, d, hs⟩ := exists_states_of_offset? hne
    rw [isGarbled, offset?_of_states hs] at h
    refine ⟨m, d, hs, ?_⟩
    cases hx : Decimal.readFloat? m.toList <;> cases hy : Decimal.readFloat? d.toList <;>
      simp_all
  · rintro ⟨m, d, hs, h⟩
    rw [isGarbled, offset?_of_states hs]
    rcases h with h | h
    · rw [h]
    · rw [h]
      split <;> simp_all

/-! ### The name of a file -/

/-- Of the quotes that may end a name there is a last one. -/
lemma exists_quotedAt {name : String} {r : List Char} (hn : Text.OfClass Text.isSolid name.toList) :
    ∃ name', QuotedAt ('"' :: (name.toList ++ ('"' :: r))) name' := by
  induction hr : r.length using Nat.strongRecOn generalizing name r with
  | ind k ih =>
    by_cases hlast : ∀ u v, r = u ++ ('"' :: v) → ∃ c ∈ u, Text.isBlank c = true
    · exact ⟨name, hn, r, rfl, hlast⟩
    · push Not at hlast
      obtain ⟨u, v, rfl, hu⟩ := hlast
      have hname : Text.OfClass Text.isSolid (String.ofList (name.toList ++ ('"' :: u))).toList := by
        rw [String.toList_ofList]
        refine ⟨List.append_ne_nil_of_left_ne_nil hn.1 _, fun c hc => ?_⟩
        rcases List.mem_append.1 hc with hc | hc
        · exact hn.2 c hc
        · rcases List.mem_cons.1 hc with rfl | hc
          · decide
          · simpa [Text.isSolid] using hu c hc
      obtain ⟨name', h⟩ := ih v.length (by rw [← hr]; simp; omega) (r := v) hname rfl
      refine ⟨name', ?_⟩
      rw [String.toList_ofList, List.append_assoc] at h
      exact h

lemma finds_filenamePhrase : Finds filenamePhrase QuotedAt fun name => [name] where
  reads := by
    rintro _ name ⟨hn, r, rfl, hlast⟩
    have hback : Prefers (group solids ++ lit "\"") (name.toList ++ ('"' :: r))
        [⟨name.toList ++ ('"' :: r), '"' :: r⟩] r := by
      refine Prefers.back hn (fun u v he hne hu g r' hm => ?_) (prefers_lit "\"" r)
      obtain ⟨-, rfl⟩ := matches_lit_iff.1 hm
      cases u with
      | nil => exact hne rfl
      | cons c u =>
        obtain ⟨c, hc, hb⟩ := hlast u r' (List.cons.inj he).2
        have hs := hu c (List.mem_cons_of_mem _ hc)
        rw [Text.isBlank_of_isSolid hs] at hb
        cases hb
    have h := ((prefers_lit "\"" (name.toList ++ ('"' :: r))).append hback).assoc
    exact ⟨r, _, h, congrArg (· :: []) (text_toList_append name _)⟩
  places := by
    intro s g r h
    simp only [filenamePhrase, solids, matches_append_group_iff,
      matches_append_lit_iff, matches_lit_iff] at h
    obtain ⟨name, hn, _, ⟨-, rfl⟩, -⟩ := h
    exact exists_quotedAt hn

/-- The name is found at the first place at which one stands. -/
theorem filename?_eq_some_iff : filename? line = some value ↔ StatesFilename line value := by
  rw [filename?, Option.bind_eq_some_iff]
  simp only [finds_filenamePhrase.read_eq_some_iff]
  constructor
  · rintro ⟨_, ⟨name, hf, rfl⟩, h⟩
    obtain rfl := Option.some.inj h
    exact hf
  · exact fun h => ⟨_, ⟨value, h, rfl⟩, rfl⟩

end ViewPoints.HelperFile
