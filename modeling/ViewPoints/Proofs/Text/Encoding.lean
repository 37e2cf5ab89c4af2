import Mathlib.Data.List.Basic
import ViewPoints.Text.Line

/-!
Lines and UTF-8. The bytes of a newline and of a carriage return stand in no other character, so a
file may be cut into lines before it is decoded or after.
-/

namespace ViewPoints.Text

/-! ### The bytes of a character -/

/-- A plain character is one byte, and all bytes of any other one are high. -/
lemma utf8EncodeChar_cases (c : Char) :
    (c.toNat < 0x80 ∧ String.utf8EncodeChar c = [.ofNat c.toNat]) ∨
      (0x80 ≤ c.toNat ∧ ∀ b ∈ String.utf8EncodeChar c, 0x80 ≤ b.toNat) := by
  have hc : c.val.toNat = c.toNat := rfl
  unfold String.utf8EncodeChar
  simp only [hc]
  split_ifs with h₁ h₂ h₃
  · exact .inl ⟨by omega, rfl⟩
  all_goals
    refine .inr ⟨by omega, fun b hb => ?_⟩
    simp only [List.mem_cons, List.not_mem_nil, or_false] at hb
    rcases hb with rfl | rfl | rfl | rfl <;> simp only [UInt8.toNat_ofNat'] <;> omega

/-- A plain byte stands in the character that it is alone. -/
lemma eq_of_mem_utf8EncodeChar {c d : Char} (hd : d.toNat < 0x80)
    (h : UInt8.ofNat d.toNat ∈ String.utf8EncodeChar c) : c = d := by
  rcases utf8EncodeChar_cases c with ⟨hc, he⟩ | ⟨-, hb⟩
  · rw [he, List.mem_singleton] at h
    have hn := congrArg UInt8.toNat h
    simp only [UInt8.toNat_ofNat'] at hn
    exact Char.toNat_inj.1 (by omega)
  · have := hb _ h
    simp only [UInt8.toNat_ofNat'] at this
    omega

/-! ### Texts -/

/-- The UTF-8 form of some characters. -/
def encode (s : List Char) : List UInt8 := s.flatMap String.utf8EncodeChar

@[simp] lemma encode_nil : encode [] = [] := rfl

lemma encode_cons (c : Char) (s : List Char) :
    encode (c :: s) = String.utf8EncodeChar c ++ encode s := rfl

lemma encode_append (u s : List Char) : encode (u ++ s) = encode u ++ encode s :=
  List.flatMap_append

lemma encode_of_plain {c : Char} (h : c.toNat < 0x80) : encode [c] = [.ofNat c.toNat] := by
  rcases utf8EncodeChar_cases c with ⟨-, he⟩ | ⟨hc, -⟩
  · simp [encode, he]
  · omega

lemma toByteArray_eq_encode (s : String) : s.toUTF8 = ⟨(encode s.toList).toArray⟩ := by
  rw [String.toUTF8_eq_toByteArray, ← String.utf8Encode_toList, List.utf8Encode]
  exact ByteArray.ext (Array.toList_inj.1 List.toList_data_toByteArray)

lemma fromUTF8?_toUTF8 (s : String) : String.fromUTF8? s.toUTF8 = some s := by
  rw [String.fromUTF8?, String.toUTF8_eq_toByteArray, dif_pos s.isValidUTF8]
  rfl

lemma fromUTF8?_eq_some_iff {b : ByteArray} {s : String} :
    String.fromUTF8? b = some s ↔ b = s.toUTF8 := by
  constructor
  · intro h
    unfold String.fromUTF8? at h
    split at h
    next => rw [← Option.some.inj h]; rfl
    next => simp at h
  · rintro rfl
    exact fromUTF8?_toUTF8 s

lemma fromUTF8?_encode (l : List Char) :
    String.fromUTF8? ⟨(encode l).toArray⟩ = some (String.ofList l) := by
  rw [fromUTF8?_eq_some_iff, toByteArray_eq_encode, String.toList_ofList]

/-! ### Lines -/

section Splitting

variable {α : Type} [DecidableEq α] {nl cr : α}

lemma closeLine_eq (cr : α) (line : List α) :
    closeLine cr line = if line.head? = some cr then line.tail.reverse else line.reverse := by
  cases line <;> simp [closeLine]

/-- Only a carriage return is lost with the end of a line. -/
lemma reverse_eq_closeLine (cr : α) (line : List α) :
    line.reverse = closeLine cr line ∨ line.reverse = closeLine cr line ++ [cr] := by
  cases line with
  | nil => exact .inl rfl
  | cons c line =>
    by_cases hc : c = cr
    · exact .inr (by simp [closeLine, hc])
    · exact .inl (by simp [closeLine, hc])

lemma splitFrom_nil_eq (nl cr : α) (line : List α) (done : List (List α)) :
    splitFrom nl cr [] line done = if line = [] then done.reverse else
      (line.reverse :: done).reverse := by
  cases line <;> simp [splitFrom]

/-- What holds no newline goes to the line in progress. -/
lemma splitFrom_of_not_mem {u : List α} (h : nl ∉ u) (s line : List α) (done : List (List α)) :
    splitFrom nl cr (u ++ s) line done = splitFrom nl cr s (u.reverse ++ line) done := by
  induction u generalizing line with
  | nil => rfl
  | cons c u ih =>
    obtain ⟨hc, hu⟩ := not_or.1 (List.mem_cons.not.1 h)
    rw [List.cons_append, splitFrom, if_neg (Ne.symm hc), ih hu, List.reverse_cons,
      List.append_assoc, List.singleton_append]

end Splitting

lemma encode_eq_nil_iff {s : List Char} : encode s = [] ↔ s = [] := by
  cases s <;> simp [encode_cons]

/-- A line loses its carriage return before it is encoded or after. -/
lemma closeLine_encode (line : List Char) :
    closeLine 0x0D (encode line.reverse).reverse = encode (closeLine '\r' line) := by
  cases line with
  | nil => rfl
  | cons c line =>
    have he : encode [c] = String.utf8EncodeChar c := List.append_nil _
    rw [closeLine_eq, closeLine_eq, List.reverse_cons, encode_append, he, List.reverse_append]
    by_cases hc : c = '\r'
    · subst hc
      have hr : String.utf8EncodeChar '\r' = [0x0D] := by decide
      simp [hr]
    · -- the last byte of the line is one of the last character
      have hb : ((String.utf8EncodeChar c).reverse ++ (encode line.reverse).reverse).head? ≠
          some 0x0D := fun hb => by
        rw [List.head?_append_of_ne_nil _ (by simp)] at hb
        exact hc (eq_of_mem_utf8EncodeChar (d := '\r') (by decide)
          (List.mem_reverse.1 (List.mem_of_mem_head? hb)))
      rw [if_neg hb, if_neg (by simpa using hc), List.reverse_append, List.reverse_reverse,
        List.reverse_reverse, encode_append, he]

/-- A text may be cut into lines before it is encoded or after. -/
lemma splitFrom_encode (s line : List Char) (done : List (List Char)) :
    splitFrom 0x0A 0x0D (encode s) (encode line.reverse).reverse (done.map encode) =
      (splitFrom '\n' '\r' s line done).map encode := by
  induction s generalizing line done with
  | nil =>
    rw [encode_nil, splitFrom_nil_eq, splitFrom_nil_eq]
    simp only [List.reverse_eq_nil_iff, encode_eq_nil_iff]
    split <;> simp
  | cons c s ih =>
    rw [encode_cons]
    by_cases hc : c = '\n'
    · subst hc
      have hn : String.utf8EncodeChar '\n' = [0x0A] := by decide
      rw [hn, List.singleton_append, splitFrom, splitFrom, if_pos rfl, if_pos rfl,
        closeLine_encode, ← ih]
      rfl
    · have hb : 0x0A ∉ String.utf8EncodeChar c :=
        fun hb => hc (eq_of_mem_utf8EncodeChar (d := '\n') (by decide) hb)
      rw [splitFrom_of_not_mem hb, splitFrom, if_neg hc, ← ih, List.reverse_cons, encode_append,
        List.reverse_append]
      simp [encode]

/-- The lines of the UTF-8 form of a text are those of the text. -/
theorem linesOfBytes_toUTF8 (s : String) : linesOfBytes s.toUTF8 = (lines s).map some := by
  have h : split 0x0A 0x0D (encode s.toList) = (split '\n' '\r' s.toList).map encode :=
    splitFrom_encode s.toList [] []
  rw [toByteArray_eq_encode, linesOfBytes, h, lines, List.map_map, List.map_map]
  exact List.map_congr_left fun line _ => fromUTF8?_encode line

/-- A text is in UTF-8 if each of its lines is. -/
lemma exists_encode_of_splitFrom {s line : List UInt8}
    (h : ∀ l ∈ splitFrom 0x0A 0x0D s line [], ∃ u, l = encode u) :
    ∃ u, line.reverse ++ s = encode u := by
  induction s generalizing line with
  | nil =>
    cases line with
    | nil => exact ⟨[], rfl⟩
    | cons c line => simpa [splitFrom] using h
  | cons c s ih =>
    by_cases hc : c = 0x0A
    · subst hc
      rw [splitFrom, if_pos rfl, splitFrom_eq] at h
      obtain ⟨u, hu⟩ := h (closeLine 0x0D line) (List.mem_append_left _ (by simp))
      obtain ⟨v, hv⟩ := ih fun l hl => h l (List.mem_append_right _ hl)
      have hs : s = encode v := hv
      have hn : encode ['\n'] = [0x0A] := encode_of_plain (by decide)
      have hr : encode ['\r'] = [0x0D] := encode_of_plain (by decide)
      rcases reverse_eq_closeLine 0x0D line with hl | hl
      · refine ⟨u ++ (['\n'] ++ v), ?_⟩
        rw [encode_append, encode_append, hn, ← hs, ← hu, hl, List.singleton_append]
      · refine ⟨u ++ (['\r'] ++ (['\n'] ++ v)), ?_⟩
        rw [encode_append, encode_append, encode_append, hn, hr, ← hs, ← hu, hl, List.append_assoc]
        rfl
    · rw [splitFrom, if_neg hc] at h
      obtain ⟨u, hu⟩ := ih h
      refine ⟨u, ?_⟩
      rw [← hu, List.reverse_cons, List.append_assoc, List.singleton_append]

/-- A file whose lines can all be read holds a text, and its lines are those of the text. -/
theorem exists_text_of_linesOfBytes {b : ByteArray} {l : List String}
    (h : linesOfBytes b = l.map some) : ∃ s, b = s.toUTF8 ∧ l = lines s := by
  have hb : ∀ line ∈ split 0x0A 0x0D b.data.toList, ∃ u, line = encode u := by
    intro line hl
    have hm : String.fromUTF8? ⟨line.toArray⟩ ∈ l.map some := h ▸ List.mem_map_of_mem hl
    obtain ⟨s, -, hs⟩ := List.mem_map.1 hm
    have he := (fromUTF8?_eq_some_iff.1 hs.symm).trans (toByteArray_eq_encode s)
    exact ⟨s.toList, by simpa using he⟩
  obtain ⟨u, hu⟩ := exists_encode_of_splitFrom hb
  have hs : b = (String.ofList u).toUTF8 := by
    rw [toByteArray_eq_encode, String.toList_ofList]
    exact ByteArray.ext (Array.toList_inj.1 hu)
  refine ⟨String.ofList u, hs, ?_⟩
  rw [hs, linesOfBytes_toUTF8] at h
  exact (List.map_injective_iff.2 (fun _ _ => Option.some.inj) h).symm

end ViewPoints.Text
