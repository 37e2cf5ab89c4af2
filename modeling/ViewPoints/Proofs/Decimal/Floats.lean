import ViewPoints.Proofs.Decimal.Rounding

/-!
The texts that floats are read from: numbers and a few words, with or without a sign. A finite
float is read from a number that is not beyond all floats, and from nothing else.
-/

namespace ViewPoints.Decimal

open Binary

variable {d : Decimal}

/-- What may stand in front of a number. -/
inductive Signs : List Char → Bool → Prop where
  | none : Signs [] false
  | plus : Signs ['+'] false
  | minus : Signs ['-'] true

/-- A word for an infinity or for what is no number, in any case. -/
def IsWord (s : List Char) : Prop :=
  s.map Text.lower ∈ [['i', 'n', 'f'], ['i', 'n', 'f', 'i', 'n', 'i', 't', 'y'], ['n', 'a', 'n']]

/-- A number or such a word, with or without a sign. -/
def Readable (s : List Char) : Prop :=
  ∃ sign negative u, Signs sign negative ∧ s = sign ++ u ∧ (IsWord u ∨ ∃ d, Numeral u d)

/-- A number that is not beyond all floats. -/
def Numerical (s : List Char) : Prop :=
  ∃ sign negative u d, Signs sign negative ∧ Numeral u d ∧ s = sign ++ u ∧ d.value < overflow

/-- A number begins with a digit or with its point. -/
lemma Numeral.exists_cons {s : List Char} (h : Numeral s d) :
    ∃ c t, s = c :: t ∧ (Text.isPlainDigit c = true ∨ c = '.') := by
  cases h with
  | @mk whole point fraction tail power hw hf hne hp =>
    cases whole with
    | cons c whole => exact ⟨c, whole ++ point ++ tail, by simp, .inl (hw c List.mem_cons_self)⟩
    | nil =>
      cases hf with
      | none => exact absurd rfl hne
      | some h => exact ⟨'.', fraction ++ tail, rfl, .inr rfl⟩

lemma lower_ne {c x : Char} (hc : Text.isPlainLetter c = false)
    (hx : Text.isPlainLetter x = true) : Text.lower c ≠ x := by
  have hl : Text.lower c = c := by
    simp only [Text.isPlainLetter, Bool.or_eq_false_iff] at hc
    rw [Text.lower, hc.1]
    rfl
  rw [hl]
  rintro rfl
  simp [hc] at hx

/-- Of what does not begin with a letter only numbers are read. -/
lemma readMagnitude?_eq {s : List Char} (h : ∀ c ∈ s.head?, Text.isPlainLetter c = false) :
    readMagnitude? s = (read? s).map toFloat := by
  cases s with
  | nil => rfl
  | cons c s =>
    have hc := h c rfl
    have hi := lower_ne hc (x := 'i') (by decide)
    have hn := lower_ne hc (x := 'n') (by decide)
    simp only [readMagnitude?, List.map_cons, List.cons.injEq, hi, hn, false_and, Bool.or_self,
      decide_false, Bool.false_eq_true, if_false]

lemma readFloat?_eq {s : List Char} (h : ∀ c ∈ s.head?, c ≠ '-' ∧ c ≠ '+') :
    readFloat? s = readMagnitude? s := by
  unfold readFloat?
  split
  next => exact absurd rfl (h '-' rfl).1
  next => exact absurd rfl (h '+' rfl).2
  next => rfl

lemma isSome_readMagnitude?_iff {s : List Char} :
    (readMagnitude? s).isSome = true ↔ IsWord s ∨ ∃ d, Numeral s d := by
  have hr : (read? s).isSome = true ↔ ∃ d, Numeral s d := by
    simp only [Option.isSome_iff_exists, read?_eq_some_iff]
  unfold readMagnitude? IsWord
  simp only [Bool.or_eq_true, decide_eq_true_eq, List.mem_cons, List.not_mem_nil, or_false]
  split_ifs with h₁ h₂
  · rcases h₁ with h₁ | h₁ <;> simp [h₁]
  · simp [h₂]
  · rw [not_or] at h₁
    simp only [h₁, h₂, false_or, Option.isSome_map, hr]

/-- Neither a word nor a number begins with a sign. -/
lemma ne_sign {s : List Char} (h : IsWord s ∨ ∃ d, Numeral s d) :
    ∀ c ∈ s.head?, c ≠ '-' ∧ c ≠ '+' := by
  rcases h with h | ⟨d, h⟩
  · cases s with
    | nil => simp
    | cons c s =>
      have hc : Text.lower c = 'i' ∨ Text.lower c = 'n' := by
        simp only [IsWord, List.map_cons, List.mem_cons, List.cons.injEq, List.not_mem_nil,
          or_false] at h
        exact h.elim (.inl ·.1) fun h => h.imp And.left And.left
      rintro _ ⟨⟩
      constructor <;> rintro rfl <;> exact absurd hc (by decide)
  · obtain ⟨c, t, rfl, hc⟩ := h.exists_cons
    rintro _ ⟨⟩
    constructor <;> rintro rfl <;> exact absurd hc (by decide)

theorem isSome_readFloat?_iff {s : List Char} : (readFloat? s).isSome = true ↔ Readable s := by
  constructor
  · intro h
    unfold readFloat? at h
    split at h
    next s =>
      rw [Option.isSome_map] at h
      exact ⟨_, _, s, .minus, rfl, isSome_readMagnitude?_iff.1 h⟩
    next s => exact ⟨_, _, s, .plus, rfl, isSome_readMagnitude?_iff.1 h⟩
    next => exact ⟨_, _, s, .none, rfl, isSome_readMagnitude?_iff.1 h⟩
  · rintro ⟨sign, n, u, hs, rfl, hu⟩
    have hm := isSome_readMagnitude?_iff.2 hu
    cases hs with
    | minus => exact (Option.isSome_map ..).trans hm
    | plus => exact hm
    | none =>
      rw [List.nil_append, readFloat?_eq (ne_sign hu)]
      exact hm

/-- A number is read as the nearest float of its sign. -/
theorem readFloat?_of_numeral {sign u : List Char} {n : Bool} (hs : Signs sign n)
    (h : Numeral u d) : ∃ x, readFloat? (sign ++ u) = some x ∧ Rounded x n d.value := by
  obtain ⟨c, t, hu, hc⟩ := h.exists_cons
  have hletter : ∀ c ∈ u.head?, Text.isPlainLetter c = false := by
    rw [hu]
    rintro _ ⟨⟩
    rcases hc with hc | rfl
    · have := Text.isPlainDigit_iff.1 hc
      simp [Text.isPlainLetter]
      omega
    · decide
  have hm : readMagnitude? u = some d.toFloat := by
    rw [readMagnitude?_eq hletter, read?_of_numeral h]
    rfl
  have hr := rounded_toFloat d
  cases hs with
  | minus => exact ⟨_, congrArg (Option.map _) hm, hr.neg⟩
  | plus => exact ⟨_, hm, hr⟩
  | none => exact ⟨_, (readFloat?_eq (ne_sign (.inr ⟨d, h⟩))).trans hm, hr⟩

lemma numeral_of_readMagnitude? {s : List Char} {x : Float} (h : readMagnitude? s = some x)
    (hx : isFinite x = true ∨ isFinite (-x) = true) : ∃ d, Numeral s d := by
  unfold readMagnitude? at h
  dsimp only at h
  split_ifs at h
  · obtain rfl := Option.some.inj h
    exact absurd hx (by decide +kernel)
  · obtain rfl := Option.some.inj h
    exact absurd hx (by decide +kernel)
  · obtain ⟨d, hd, -⟩ := Option.map_eq_some_iff.1 h
    exact ⟨d, numeral_of_read? hd⟩

/-- What is read as a finite float is a number, not one of the words. -/
lemma numeral_of_readFloat? {s : List Char} {x : Float} (h : readFloat? s = some x)
    (hx : isFinite x = true) : ∃ sign n u d, Signs sign n ∧ Numeral u d ∧ s = sign ++ u := by
  unfold readFloat? at h
  split at h
  · obtain ⟨y, hy, rfl⟩ := Option.map_eq_some_iff.1 h
    obtain ⟨d, hd⟩ := numeral_of_readMagnitude? hy (.inr hx)
    exact ⟨_, _, _, d, .minus, hd, rfl⟩
  · obtain ⟨d, hd⟩ := numeral_of_readMagnitude? h (.inl hx)
    exact ⟨_, _, _, d, .plus, hd, rfl⟩
  · obtain ⟨d, hd⟩ := numeral_of_readMagnitude? h (.inl hx)
    exact ⟨_, _, _, d, .none, hd, rfl⟩

/-- The texts that are read as finite floats. -/
theorem exists_isFinite_iff (s : List Char) :
    (∃ x, readFloat? s = some x ∧ isFinite x = true) ↔ Numerical s := by
  constructor
  · rintro ⟨x, h, hx⟩
    obtain ⟨sign, n, u, d, hs, hd, rfl⟩ := numeral_of_readFloat? h hx
    obtain ⟨y, hy, hr⟩ := readFloat?_of_numeral hs hd
    obtain rfl := Option.some.inj (h.symm.trans hy)
    exact ⟨sign, n, u, d, hs, hd, rfl, hr.isFinite_iff.1 hx⟩
  · rintro ⟨sign, n, u, d, hs, hd, rfl, hv⟩
    obtain ⟨x, hx, hr⟩ := readFloat?_of_numeral hs hd
    exact ⟨x, hx, hr.isFinite_iff.2 hv⟩

lemma isFinite_iff_numerical {s : List Char} {x : Float} (h : readFloat? s = some x) :
    isFinite x = true ↔ Numerical s := by
  rw [← exists_isFinite_iff]
  constructor
  · exact fun hx => ⟨x, h, hx⟩
  · rintro ⟨y, hy, hx⟩
    rwa [Option.some.inj (h.symm.trans hy)]

end ViewPoints.Decimal
