import ViewPoints.Proofs.Binary.Rounding
import ViewPoints.Proofs.Decimal.Layout

/-!
The shortest decimal of a float is one of the numbers that round to the float. No number rounds to
two floats, so the decimal determines the float.
-/

namespace ViewPoints.Decimal

open Binary (Fits full least two_zpow_pos)

variable {m m' : Nat} {e e' : Int} {q : ℚ}

/-! ### The numbers that round to a float -/

/-- Halfway to the float below. Below a power of two that float is at half the distance. -/
def lower (m : Nat) (e : Int) : ℚ :=
  m * 2 ^ e - (if m = full ∧ least < e then 2 ^ e / 4 else 2 ^ e / 2)

/-- Halfway to the float above. -/
def upper (m : Nat) (e : Int) : ℚ := m * 2 ^ e + 2 ^ e / 2

/-- A number rounds to a float when it is not beyond halfway to a neighbour. Halfway it rounds to
the even mantissa. -/
structure RoundsTo (m : Nat) (e : Int) (q : ℚ) : Prop where
  lower_le : lower m e ≤ q
  le_upper : q ≤ upper m e
  inside : m % 2 = 1 → lower m e < q ∧ q < upper m e

lemma lower_le (m : Nat) (e : Int) : m * 2 ^ e - 2 ^ e / 2 ≤ lower m e := by
  have h2 := two_zpow_pos e
  unfold lower
  split <;> linarith

lemma lower_pos (hm : 0 < m) (e : Int) : 0 < lower m e := by
  have h2 := two_zpow_pos e
  have h1 : (1 : ℚ) ≤ m := by exact_mod_cast hm
  calc (0 : ℚ) < 1 * 2 ^ e - 2 ^ e / 2 := by linarith
    _ ≤ m * 2 ^ e - 2 ^ e / 2 := by gcongr
    _ ≤ lower m e := lower_le m e

/-- Two floats of one exponent are halfway apart at most in one number, which rounds to one of
them. -/
lemma apart_of_lt (h : Fits m e) (hm : m < m') :
    upper m e < lower m' e ∨ upper m e = lower m' e ∧ (m % 2 = 1 ∨ m' % 2 = 1) := by
  have h2 := two_zpow_pos e
  have hl : lower m' e = m' * 2 ^ e - 2 ^ e / 2 := by
    -- the mantissa before a power of two belongs to the exponent before
    have hn : ¬ (m' = full ∧ least < e) := by
      have := h.full_or_least
      omega
    rw [lower, if_neg hn]
  rw [hl, upper]
  rcases Nat.lt_or_eq_of_le hm with hm | rfl
  · left
    have h1 : (m : ℚ) + 1 + 1 ≤ m' := by exact_mod_cast hm
    have := mul_le_mul_of_nonneg_right h1 h2.le
    linarith
  · right
    refine ⟨?_, by omega⟩
    push_cast
    ring

/-- The same of two floats of different exponents. -/
lemma apart_of_exponent_lt (h : Fits m e) (h' : Fits m' e') (he : e < e') :
    upper m e < lower m' e' ∨ upper m e = lower m' e' ∧ (m % 2 = 1 ∨ m' % 2 = 1) := by
  have h2 := two_zpow_pos e
  have h2' := two_zpow_pos e'
  have hle : 2 * (2 : ℚ) ^ e ≤ 2 ^ e' := by
    rw [mul_comm, ← zpow_add_one₀ two_ne_zero]
    exact zpow_le_zpow_right₀ one_le_two he
  have hleast : least < e' := h.least_le.trans_lt he
  have hfull : full ≤ m' := h'.full_or_least.resolve_right hleast.ne'
  have hl : (full - 1 / 4) * 2 ^ e' ≤ lower m' e' := by
    unfold lower
    split
    next hm => rw [hm.1]; linarith
    next hm =>
      have h1 : (full : ℚ) + 1 ≤ m' := by exact_mod_cast (show full + 1 ≤ m' by omega)
      have := mul_le_mul_of_nonneg_right h1 h2'.le
      linarith
  have hpos : (0 : ℚ) ≤ full - 1 / 4 := by norm_num [full]
  have hl' : (full - 1 / 4) * (2 * 2 ^ e) ≤ lower m' e' :=
    (mul_le_mul_of_nonneg_left hle hpos).trans hl
  rcases Nat.lt_or_eq_of_le (show m + 1 ≤ 2 * full from h.mantissa_lt) with hm | hm
  · left
    have h1 : (m : ℚ) + 1 + 1 ≤ 2 * full := by exact_mod_cast hm
    have := mul_le_mul_of_nonneg_right h1 h2.le
    unfold upper
    linarith
  · have h1 : (m : ℚ) + 1 = 2 * full := by exact_mod_cast hm
    have hu : upper m e = (full - 1 / 4) * (2 * 2 ^ e) := by
      rw [upper, show (m : ℚ) = 2 * full - 1 by linarith]
      ring
    rcases (hu.trans_le hl').lt_or_eq with hlt | heq
    · exact .inl hlt
    · exact .inr ⟨heq, .inl (by omega)⟩

namespace RoundsTo

lemma false_of_apart (hq : RoundsTo m e q) (hq' : RoundsTo m' e' q)
    (h : upper m e < lower m' e' ∨ upper m e = lower m' e' ∧ (m % 2 = 1 ∨ m' % 2 = 1)) :
    False := by
  rcases h with h | ⟨h, ho | ho⟩
  · exact absurd (hq'.lower_le.trans hq.le_upper) h.not_ge
  · exact absurd (hq'.lower_le.trans_lt (hq.inside ho).2) h.le.not_gt
  · exact absurd ((hq'.inside ho).1.trans_le hq.le_upper) h.le.not_gt

/-- A number rounds to one float only. -/
theorem eq (hq : RoundsTo m e q) (hq' : RoundsTo m' e' q) (h : Fits m e) (h' : Fits m' e') :
    m = m' ∧ e = e' := by
  rcases lt_trichotomy e e' with he | rfl | he
  · exact (hq.false_of_apart hq' (apart_of_exponent_lt h h' he)).elim
  · rcases lt_trichotomy m m' with hm | rfl | hm
    · exact (hq.false_of_apart hq' (apart_of_lt h hm)).elim
    · exact ⟨rfl, rfl⟩
    · exact (hq'.false_of_apart hq (apart_of_lt h' hm)).elim
  · exact (hq'.false_of_apart hq (apart_of_exponent_lt h' h he)).elim

lemma pos (hq : RoundsTo m e q) (hm : 0 < m) : 0 < q :=
  (lower_pos hm e).trans_le hq.lower_le

end RoundsTo

/-! ### The points of a grid -/

namespace Range

variable {r : Range}

lemma contains_of_nearest? {step n : Nat} (h : r.nearest? step = some n) :
    r.contains (n * step) = true := by
  simp only [nearest?, Bool.and_eq_true] at h
  split_ifs at h with h₁ h₂ h₃ h₄ <;> obtain rfl := Option.some.inj h
  · exact h₁.1
  · exact h₁.2
  · exact h₃
  · exact h₄

/-- A point of some grid of the range. -/
lemma contains_coarsest (hr : r.contains r.value = true) (k : Nat) :
    ∃ j : Nat, (r.coarsest k).exponent = j - (r.places : Int) ∧
      r.contains ((r.coarsest k).coefficient * 10 ^ j) = true := by
  induction k with
  | zero => exact ⟨0, by simp [coarsest], by simpa [coarsest] using hr⟩
  | succ k ih =>
    unfold coarsest
    split
    next n hn => exact ⟨k + 1, rfl, contains_of_nearest? hn⟩
    next => exact ih

lemma contains_iff (r : Range) (n : Nat) : r.contains n = true ↔
    r.low ≤ n ∧ n ≤ r.high ∧ (r.closed = false → r.low < n ∧ n < r.high) := by
  unfold contains
  split
  next h => simp [h]
  next h =>
    simp [h]
    omega

/-- A quarter of the distance of floats, in units of the range. -/
def quarter (e : Int) : Nat := 2 ^ (e + (2 - e).toNat - 2).toNat * 5 ^ (2 - e).toNat

lemma four_mul_quarter (e : Int) :
    Nat.pow 2 (e + (2 - e).toNat).toNat * Nat.pow 5 (2 - e).toNat = 4 * quarter e := by
  have hk : (e + (2 - e).toNat).toNat = (e + (2 - e).toNat - 2).toNat + 2 := by omega
  rw [hk, Nat.pow_eq, Nat.pow_eq, pow_add, quarter]
  ring

lemma quarter_mul_unit (e : Int) :
    4 * (quarter e : ℚ) * 10 ^ (-((2 - e).toNat : Int)) = 2 ^ e := by
  have hg : 4 * (quarter e : ℚ) = 2 ^ (e + (2 - e).toNat) * 5 ^ (2 - e).toNat := by
    rw [← Int.toNat_of_nonneg (show 0 ≤ e + (2 - e).toNat by omega), zpow_natCast]
    exact_mod_cast (four_mul_quarter e).symm
  rw [hg, zpow_add₀ two_ne_zero, zpow_neg, zpow_natCast, zpow_natCast,
    show (10 : ℚ) = 2 * 5 by norm_num, mul_pow]
  field_simp

lemma value_of (m : Nat) (e : Int) : (Range.of m e).value = m * (4 * quarter e) := by
  rw [← four_mul_quarter]
  rfl

lemma low_of (m : Nat) (e : Int) : (Range.of m e).low =
    m * (4 * quarter e) - if m = full ∧ least < e then quarter e else 2 * quarter e := by
  rw [← value_of]
  simp only [Range.of, four_mul_quarter]
  split_ifs <;> omega

lemma high_of (m : Nat) (e : Int) :
    (Range.of m e).high = m * (4 * quarter e) + 2 * quarter e := by
  rw [← value_of]
  simp only [Range.of, four_mul_quarter]
  omega

lemma low_mul_unit (hm : 0 < m) (e : Int) :
    ((Range.of m e).low : ℚ) * 10 ^ (-((Range.of m e).places : Int)) = lower m e := by
  have hu := quarter_mul_unit e
  have hle : 1 * (4 * quarter e) ≤ m * (4 * quarter e) := Nat.mul_le_mul_right _ hm
  rw [low_of, lower, show (Range.of m e).places = (2 - e).toNat from rfl, ← hu]
  split
  · rw [Nat.cast_sub (by omega)]
    push_cast
    ring
  · rw [Nat.cast_sub (by omega)]
    push_cast
    ring

lemma high_mul_unit (m : Nat) (e : Int) :
    ((Range.of m e).high : ℚ) * 10 ^ (-((Range.of m e).places : Int)) = upper m e := by
  have hu := quarter_mul_unit e
  rw [high_of, upper, show (Range.of m e).places = (2 - e).toNat from rfl, ← hu]
  push_cast
  ring

/-- What the range contains rounds to the float. -/
lemma roundsTo_of_contains (hm : 0 < m) {n : Nat} (h : (Range.of m e).contains n = true) :
    RoundsTo m e (n * 10 ^ (-((Range.of m e).places : Int))) := by
  obtain ⟨hl, hh, hi⟩ := (contains_iff _ n).1 h
  constructor
  case lower_le =>
    rw [← low_mul_unit hm]
    gcongr
  case le_upper =>
    rw [← high_mul_unit]
    gcongr
  case inside =>
    intro ho
    obtain ⟨hl, hh⟩ := hi (by simp [Range.of, ho])
    rw [← low_mul_unit hm, ← high_mul_unit]
    constructor <;> gcongr

lemma contains_value (m : Nat) (e : Int) :
    (Range.of m e).contains (Range.of m e).value = true := by
  have hq : 0 < quarter e := by
    unfold quarter
    positivity
  rw [contains_iff, low_of, high_of, value_of]
  refine ⟨Nat.sub_le .., Nat.le_add_right .., fun ho => ?_⟩
  have hm : 0 < m := by
    by_contra h
    simp [Range.of, Nat.eq_zero_of_not_pos h] at ho
  have hv : 0 < m * (4 * quarter e) := by positivity
  exact ⟨Nat.sub_lt hv (by split <;> omega), by omega⟩

end Range

/-! ### The shortest decimal -/

lemma shortest_zero (e : Int) : shortest 0 e = ⟨0, 0⟩ := rfl

/-- The shortest decimal of a float rounds to it. -/
theorem roundsTo_shortest (hm : 0 < m) (e : Int) : RoundsTo m e (shortest m e).value := by
  obtain ⟨j, he, hc⟩ := Range.contains_coarsest (Range.contains_value m e)
    (Nat.log2 (Range.of m e).high / 3 + 1)
  have hr := Range.roundsTo_of_contains hm hc
  rw [shortest, if_neg hm.ne', value, he]
  convert hr using 1
  rw [sub_eq_add_neg, zpow_add₀ (by norm_num), zpow_natCast]
  push_cast
  ring

lemma value_shortest_zero (e : Int) : (shortest 0 e).value = 0 := by
  simp [shortest_zero, value]

/-- The shortest decimal of a float is zero only for zero, and it is written as such. -/
lemma shortest_pos_or_zero (m : Nat) (e : Int) :
    0 < (shortest m e).coefficient ∨ shortest m e = ⟨0, 0⟩ := by
  rcases m.eq_zero_or_pos with rfl | hm
  · exact .inr (shortest_zero e)
  · left
    by_contra h
    have hp := (roundsTo_shortest hm e).pos hm
    rw [value, Nat.eq_zero_of_not_pos h] at hp
    simp at hp

/-- Floats whose shortest decimals have one value are the same. -/
theorem eq_of_value_shortest (h : Fits m e) (h' : Fits m' e')
    (hv : (shortest m e).value = (shortest m' e').value) : m = m' ∧ e = e' := by
  rcases m.eq_zero_or_pos with rfl | hm <;> rcases m'.eq_zero_or_pos with rfl | hm'
  · have := h.full_or_least.resolve_left (by decide)
    have := h'.full_or_least.resolve_left (by decide)
    exact ⟨rfl, by omega⟩
  · rw [value_shortest_zero] at hv
    exact absurd hv ((roundsTo_shortest hm' e').pos hm').ne
  · rw [value_shortest_zero] at hv
    exact absurd hv ((roundsTo_shortest hm e).pos hm).ne'
  · exact (roundsTo_shortest hm e).eq (hv ▸ roundsTo_shortest hm' e') h h'

end ViewPoints.Decimal
