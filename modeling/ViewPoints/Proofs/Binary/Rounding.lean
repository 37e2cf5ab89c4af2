import ViewPoints.Proofs.Binary.Layout

/-!
Rounding to the nearest float. Float arithmetic finds its results exactly, as a mantissa with an
exponent and a note of the digits behind them, and drops digits until the mantissa fits. Of the
digits dropped it keeps what tells on which side of a half they lie.
-/

namespace ViewPoints.Binary

open Float.Model Float.Model.UnpackedFloat

/-- A mantissa stands for a number from it up to the next. The digits behind it are all noted as
far as they tell where the number is: the first of them, and whether any is behind that. -/
def Stands (em : ExtendedMantissa) (r : ℚ) : Prop :=
  match em.roundBit, em.stickyBit with
  | false, false => r = em.mantissa
  | false, true => em.mantissa < r ∧ r < em.mantissa + 1 / 2
  | true, false => r = em.mantissa + 1 / 2
  | true, true => em.mantissa + 1 / 2 < r ∧ r < em.mantissa + 1

/-- A number rounded: the nearest multiple of a power of two. That power is the distance of floats
of this size, of which the smallest ones are equally far apart. -/
def Nearest (q v : ℚ) : Prop :=
  ∃ t k : ℤ, v = k * 2 ^ t ∧ |v - q| ≤ 2 ^ t / 2 ∧ least ≤ t ∧ (t = least ∨ 2 ^ (t + 52) ≤ q)

/-- A result is a number of this sign and of a size rounded to a float. -/
def Rounds (u : UnpackedFloat) (negative : Bool) (q : ℚ) : Prop :=
  ∃ m e, Fits m e ∧ Nearest q (m * 2 ^ e) ∧ u = (finite negative m e).unpacked

/-- Up to here results stay clear of the largest float. -/
def large : ℚ := 2 ^ (1022 : ℤ)

/-- Halfway between the largest float and the power of two above it. From here on a number is
rounded beyond all floats. -/
def overflow : ℚ := (2 * full - 1 / 2) * 2 ^ greatest

/-- A result is a number of this sign and of a size rounded to a mantissa that fits. The exponent
that it takes is one of floats as long as the number is not too large. -/
def Trims (u : UnpackedFloat) (negative : Bool) (q : ℚ) : Prop :=
  ∃ m e, m < 2 * full ∧ least ≤ e ∧ (full ≤ m ∨ e = least) ∧ Nearest q (m * 2 ^ e) ∧
    (e ≤ greatest ↔ q < overflow) ∧ u = (finite negative m e).unpacked

lemma le_large {q : ℚ} {n : ℤ} (hq : q ≤ 2 ^ n) (hn : n ≤ 1022) : q ≤ large :=
  hq.trans (zpow_le_zpow_right₀ one_le_two hn)

lemma two_zpow_pos (t : ℤ) : (0 : ℚ) < 2 ^ t := zpow_pos two_pos t

lemma two_zpow_lt_overflow {i : ℤ} (hi : i ≤ greatest + 52) : 2 ^ i < overflow := by
  have h2 := two_zpow_pos greatest
  refine (zpow_le_zpow_right₀ one_le_two hi).trans_lt ?_
  rw [add_comm, zpow_add₀ two_ne_zero, overflow]
  gcongr
  norm_num [full]

lemma overflow_lt : overflow < 2 ^ (greatest + 53) := by
  have h2 := two_zpow_pos greatest
  rw [add_comm, zpow_add₀ two_ne_zero, overflow]
  gcongr
  norm_num [full]

lemma Trims.rounds {u : UnpackedFloat} {n : Bool} {q : ℚ} (h : Trims u n q) (hq : q < overflow) :
    Rounds u n q := by
  obtain ⟨m, e, hm, hl, hf, hn, hg, hu⟩ := h
  exact ⟨m, e, ⟨hm, hl, hg.2 hq, hf⟩, hn, hu⟩

lemma two_zpow_le_iff {i j : ℤ} : (2 : ℚ) ^ i ≤ 2 ^ j ↔ i ≤ j :=
  zpow_le_zpow_iff_right₀ one_lt_two

/-! ### The nearest float -/

lemma Fits.nearest {m : ℕ} {e : ℤ} (h : Fits m e) : Nearest (m * 2 ^ e) (m * 2 ^ e) := by
  refine ⟨e, m, rfl, ?_, h.least_le, ?_⟩
  · rw [sub_self, abs_zero]
    exact (half_pos (two_zpow_pos e)).le
  · rcases h.full_or_least with hm | rfl
    · right
      calc (2 : ℚ) ^ (e + 52) = (full : ℚ) * 2 ^ e := by
            rw [add_comm, zpow_add₀ two_ne_zero]
            norm_num [full]
        _ ≤ m * 2 ^ e := by
            gcongr
    · exact .inl rfl

namespace Nearest

variable {q v : ℚ}

/-- The error is at most half the distance of floats of this size. -/
lemma abs_sub_le (h : Nearest q v) {n : ℤ} (hn : least + 52 ≤ n) (hq : q ≤ 2 ^ n) :
    |v - q| ≤ 2 ^ (n - 53) := by
  obtain ⟨t, k, -, hle, -, ht⟩ := h
  have htn : t ≤ n - 52 := by
    rcases ht with rfl | ht
    · omega
    · have := two_zpow_le_iff.1 (ht.trans hq)
      omega
  calc |v - q| ≤ 2 ^ t / 2 := hle
    _ ≤ 2 ^ (n - 52) / 2 := by
      gcongr
      exact one_le_two
    _ = 2 ^ (n - 53) := by
      rw [show n - 53 = n - 52 - 1 by ring, zpow_sub_one₀ two_ne_zero]
      rfl

/-- A number that has few enough digits is kept. -/
lemma eq_of_digits (h : Nearest q v) {n : ℕ} {j : ℤ} (hq : q = n * 2 ^ j) (hn : n < 2 ^ 53)
    (hj : least ≤ j) : v = q := by
  obtain ⟨t, k, hv, hle, hl, ht⟩ := h
  have htj : t ≤ j := by
    rcases ht with rfl | ht
    · exact hj
    · have : (2 : ℚ) ^ (t + 52) < 2 ^ (j + 53) := by
        calc (2 : ℚ) ^ (t + 52) ≤ n * 2 ^ j := hq ▸ ht
          _ < 2 ^ 53 * 2 ^ j := by
            have := two_zpow_pos j
            gcongr
            exact_mod_cast hn
          _ = 2 ^ (j + 53) := by
            rw [add_comm, zpow_add₀ two_ne_zero]
            rfl
      have : t + 52 < j + 53 := (zpow_lt_zpow_iff_right₀ one_lt_two).1 this
      omega
  have h2 := two_zpow_pos t
  obtain ⟨i, hi⟩ : ∃ i : ℤ, q = i * 2 ^ t := by
    refine ⟨n * 2 ^ (j - t).toNat, ?_⟩
    rw [hq]
    push_cast
    rw [mul_assoc, ← zpow_natCast, Int.toNat_of_nonneg (by omega), ← zpow_add₀ two_ne_zero,
      sub_add_cancel]
  rw [hv, hi, ← sub_mul, abs_mul, abs_of_pos h2] at hle
  have hki : |(k : ℚ) - i| < 1 := by
    by_contra hge
    have := mul_le_mul_of_nonneg_right (not_lt.1 hge) h2.le
    linarith
  have : |k - i| < 1 := by exact_mod_cast hki
  obtain rfl : k = i := by
    rw [Int.abs_lt_one_iff] at this
    omega
  rw [hv, hi]

/-- What is rounded keeps its size up to a factor, unless it is very small. -/
lemma pos (h : Nearest q v) (hq : 2 ^ (least + 52) ≤ q) : 0 < v := by
  obtain ⟨t, k, -, hle, -, ht⟩ := h
  have h2 := two_zpow_pos t
  have hqt : 2 ^ (t + 52) ≤ q := by
    rcases ht with rfl | ht
    · exact hq
    · exact ht
  have : (2 : ℚ) ^ t ≤ 2 ^ (t + 52) := zpow_le_zpow_right₀ one_le_two (by omega)
  have := (abs_le.1 hle).1
  linarith

end Nearest

/-! ### Dropping digits -/

namespace Stands

variable {em : ExtendedMantissa} {r : ℚ}

lemma exact (m : ℕ) : Stands (.ofMantissaAndAccuracy m .exact) m := rfl

/-- A quotient with its remainder stands for the exact quotient. -/
lemma fraction (m : ℕ) {num den : ℕ} (h : num < den) :
    Stands (.ofMantissaAndAccuracy m (accuracyOfFraction num den)) (m + num / den) := by
  have hd : (0 : ℚ) < den := by exact_mod_cast Nat.zero_lt_of_lt h
  have hlt : (num : ℚ) / den < 1 := by
    rw [div_lt_one hd]
    exact_mod_cast h
  unfold accuracyOfFraction
  split_ifs with h0
  · subst h0
    simpa using exact m
  · have hn : (0 : ℚ) < num / den := by
      have : (0 : ℚ) < num := by exact_mod_cast Nat.pos_of_ne_zero h0
      positivity
    rcases lt_trichotomy (2 * num) den with hc | hc | hc
    · have : (num : ℚ) / den < 1 / 2 := by
        rw [div_lt_div_iff₀ hd two_pos]
        exact_mod_cast (by omega : num * 2 < 1 * den)
      rw [Nat.compare_eq_lt.2 hc]
      change (m : ℚ) < _ ∧ _ < (m : ℚ) + _
      constructor <;> linarith
    · have : (num : ℚ) / den = 1 / 2 := by
        rw [div_eq_div_iff hd.ne' two_ne_zero]
        exact_mod_cast (by omega : num * 2 = 1 * den)
      rw [Nat.compare_eq_eq.2 hc]
      exact congrArg (_ + ·) this
    · have : 1 / 2 < (num : ℚ) / den := by
        rw [div_lt_div_iff₀ two_pos hd]
        exact_mod_cast (by omega : 1 * den < num * 2)
      rw [Nat.compare_eq_gt.2 hc]
      change (m : ℚ) + _ < _ ∧ _ < (m : ℚ) + _
      constructor <;> linarith

lemma floor (h : Stands em r) : em.mantissa ≤ r ∧ r < em.mantissa + 1 := by
  obtain ⟨m, _ | _, _ | _⟩ := em <;> simp only [Stands] at h <;> constructor <;> linarith

/-- The digit dropped becomes the first one noted, and the one noted first joins the others. -/
lemma shiftRightOne (h : Stands em r) : Stands em.shiftRightOne (r / 2) := by
  obtain ⟨m, b, c⟩ := em
  obtain ⟨d, hd, hd'⟩ : ∃ d : Bool, (m % 2 != 0) = d ∧ m % 2 = d.toNat := by
    rcases Nat.mod_two_eq_zero_or_one m with h | h <;> rw [h]
    · exact ⟨false, rfl, rfl⟩
    · exact ⟨true, rfl, rfl⟩
  have hm : (m : ℚ) = 2 * (m / 2 : ℕ) + d.toNat := by
    rw [← hd']
    exact_mod_cast (Nat.div_add_mod m 2).symm
  cases d <;> cases b <;> cases c <;>
    simp only [Stands, ExtendedMantissa.shiftRightOne, hd, Bool.or_self, Bool.or_true,
      Bool.or_false, Bool.toNat_true, Bool.toNat_false, Nat.cast_one, Nat.cast_zero] at h hm ⊢ <;>
    first | linarith | exact ⟨by linarith, by linarith⟩

lemma shiftRight (h : Stands em r) (k : ℕ) : Stands (em >>> k) (r / 2 ^ k) := by
  induction k with
  | zero =>
    rw [pow_zero, div_one]
    exact h
  | succ k ih =>
    rw [pow_succ, ← div_div]
    exact ih.shiftRightOne

/-- A mantissa is rounded to the nearest whole number. -/
lemma abs_roundedMantissa_sub (h : Stands em r) : |(em.roundedMantissa : ℚ) - r| ≤ 1 / 2 := by
  obtain ⟨m, b, c⟩ := em
  cases b <;> cases c <;>
    simp only [Stands, ExtendedMantissa.roundedMantissa, ExtendedMantissa.accuracy,
      Accuracy.roundToNearestEven] at h ⊢ <;> rw [abs_le]
  · constructor <;> linarith
  · constructor <;> linarith
  · rcases Nat.mod_two_eq_zero_or_one m with h2 | h2 <;> rw [h2] <;> push_cast <;>
      constructor <;> linarith
  · push_cast
    constructor <;> linarith

/-- A mantissa gets one digit too many from halfway on: there the odd mantissa is rounded up. -/
lemma two_mul_full_le_iff (h : Stands em r) :
    2 * full ≤ em.roundedMantissa ↔ 2 * full - 1 / 2 ≤ r := by
  obtain ⟨hlo, hhi⟩ := abs_le.1 h.abs_roundedMantissa_sub
  have hcast : ((2 * full : ℕ) : ℚ) = 2 * full := by push_cast; ring
  constructor
  · intro hm
    have : ((2 * full : ℕ) : ℚ) ≤ em.roundedMantissa := by exact_mod_cast hm
    linarith
  · intro hr
    by_contra hm
    have hlt : (em.roundedMantissa : ℚ) + 1 ≤ (2 * full : ℕ) := by exact_mod_cast not_le.1 hm
    -- only a tie is left, and it is not rounded to an odd mantissa
    have htie : r = em.roundedMantissa + 1 / 2 := by linarith
    have hodd : em.roundedMantissa + 1 = 2 * full := by
      have : ((em.roundedMantissa + 1 : ℕ) : ℚ) = (2 * full : ℕ) := by push_cast; linarith
      exact_mod_cast this
    obtain ⟨m, b, c⟩ := em
    cases b <;> cases c <;>
      simp only [Stands, ExtendedMantissa.roundedMantissa, ExtendedMantissa.accuracy,
        Accuracy.roundToNearestEven] at h htie hodd
    · linarith
    · linarith
    · have : ((m + m % 2 : ℕ) : ℚ) = m := by linarith
      have : m + m % 2 = m := by exact_mod_cast this
      omega
    · push_cast at htie
      linarith

end Stands

/-! ### The exponent that a result gets -/

lemma targetExponent_eq (i : ℤ) : Format.binary64.targetExponent i = max (i - 53) least := rfl

lemma targetExponent_totalExponent (m : ℕ) (e : ℤ) :
    Format.binary64.targetExponent (totalExponent m e) = max (m.log2 + e - 52) least := by
  rw [targetExponent_eq, totalExponent]
  omega

lemma shift_of_lt {m : ℕ} {e : ℤ} (hm : m < 2 * full) (he : least ≤ e) :
    shiftToTargetExponent Format.binary64 m e .exact = (⟨m, false, false⟩, e) := by
  have hlog : m.log2 ≤ 52 := by
    by_cases h0 : m = 0
    · rw [h0]
      decide
    · exact Nat.le_of_lt_succ ((Nat.log2_lt h0).2 hm)
  have hk : (max (m.log2 + e - 52) least - e).toNat = 0 := by omega
  unfold shiftToTargetExponent shiftToExponent
  simp only [targetExponent_totalExponent, hk]
  rw [Nat.cast_zero, add_zero]
  rfl

/-- One digit too many, after rounding up. -/
lemma shift_of_eq {e : ℤ} (he : least ≤ e) :
    shiftToTargetExponent Format.binary64 (2 * full) e .exact = (⟨full, false, false⟩, e + 1) := by
  have hk : (max (((2 * full).log2 : ℕ) + e - 52) least - e).toNat = 1 := by
    have : (2 * full).log2 = 53 := by decide
    omega
  unfold shiftToTargetExponent shiftToExponent
  simp only [targetExponent_totalExponent, hk]
  rfl

/-! ### The rounded result -/

lemma nearest_of_abs_sub_le {q : ℚ} {r : ℕ} {t : ℤ} (hr : |(r : ℚ) - q / 2 ^ t| ≤ 1 / 2)
    (hl : least ≤ t) (ht : t = least ∨ 2 ^ (t + 52) ≤ q) : Nearest q (r * 2 ^ t) := by
  have h2 := two_zpow_pos t
  refine ⟨t, r, by push_cast; rfl, ?_, hl, ht⟩
  calc |(r : ℚ) * 2 ^ t - q| = |(r : ℚ) - q / 2 ^ t| * 2 ^ t := by
        rw [← abs_of_pos h2, ← abs_mul, abs_of_pos h2, sub_mul, div_mul_cancel₀ _ h2.ne']
    _ ≤ 1 / 2 * 2 ^ t := by gcongr
    _ = 2 ^ t / 2 := by ring

/-- The size of a number, from the mantissa that stands for it. -/
lemma bounds_of_stands {m : ℕ} {e : ℤ} {acc : Accuracy} {q : ℚ}
    (hs : Stands (.ofMantissaAndAccuracy m acc) (q / 2 ^ e)) :
    q < 2 ^ ((m.log2 : ℤ) + 1 + e) ∧ (m ≠ 0 → 2 ^ ((m.log2 : ℤ) + e) ≤ q) := by
  have h2 := two_zpow_pos e
  have hm : (ExtendedMantissa.ofMantissaAndAccuracy m acc).mantissa = m := by
    cases acc with
    | exact => rfl
    | inexact o => cases o <;> rfl
  obtain ⟨hle, hlt⟩ := hs.floor
  rw [hm] at hle hlt
  rw [le_div_iff₀ h2] at hle
  rw [div_lt_iff₀ h2] at hlt
  constructor
  · calc q < ((m : ℚ) + 1) * 2 ^ e := hlt
      _ ≤ 2 ^ ((m.log2 : ℤ) + 1) * 2 ^ e := by
        gcongr
        exact_mod_cast Nat.lt_log2_self
      _ = 2 ^ ((m.log2 : ℤ) + 1 + e) := (zpow_add₀ two_ne_zero _ _).symm
  · intro h0
    calc (2 : ℚ) ^ ((m.log2 : ℤ) + e) = 2 ^ (m.log2 : ℤ) * 2 ^ e := zpow_add₀ two_ne_zero _ _
      _ ≤ m * 2 ^ e := by
        gcongr
        exact_mod_cast Nat.log2_self_le h0
      _ ≤ q := hle

/-- How far floats of the size of a number are apart. -/
lemma unit_of_stands {m : ℕ} {e : ℤ} {acc : Accuracy} {q : ℚ}
    (hs : Stands (.ofMantissaAndAccuracy m acc) (q / 2 ^ e)) (he : 52 ≤ m.log2 ∨ e ≤ least) {t : ℤ}
    (ht : t = max (m.log2 + e - 52) least) :
    q < 2 ^ (t + 53) ∧ (t = least ∨ 2 ^ (t + 52) ≤ q) := by
  obtain ⟨hlt, hge⟩ := bounds_of_stands hs
  constructor
  · refine hlt.trans_le (zpow_le_zpow_right₀ one_le_two ?_)
    omega
  · by_cases h : t = least
    · exact .inl h
    · have hm : m ≠ 0 := by
        rintro rfl
        have : (0 : ℕ).log2 = 0 := rfl
        omega
      have hte : t + 52 = m.log2 + e := by omega
      exact .inr (hte ▸ hge hm)

lemma rounded_bounds {q : ℚ} {r : ℕ} {t : ℤ} (hr : |(r : ℚ) - q / 2 ^ t| ≤ 1 / 2)
    (hq : q < 2 ^ (t + 53)) (ht : t = least ∨ 2 ^ (t + 52) ≤ q) :
    r ≤ 2 * full ∧ (full ≤ r ∨ t = least) := by
  have h2 := two_zpow_pos t
  obtain ⟨hlo, hhi⟩ := abs_le.1 hr
  constructor
  · have hlt : q / 2 ^ t < 2 ^ 53 := by
      rw [div_lt_iff₀ h2, mul_comm, ← zpow_natCast, ← zpow_add₀ two_ne_zero]
      exact hq
    have : (r : ℚ) < (2 * full : ℕ) + 1 := by
      have : ((2 * full : ℕ) : ℚ) = 2 ^ 53 := by norm_num [full]
      linarith
    have : r < 2 * full + 1 := by exact_mod_cast this
    omega
  · refine ht.symm.imp_left fun ht => ?_
    have hge : 2 ^ 52 ≤ q / 2 ^ t := by
      rw [le_div_iff₀ h2, mul_comm, ← zpow_natCast, ← zpow_add₀ two_ne_zero]
      exact ht
    have : (full : ℚ) < r + 1 := by
      have : (full : ℚ) = 2 ^ 52 := by norm_num [full]
      linarith
    have : full < r + 1 := by exact_mod_cast this
    omega

/-- Where no digit too many comes up, the exponent is one of floats if the number is not too
large. -/
lemma le_greatest_iff {q : ℚ} {t : ℤ} (hr : q / 2 ^ t < 2 * full - 1 / 2)
    (ht : t = least ∨ 2 ^ (t + 52) ≤ q) : t ≤ greatest ↔ q < overflow := by
  have h2 := two_zpow_pos t
  rw [div_lt_iff₀ h2] at hr
  constructor
  · intro htop
    refine hr.trans_le ?_
    rw [overflow]
    gcongr
    · norm_num [full]
    · exact one_le_two
  · intro hq
    by_contra htop
    have hge : 2 ^ (t + 52) ≤ q := ht.resolve_left (by rintro rfl; exact htop (by decide))
    have := (two_zpow_le_iff (i := greatest + 53) (j := t + 52)).2 (by omega)
    exact absurd (this.trans hge) (hq.trans overflow_lt).not_ge

/-- Where one comes up, the exponent is one higher. -/
lemma lt_greatest_iff {q : ℚ} {t : ℤ} (hr : 2 * full - 1 / 2 ≤ q / 2 ^ t)
    (hq : q < 2 ^ (t + 53)) : t + 1 ≤ greatest ↔ q < overflow := by
  have h2 := two_zpow_pos t
  rw [le_div_iff₀ h2] at hr
  constructor
  · intro htop
    exact hq.trans (two_zpow_lt_overflow (by omega))
  · intro hover
    by_contra htop
    refine absurd (hover.trans_le (le_trans ?_ hr)) (lt_irrefl q)
    rw [overflow]
    gcongr
    · norm_num [full]
    · exact one_le_two
    · omega

lemma roundWithAccuracy_of_shifts {m m' : ℕ} {e e' t : ℤ} {acc : Accuracy}
    {em : ExtendedMantissa} {b c : Bool} (negative : Bool)
    (h₁ : shiftToTargetExponent Format.binary64 m e acc = (em, t))
    (h₂ : shiftToTargetExponent Format.binary64 em.roundedMantissa t .exact = (⟨m', b, c⟩, e')) :
    roundWithAccuracy Format.binary64 (sign negative) m e acc =
      (finite negative m' e').unpacked := by
  unfold roundWithAccuracy
  simp only [h₁, h₂]
  rfl

/-- Digits are dropped until the mantissa fits, and once more where rounding up gives it one more
digit. -/
theorem trims_roundWithAccuracy {m : ℕ} {e : ℤ} {acc : Accuracy} {q : ℚ} (negative : Bool)
    (hs : Stands (.ofMantissaAndAccuracy m acc) (q / 2 ^ e)) (he : 52 ≤ m.log2 ∨ e ≤ least) :
    Trims (roundWithAccuracy Format.binary64 (sign negative) m e acc) negative q := by
  have hl : least = -1074 := rfl
  obtain ⟨t, ht⟩ : ∃ t, t = max (m.log2 + e - 52) least := ⟨_, rfl⟩
  obtain ⟨k, hk⟩ : ∃ k : ℕ, k = (t - e).toNat := ⟨_, rfl⟩
  obtain ⟨em, hem⟩ : ∃ em, em = ExtendedMantissa.ofMantissaAndAccuracy m acc >>> k := ⟨_, rfl⟩
  have hek : e + k = t := by omega
  have hfirst : shiftToTargetExponent Format.binary64 m e acc = (em, t) := by
    unfold shiftToTargetExponent shiftToExponent
    simp only [targetExponent_totalExponent, ← ht, ← hk, hek, hem]
  have hstands : Stands em (q / 2 ^ t) := by
    rw [hem, ← hek, zpow_add₀ two_ne_zero, zpow_natCast, ← div_div]
    exact hs.shiftRight k
  have hround := hstands.abs_roundedMantissa_sub
  obtain ⟨hlt, hunit⟩ := unit_of_stands hs he ht
  obtain ⟨hupper, hlower⟩ := rounded_bounds hround hlt hunit
  have hnear := nearest_of_abs_sub_le hround (by omega) hunit
  have htop := hstands.two_mul_full_le_iff
  rcases hupper.lt_or_eq with h | h
  · exact ⟨em.roundedMantissa, t, h, by omega, hlower, hnear,
      le_greatest_iff (not_le.1 (mt htop.2 (by omega))) hunit,
      roundWithAccuracy_of_shifts negative hfirst (shift_of_lt h (by omega))⟩
  · refine ⟨full, t + 1, by decide, by omega, .inl le_rfl, ?_,
      lt_greatest_iff (htop.1 h.ge) hlt,
      roundWithAccuracy_of_shifts negative hfirst (h ▸ shift_of_eq (by omega))⟩
    convert hnear using 1
    rw [h, zpow_add₀ two_ne_zero]
    push_cast
    ring

lemma rounds_roundWithAccuracy {m : ℕ} {e : ℤ} {acc : Accuracy} {q : ℚ} (negative : Bool)
    (hs : Stands (.ofMantissaAndAccuracy m acc) (q / 2 ^ e)) (he : 52 ≤ m.log2 ∨ e ≤ least)
    (hq : q ≤ large) :
    Rounds (roundWithAccuracy Format.binary64 (sign negative) m e acc) negative q :=
  (trims_roundWithAccuracy negative hs he).rounds (hq.trans_lt (two_zpow_lt_overflow (by decide)))

lemma log2_shiftLeft {m : ℕ} (hm : 0 < m) (k : ℕ) : (m <<< k).log2 = m.log2 + k := by
  induction k with
  | zero => rfl
  | succ k ih =>
    rw [Nat.shiftLeft_succ, Nat.log2_two_mul (Nat.ne_of_gt (Nat.shiftLeft_pos_iff.2 hm)), ih]
    rfl

/-- Rounding gives a mantissa its digits before it drops others. -/
theorem rounds_round {m : ℕ} (hm : 0 < m) (e : ℤ) (negative : Bool)
    (hq : (m : ℚ) * 2 ^ e ≤ large) :
    Rounds (UnpackedFloat.round Format.binary64 (sign negative) m e) negative (m * 2 ^ e) := by
  obtain ⟨k, hk⟩ : ∃ k : ℕ, k = (e - max (m.log2 + e - 52) least).toNat := ⟨_, rfl⟩
  have hlog := log2_shiftLeft hm k
  have hvalue : ((m <<< k : ℕ) : ℚ) = m * 2 ^ e / 2 ^ (e - k) := by
    rw [Nat.shiftLeft_eq, zpow_sub₀ two_ne_zero, zpow_natCast]
    have := two_zpow_pos e
    push_cast
    field_simp
  have hstands := Stands.exact (m <<< k)
  rw [hvalue] at hstands
  have h := rounds_roundWithAccuracy negative hstands (by omega) hq
  unfold UnpackedFloat.round decreaseExponent
  simp only [targetExponent_totalExponent, ← hk]
  exact h

end ViewPoints.Binary
