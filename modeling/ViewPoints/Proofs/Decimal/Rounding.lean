import ViewPoints.Proofs.Binary.Whole
import ViewPoints.Proofs.Decimal.Layout

/-!
The float that a decimal is read as. It is the nearest one, and an infinity where the decimal is
beyond all floats.
-/

namespace ViewPoints.Binary

open Float.Model Float.Model.UnpackedFloat

variable {x : Float} {n : Bool} {q : ℚ}

/-- A float of this sign is the nearest to a size. From `overflow` on it is an infinity. -/
structure Rounded (x : Float) (negative : Bool) (q : ℚ) : Prop where
  nearest : q < overflow → ∃ v, Holds x negative v ∧ Nearest q v
  infinity : overflow ≤ q → ofFloat x = infinite negative

lemma ofFloat_toFloat_infinite (n : Bool) : ofFloat (infinite n).toFloat = infinite n := by
  cases n <;> decide +kernel

/-- A mantissa with an exponent beyond the greatest is packed like an infinity. -/
lemma toFloat_of_lt {m : ℕ} {e : ℤ} (hm : 0 < m) (he : greatest < e) :
    (finite n m e).toFloat = (infinite n).toFloat := by
  have hg : greatest = 971 := rfl
  have hbias : e + (Format.binary64.exponentBias : ℤ) + (52 : ℕ) = e + 1075 := by
    have : (Format.binary64.exponentBias : ℤ) = 1023 := rfl
    omega
  have hpack : UnpackedFloat.pack Format.binary64 (finite n m e).unpacked =
      UnpackedFloat.pack Format.binary64 (infinite n).unpacked := by
    rw [unpacked_finite hm]
    simp only [UnpackedFloat.pack, hbias]
    exact if_pos (by omega)
  exact Float.toBits_inj.1 (UInt64.toBitVec_inj.1 hpack)

/-- What is rounded to a mantissa that fits is packed into the nearest float. -/
lemma Trims.rounded {u : UnpackedFloat} (h : Trims u n q) : Rounded (.ofModel (.pack u)) n q := by
  refine ⟨fun hq => (h.rounds hq).exists_holds, fun hq => ?_⟩
  obtain ⟨m, e, -, -, hf, -, hg, rfl⟩ := h
  have he : greatest < e := not_le.1 fun he => hq.not_gt (hg.1 he)
  have hm : full ≤ m := hf.resolve_right (by rintro rfl; exact absurd he (by decide))
  change ofFloat (finite n m e).toFloat = _
  rw [toFloat_of_lt (Nat.lt_of_lt_of_le (by decide) hm) he, ofFloat_toFloat_infinite]

namespace Rounded

lemma of_nearest (h : ∃ v, Holds x n v ∧ Nearest q v) (hq : q < overflow) : Rounded x n q :=
  ⟨fun _ => h, fun hle => absurd hq hle.not_gt⟩

lemma of_infinite (h : ofFloat x = infinite n) (hq : overflow ≤ q) : Rounded x n q :=
  ⟨fun hlt => absurd hq hlt.not_ge, fun _ => h⟩

lemma isFinite_iff (h : Rounded x n q) : isFinite x = true ↔ q < overflow := by
  constructor
  · intro hx
    by_contra hq
    rw [isFinite, h.infinity (not_lt.1 hq)] at hx
    cases hx
  · intro hq
    obtain ⟨_, ⟨m, e, hx, -⟩, -⟩ := h.nearest hq
    rw [isFinite, hx]

lemma neg (h : Rounded x n q) : Rounded (-x) (!n) q := by
  refine ⟨fun hq => ?_, fun hq => ?_⟩
  · obtain ⟨v, hx, hv⟩ := h.nearest hq
    exact ⟨v, hx.neg, hv⟩
  · have hx : -x = (infinite !n).toFloat := by
      change Float.ofModel (.pack x.toModel.unpack.neg) = _
      rw [unpack_toModel, h.infinity hq]
      cases n <;> rfl
    rw [hx, ofFloat_toFloat_infinite]

end Rounded

end ViewPoints.Binary

namespace ViewPoints.Decimal

open Binary Float.Model Float.Model.UnpackedFloat

/-! ### Few digits and a small power of ten -/

/-- Whether a float is a whole number. -/
def isWhole (x : Float) (k : ℕ) : Bool :=
  match ofFloat x with
  | .finite false m e => m * 2 ^ e.toNat == k * 2 ^ (-e).toNat
  | _ => false

lemma holds_of_isWhole {x : Float} {k : ℕ} (h : isWhole x k = true) : Holds x false k := by
  unfold isWhole at h
  split at h
  next m e hx =>
    refine ⟨m, e, hx, ?_⟩
    have hv : (m : ℚ) * 2 ^ e.toNat = k * 2 ^ (-e).toNat := by exact_mod_cast beq_iff_eq.1 h
    have h2 : (2 : ℚ) ^ e = 2 ^ e.toNat / 2 ^ (-e).toNat := by
      rw [← zpow_natCast, ← zpow_natCast, ← zpow_sub₀ two_ne_zero, Int.toNat_sub_toNat_neg]
    rw [h2, ← mul_div_assoc, hv, mul_div_cancel_right₀ _ (by positivity)]
  next => cases h

/-- Small powers of ten are floats. -/
lemma isWhole_powersOfTen : ∀ i : Fin Float.exactlyRepresentablePowersOfTen.size,
    isWhole Float.exactlyRepresentablePowersOfTen[i] (10 ^ (i : ℕ)) = true := by
  decide +kernel

lemma holds_powersOfTen {k : ℕ} (h : k < Float.exactlyRepresentablePowersOfTen.size) :
    Holds Float.exactlyRepresentablePowersOfTen[k] false (10 ^ k) := by
  have hp := holds_of_isWhole (isWhole_powersOfTen ⟨k, h⟩)
  push_cast at hp
  exact hp

lemma rounded_of_small {m : ℕ} {i : ℤ} (hm : m < 2 ^ 53) (hi : i.natAbs ≤ 22) :
    Rounded (Float.ofScientific m (i < 0) i.natAbs) false (m * 10 ^ i) := by
  have hx := holds_toFloat_toUInt64 hm
  have hp := holds_powersOfTen (show i.natAbs < 23 by omega)
  have hm' : (m : ℚ) ≤ 2 ^ 53 := by exact_mod_cast hm.le
  have hten : (0 : ℚ) < 10 ^ i.natAbs := by positivity
  have hlarge : large < overflow := two_zpow_lt_overflow (by decide)
  unfold Float.ofScientific
  rw [dif_pos ⟨hm, hi⟩]
  rcases lt_or_ge i 0 with h | h
  · have hv : (m : ℚ) * 10 ^ i = m / 10 ^ i.natAbs := by
      rw [div_eq_mul_inv, ← zpow_natCast, ← zpow_neg, Int.ofNat_natAbs_of_nonpos h.le, neg_neg]
    have hle : (m : ℚ) / 10 ^ i.natAbs ≤ large :=
      (div_le_self (Nat.cast_nonneg m) (one_le_pow₀ (by norm_num))).trans
        (le_large (n := 53) hm' (by decide))
    rw [hv, decide_eq_true h]
    change Rounded (m.toUInt64.toFloat / _) _ _
    exact .of_nearest (hx.div hp hten hle) (hle.trans_lt hlarge)
  · have hv : (m : ℚ) * 10 ^ i = m * 10 ^ i.natAbs := by
      rw [← zpow_natCast, Int.natAbs_of_nonneg h]
    have hle : (m : ℚ) * 10 ^ i.natAbs ≤ large := by
      have hi' : (10 : ℚ) ^ i.natAbs ≤ 10 ^ 22 := pow_le_pow_right₀ (by norm_num) hi
      refine le_large (n := 141) ?_ (by decide)
      exact (mul_le_mul hm' hi' hten.le (by positivity)).trans (by norm_num)
    rw [hv, decide_eq_false h.not_gt]
    change Rounded (m.toUInt64.toFloat * _) _ _
    exact .of_nearest (hx.mul hp hle) (hle.trans_lt hlarge)

/-! ### All others -/

lemma le_log2_mul {a b k : ℕ} (ha : 0 < a) (hb : 0 < b) (h : k ≤ a.log2) : k ≤ (a * b).log2 := by
  rw [Nat.le_log2 (Nat.mul_pos ha hb).ne']
  exact ((Nat.le_log2 ha.ne').1 h).trans (Nat.le_mul_of_pos_right a hb)

lemma rounded_of_large {m : ℕ} {i : ℤ} (hm : 0 < m) (hlow : -(2048 + m.log2) ≤ i)
    (hhigh : i ≤ 2048) :
    Rounded (.ofModel (Float.Model.ofScientific m i)) false (m * 10 ^ i) := by
  have hten (k : ℕ) : 0 < 10 ^ k := Nat.pow_pos (by decide)
  refine Trims.rounded ?_
  unfold UnpackedFloat.ofScientific
  rw [dif_neg hm.ne', if_neg (by exact hhigh.not_gt), if_neg (by exact hlow.not_gt)]
  split_ifs with h
  · obtain ⟨k, rfl⟩ := Int.eq_ofNat_of_zero_le h
    have hv : ((m <<< 53 * 10 ^ k : ℕ) : ℚ) = m * 10 ^ (k : ℤ) / 2 ^ (-53 + 0 : ℤ) := by
      rw [Nat.shiftLeft_eq]
      push_cast
      rw [zpow_natCast]
      norm_num
      ring
    have hlog : 52 ≤ (m <<< 53 * 10 ^ k).log2 :=
      le_log2_mul (Nat.shiftLeft_pos_iff.2 hm) (hten k) (by rw [log2_shiftLeft hm]; omega)
    exact trims_roundWithAccuracy false (hv ▸ Stands.exact _) (.inl hlog)
  · obtain ⟨k, rfl⟩ : ∃ k : ℕ, i = -k := ⟨(-i).toNat, by omega⟩
    have hd := @Fits.trims_div m (10 ^ k) 0 0 hm (hten k) false false
    rw [unpacked_finite hm, unpacked_finite (hten k)] at hd
    rw [zpow_neg, ← div_eq_mul_inv, zpow_natCast]
    push_cast at hd
    rw [mul_one, mul_one] at hd
    simp only [neg_neg, Int.toNat_natCast]
    exact hd

lemma rounded_ofScientific {m : ℕ} {i : ℤ} (hm : 0 < m) (hlow : -(2048 + m.log2) ≤ i)
    (hhigh : i ≤ 2048) : Rounded (Float.ofScientific m (i < 0) i.natAbs) false (m * 10 ^ i) := by
  by_cases h : m < 2 ^ 53 ∧ i.natAbs ≤ 22
  · exact rounded_of_small h.1 h.2
  · have hi : (if decide (i < 0) = true then Int.negOfNat i.natAbs else Int.ofNat i.natAbs) = i := by
      rcases lt_or_ge i 0 with hneg | hneg
      · rw [decide_eq_true hneg, if_pos rfl, Int.negOfNat_eq, Int.ofNat_eq_natCast]
        omega
      · rw [decide_eq_false hneg.not_gt, if_neg Bool.false_ne_true, Int.ofNat_eq_natCast]
        omega
    unfold Float.ofScientific
    rw [dif_neg h, hi]
    exact rounded_of_large hm hlow hhigh

/-! ### The size of a decimal -/

variable {d : Decimal}

/-- The place of the first digit before the point. -/
def size (d : Decimal) : ℤ := (Nat.toDigits 10 d.coefficient).length + d.exponent

lemma value_lt (d : Decimal) : d.value < 10 ^ d.size := by
  have h : d.coefficient < 10 ^ (Nat.toDigits 10 d.coefficient).length :=
    (Nat.length_toDigits_le_iff (by decide) Nat.length_toDigits_pos).1 le_rfl
  rw [size, zpow_add₀ (by norm_num), zpow_natCast, value]
  gcongr
  exact_mod_cast h

lemma le_value (h : 0 < d.coefficient) : 10 ^ (d.size - 1) ≤ d.value := by
  obtain ⟨k, hk⟩ : ∃ k, k = (Nat.toDigits 10 d.coefficient).length - 1 := ⟨_, rfl⟩
  have hlen : 0 < (Nat.toDigits 10 d.coefficient).length := Nat.length_toDigits_pos
  have hle : 10 ^ k ≤ d.coefficient := by
    rcases k.eq_zero_or_pos with rfl | h0
    · exact h
    · exact not_lt.1 (mt (Nat.length_toDigits_le_iff (by decide) h0).2 (by omega))
  rw [size, show ((Nat.toDigits 10 d.coefficient).length + d.exponent - 1 : ℤ) = k + d.exponent by
    omega, zpow_add₀ (by norm_num), zpow_natCast, value]
  gcongr
  exact_mod_cast hle

/-- A number has no more digits than bits. -/
lemma length_toDigits_le_log2 (n : ℕ) : (Nat.toDigits 10 n).length ≤ n.log2 + 1 :=
  (Nat.length_toDigits_le_iff (by decide) n.log2.succ_pos).2
    (Nat.lt_log2_self.trans_le (Nat.pow_le_pow_left (by decide) _))

lemma nearest_zero {q : ℚ} (h0 : 0 ≤ q) (hq : q ≤ 2 ^ least / 2) : Nearest q 0 :=
  ⟨least, 0, by simp, by rwa [zero_sub, abs_neg, abs_of_nonneg h0], le_rfl, .inl rfl⟩

lemma holds_zero : Holds 0 false 0 := by
  have h := holds_ofNat (k := 0) (by decide)
  rwa [Nat.cast_zero] at h

lemma value_nonneg (d : Decimal) : 0 ≤ d.value := by
  unfold value
  positivity

lemma two_zpow_le_ten_zpow {i j : ℕ} (h : 2 ^ i ≤ 10 ^ j) : (2 : ℚ) ^ (i : ℤ) ≤ 10 ^ (j : ℤ) := by
  rw [zpow_natCast, zpow_natCast]
  exact_mod_cast h

/-- From this size on a decimal is beyond all floats. -/
lemma overflow_le (hd : 0 < d.coefficient) (h : 310 < d.size) : overflow ≤ d.value := by
  have hpow : 2 ^ 1024 ≤ 10 ^ 310 := by decide +kernel
  calc overflow ≤ 2 ^ (greatest + 53) := overflow_lt.le
    _ ≤ 10 ^ ((310 : ℕ) : ℤ) := two_zpow_le_ten_zpow (i := 1024) hpow
    _ ≤ 10 ^ (d.size - 1) := zpow_le_zpow_right₀ (by norm_num) (by omega)
    _ ≤ d.value := le_value hd

/-- Below this one it is less than half of the smallest float. -/
lemma value_le_half (h : d.size < -330) : d.value ≤ 2 ^ least / 2 := by
  have hpow : 2 ^ 1075 ≤ 10 ^ 331 := by decide +kernel
  calc d.value ≤ 10 ^ d.size := d.value_lt.le
    _ ≤ 10 ^ (-(331 : ℕ) : ℤ) := zpow_le_zpow_right₀ (by norm_num) (by omega)
    _ = (10 ^ ((331 : ℕ) : ℤ))⁻¹ := zpow_neg _ _
    _ ≤ (2 ^ ((1075 : ℕ) : ℤ))⁻¹ := inv_anti₀ (two_zpow_pos _) (two_zpow_le_ten_zpow hpow)
    _ = 2 ^ (least - 1) := (zpow_neg _ _).symm
    _ = 2 ^ least / 2 := zpow_sub_one₀ two_ne_zero _

/-- A decimal is read as the float nearest to it. -/
theorem rounded_toFloat (d : Decimal) : Rounded d.toFloat false d.value := by
  unfold toFloat
  change Rounded (if (d.coefficient = 0 || decide (d.size < -330)) = true then 0
    else if 310 < d.size then _ else _) _ _
  split_ifs with hsmall hbig
  · have hv : d.value ≤ 2 ^ least / 2 := by
      rcases Bool.or_eq_true_iff.1 hsmall with h | h
      · rw [value, of_decide_eq_true h, Nat.cast_zero, zero_mul]
        exact (half_pos (two_zpow_pos least)).le
      · exact value_le_half (of_decide_eq_true h)
    refine .of_nearest ⟨0, holds_zero, nearest_zero d.value_nonneg hv⟩ (hv.trans_lt ?_)
    exact (half_lt_self (two_zpow_pos least)).trans (two_zpow_lt_overflow (by decide))
  all_goals
    rw [Bool.or_eq_true_iff, decide_eq_true_iff, decide_eq_true_iff, not_or] at hsmall
    have h0 : 0 < d.coefficient := Nat.pos_of_ne_zero hsmall.1
  · exact .of_infinite (by decide +kernel) (overflow_le h0 hbig)
  · have hlen := length_toDigits_le_log2 d.coefficient
    have hpos : 0 < (Nat.toDigits 10 d.coefficient).length := Nat.length_toDigits_pos
    unfold size at hsmall hbig
    exact rounded_ofScientific h0 (by omega) (by omega)

end ViewPoints.Decimal
