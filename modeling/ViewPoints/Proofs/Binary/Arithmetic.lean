import ViewPoints.Proofs.Binary.Rounding

/-!
The numbers that floats are, and what arithmetic makes of them: a sum, a difference, a product or
a quotient is the exact one, rounded.
-/

namespace ViewPoints.Binary

open Float.Model Float.Model.UnpackedFloat

/-- A float is a number of this sign and size. A zero has a sign too. -/
def Holds (x : Float) (negative : Bool) (q : ℚ) : Prop :=
  ∃ m e, ofFloat x = finite negative m e ∧ q = m * 2 ^ e

/-- A number of a sign and a size. -/
def signed (negative : Bool) (q : ℚ) : ℚ := if negative then -q else q

@[simp] lemma signed_false (q : ℚ) : signed false q = q := rfl

@[simp] lemma signed_true (q : ℚ) : signed true q = -q := rfl

/-! ### Size and order -/

/-- Of two floats the one with the larger exponent is larger. -/
lemma Fits.value_lt_of_lt {m m' : ℕ} {e e' : ℤ} (h : Fits m e) (h' : Fits m' e') (he : e < e') :
    (m : ℚ) * 2 ^ e < m' * 2 ^ e' := by
  have hl := h.least_le
  have h2 := two_zpow_pos e
  have hm' : full ≤ m' := h'.full_or_least.resolve_right (by omega)
  calc (m : ℚ) * 2 ^ e < (2 * full : ℕ) * 2 ^ e := by
        gcongr
        exact h.mantissa_lt
    _ = full * 2 ^ (e + 1) := by
      rw [zpow_add_one₀ two_ne_zero]
      push_cast
      ring
    _ ≤ m' * 2 ^ e' := by
      gcongr
      · exact one_le_two
      · omega

lemma Fits.eq_of_value_eq {m m' : ℕ} {e e' : ℤ} (h : Fits m e) (h' : Fits m' e')
    (hv : (m : ℚ) * 2 ^ e = m' * 2 ^ e') : m = m' ∧ e = e' := by
  rcases lt_trichotomy e e' with he | rfl | he
  · exact absurd hv (h.value_lt_of_lt h' he).ne
  · refine ⟨?_, rfl⟩
    exact_mod_cast mul_right_cancel₀ (two_zpow_pos e).ne' hv
  · exact absurd hv (h'.value_lt_of_lt h he).ne'

/-- Exponents are compared first, then mantissas. -/
lemma Fits.compare_value {m m' : ℕ} {e e' : ℤ} (h : Fits m e) (h' : Fits m' e') :
    (compare e e').then (compare m m') = compare ((m : ℚ) * 2 ^ e) (m' * 2 ^ e') := by
  rcases lt_trichotomy e e' with he | rfl | he
  · rw [compare_lt_iff_lt.2 he, compare_lt_iff_lt.2 (h.value_lt_of_lt h' he)]
    rfl
  · have h2 := two_zpow_pos e
    rw [compare_eq_iff_eq.2 rfl]
    change compare m m' = _
    rcases lt_trichotomy m m' with hm | rfl | hm
    · rw [compare_lt_iff_lt.2 hm, compare_lt_iff_lt.2]
      gcongr
    · rw [compare_eq_iff_eq.2 rfl, compare_eq_iff_eq.2 rfl]
    · rw [compare_gt_iff_gt.2 hm, compare_gt_iff_gt.2]
      gcongr
  · rw [compare_gt_iff_gt.2 he, compare_gt_iff_gt.2 (h'.value_lt_of_lt h he)]
    rfl

variable {x y : Float} {n n' : Bool} {p q : ℚ}

namespace Holds

lemma nonneg (h : Holds x n p) : 0 ≤ p := by
  obtain ⟨m, e, -, rfl⟩ := h
  have := two_zpow_pos e
  positivity

lemma size_eq (h : Holds x n p) (h' : Holds x n' q) : p = q := by
  obtain ⟨m, e, hm, rfl⟩ := h
  obtain ⟨m', e', hm', rfl⟩ := h'
  obtain ⟨-, rfl, rfl⟩ := Binary.finite.inj (hm.symm.trans hm')
  rfl

/-- A float is determined by its sign and size. -/
theorem eq (hx : Holds x n p) (hy : Holds y n p) : x = y := by
  obtain ⟨m, e, hm, rfl⟩ := hx
  obtain ⟨m', e', hm', hv⟩ := hy
  obtain ⟨rfl, rfl⟩ := (fits_of_ofFloat hm).eq_of_value_eq (fits_of_ofFloat hm') hv
  exact eq_of_ofFloat (hm.trans hm'.symm)

lemma unpack_eq (h : Holds x n p) : ∃ m e, Fits m e ∧ p = m * 2 ^ e ∧
    x.toModel.unpack = (finite n m e).unpacked := by
  obtain ⟨m, e, hm, rfl⟩ := h
  exact ⟨m, e, fits_of_ofFloat hm, rfl, by rw [unpack_toModel, hm]⟩

end Holds

lemma compare_neg_neg (p q : ℚ) : compare (-p) (-q) = (compare p q).swap := by
  rcases lt_trichotomy p q with h | rfl | h
  · rw [compare_lt_iff_lt.2 h, compare_gt_iff_gt.2 (neg_lt_neg h)]
    rfl
  · rw [compare_eq_iff_eq.2 rfl, compare_eq_iff_eq.2 rfl]
    rfl
  · rw [compare_gt_iff_gt.2 h, compare_lt_iff_lt.2 (neg_lt_neg h)]
    rfl

/-- Floats are compared as numbers; the sign of a zero does not count. -/
lemma compare_unpacked {m m' : ℕ} {e e' : ℤ} (n n' : Bool) (h : Fits m e) (h' : Fits m' e') :
    (finite n m e).unpacked.compare (finite n' m' e').unpacked =
      some (compare (signed n (m * 2 ^ e)) (signed n' (m' * 2 ^ e'))) := by
  have hlt {p q : ℚ} (hpq : p < q) : some .lt = some (compare p q) := by
    rw [compare_lt_iff_lt.2 hpq]
  have hgt {p q : ℚ} (hpq : q < p) : some .gt = some (compare p q) := by
    rw [compare_gt_iff_gt.2 hpq]
  have hpos {k : ℕ} (hk : 0 < k) (i : ℤ) : (0 : ℚ) < k * 2 ^ i :=
    mul_pos (by exact_mod_cast hk) (two_zpow_pos i)
  rcases m.eq_zero_or_pos with rfl | hm <;> rcases m'.eq_zero_or_pos with rfl | hm'
  · rw [unpacked_zero, unpacked_zero, Nat.cast_zero, zero_mul, zero_mul]
    cases n <;> cases n' <;> simp [UnpackedFloat.compare]
  · rw [unpacked_zero, unpacked_finite hm', Nat.cast_zero, zero_mul,
      show signed n 0 = 0 by cases n <;> simp]
    cases n'
    · exact hlt (hpos hm' e')
    · exact hgt (neg_neg_of_pos (hpos hm' e'))
  · rw [unpacked_finite hm, unpacked_zero, Nat.cast_zero, zero_mul,
      show signed n' 0 = 0 by cases n' <;> simp]
    cases n
    · exact hgt (hpos hm e)
    · exact hlt (neg_neg_of_pos (hpos hm e))
  · have hp := hpos hm e
    have hp' := hpos hm' e'
    have hc := h.compare_value h'
    rw [unpacked_finite hm, unpacked_finite hm']
    cases n <;> cases n'
    · exact congrArg some hc
    · exact hgt ((neg_neg_of_pos hp').trans hp)
    · exact hlt ((neg_neg_of_pos hp).trans hp')
    · rw [signed_true, signed_true, compare_neg_neg, ← hc]
      rfl

namespace Holds

lemma lt_iff (hx : Holds x n p) (hy : Holds y n' q) : x < y ↔ signed n p < signed n' q := by
  obtain ⟨m, e, h, rfl, hu⟩ := hx.unpack_eq
  obtain ⟨m', e', h', rfl, hu'⟩ := hy.unpack_eq
  change decide (x.toModel.unpack.lt y.toModel.unpack = true) = true ↔ _
  rw [hu, hu', UnpackedFloat.lt, compare_unpacked n n' h h', decide_eq_true_iff, beq_iff_eq,
    Option.some.injEq, compare_lt_iff_lt]

lemma le_iff (hx : Holds x n p) (hy : Holds y n' q) : x ≤ y ↔ signed n p ≤ signed n' q := by
  obtain ⟨m, e, h, rfl, hu⟩ := hx.unpack_eq
  obtain ⟨m', e', h', rfl, hu'⟩ := hy.unpack_eq
  change decide (x.toModel.unpack.le y.toModel.unpack = true) = true ↔ _
  rw [hu, hu', UnpackedFloat.le, compare_unpacked n n' h h', decide_eq_true_iff, Option.any_some,
    Ordering.isLE_iff_ne_gt, compare_gt_iff_gt, not_lt]

end Holds

/-! ### Arithmetic on the parts -/

lemma sign_mul (n n' : Bool) : sign n * sign n' = sign (n ^^ n') := by
  cases n <;> cases n' <;> rfl

lemma sign_div (n n' : Bool) : sign n / sign n' = sign (n ^^ n') := by
  cases n <;> cases n' <;> rfl

variable {m m' : ℕ} {e e' : ℤ}

namespace Fits

lemma zero : Fits 0 least := ⟨by decide, le_rfl, by decide, .inr rfl⟩

lemma rounds (h : Fits m e) (n : Bool) : Rounds (finite n m e).unpacked n (m * 2 ^ e) :=
  ⟨m, e, h, h.nearest, rfl⟩

lemma rounds_zero (n : Bool) : Rounds (.zero (sign n)) n 0 := by
  have h := zero.rounds n
  rwa [unpacked_zero, Nat.cast_zero, zero_mul] at h

lemma rounds_mul (h : Fits m e) (h' : Fits m' e') (n n' : Bool)
    (hq : (m : ℚ) * 2 ^ e * (m' * 2 ^ e') ≤ large) :
    Rounds (UnpackedFloat.mul Format.binary64 (finite n m e).unpacked (finite n' m' e').unpacked)
      (n ^^ n') (m * 2 ^ e * (m' * 2 ^ e')) := by
  have hzero : Rounds (.zero (sign n * sign n')) (n ^^ n') 0 := by
    rw [sign_mul]
    exact rounds_zero _
  rcases m.eq_zero_or_pos with rfl | hm
  · rw [Nat.cast_zero, zero_mul, zero_mul, unpacked_zero]
    rcases m'.eq_zero_or_pos with rfl | hm'
    · exact hzero
    · rw [unpacked_finite hm']
      exact hzero
  rcases m'.eq_zero_or_pos with rfl | hm'
  · rw [Nat.cast_zero, zero_mul, mul_zero, unpacked_finite hm, unpacked_zero]
    exact hzero
  have hlog (hf : full ≤ m * m') : 52 ≤ (m * m').log2 :=
    (Nat.le_log2 (Nat.mul_pos hm hm').ne').2 hf
  have he : 52 ≤ (m * m').log2 ∨ e + e' ≤ least := by
    rcases h.full_or_least with hf | rfl
    · exact .inl (hlog (hf.trans (Nat.le_mul_of_pos_right m hm')))
    rcases h'.full_or_least with hf | rfl
    · exact .inl (hlog (hf.trans (Nat.le_mul_of_pos_left m' hm)))
    · exact .inr (by decide)
  have hv : ((m * m' : ℕ) : ℚ) = m * 2 ^ e * (m' * 2 ^ e') / 2 ^ (e + e') := by
    have := two_zpow_pos e
    have := two_zpow_pos e'
    rw [zpow_add₀ two_ne_zero]
    push_cast
    field_simp
  rw [unpacked_finite hm, unpacked_finite hm']
  change Rounds (roundWithAccuracy _ (sign n * sign n') (m * m') (e + e') .exact) _ _
  rw [sign_mul]
  exact rounds_roundWithAccuracy _ (hv ▸ Stands.exact _) he hq

/-- A sum or a difference is found as a whole number of the smaller of two units. -/
lemma rounds_normalize (z e : ℤ) (hq : (z.natAbs : ℚ) * 2 ^ e ≤ large) :
    Rounds (UnpackedFloat.normalize Format.binary64 z e .positive) (decide (z < 0))
      (z.natAbs * 2 ^ e) := by
  unfold UnpackedFloat.normalize
  rcases lt_trichotomy z 0 with hz | rfl | hz
  · rw [compare_lt_iff_lt.2 hz, decide_eq_true hz, show z.natAbs = (-z).toNat by omega] at *
    exact rounds_round (by omega) e true hq
  · rw [compare_eq_iff_eq.2 rfl, Int.natAbs_zero, Nat.cast_zero, zero_mul]
    exact rounds_zero false
  · rw [compare_gt_iff_gt.2 hz, decide_eq_false hz.not_gt, show z.natAbs = z.toNat by omega] at *
    exact rounds_round (by omega) e false hq

lemma rounds_normalize_of_eq {z e : ℤ} {q : ℚ} (hv : (z : ℚ) * 2 ^ e = q) (hq : |q| ≤ large) :
    Rounds (UnpackedFloat.normalize Format.binary64 z e .positive) (decide (q < 0)) |q| := by
  have h2 := two_zpow_pos e
  have habs : |q| = z.natAbs * 2 ^ e := by
    rw [← hv, abs_mul, abs_of_pos h2, Nat.cast_natAbs, Int.cast_abs]
  have hneg : decide (q < 0) = decide (z < 0) := by
    rw [decide_eq_decide, ← hv, Rat.mul_neg_iff_of_pos_right h2, Int.cast_lt_zero]
  rw [habs] at hq ⊢
  rw [hneg]
  exact rounds_normalize z e hq

lemma value_decreaseExponent (m : ℕ) {e t : ℤ} (ht : t ≤ e) :
    ((decreaseExponent m e t).1 : ℚ) * 2 ^ t = m * 2 ^ e := by
  simp only [decreaseExponent, Nat.shiftLeft_eq]
  push_cast
  rw [mul_assoc, ← zpow_natCast, Int.toNat_of_nonneg (by omega), ← zpow_add₀ two_ne_zero,
    sub_add_cancel]

lemma rounds_add (h : Fits m e) (h' : Fits m' e')
    (hq : (m : ℚ) * 2 ^ e + m' * 2 ^ e' ≤ large) :
    Rounds (UnpackedFloat.add Format.binary64 (finite false m e).unpacked
      (finite false m' e').unpacked) false (m * 2 ^ e + m' * 2 ^ e') := by
  rcases m.eq_zero_or_pos with rfl | hm
  · rw [Nat.cast_zero, zero_mul, zero_add, unpacked_zero]
    rcases m'.eq_zero_or_pos with rfl | hm'
    · rw [Nat.cast_zero, zero_mul, unpacked_zero]
      exact rounds_zero false
    · have := h'.rounds false
      rw [unpacked_finite hm'] at this ⊢
      exact this
  rcases m'.eq_zero_or_pos with rfl | hm'
  · rw [Nat.cast_zero, zero_mul, add_zero, unpacked_zero]
    have := h.rounds false
    rw [unpacked_finite hm] at this ⊢
    exact this
  have hpos : 0 ≤ (m : ℚ) * 2 ^ e + m' * 2 ^ e' := by positivity
  have hv : (((decreaseExponent m e (min e e')).1 +
      (decreaseExponent m' e' (min e e')).1 : ℤ) : ℚ) * 2 ^ min e e' =
        m * 2 ^ e + m' * 2 ^ e' := by
    push_cast
    rw [add_mul, value_decreaseExponent m (min_le_left e e'),
      value_decreaseExponent m' (min_le_right e e')]
  have hr := rounds_normalize_of_eq hv ((abs_of_nonneg hpos).le.trans hq)
  rw [abs_of_nonneg hpos, decide_eq_false hpos.not_gt] at hr
  rw [unpacked_finite hm, unpacked_finite hm']
  exact hr

lemma rounds_sub (h : Fits m e) (h' : Fits m' e')
    (hq : |(m : ℚ) * 2 ^ e - m' * 2 ^ e'| ≤ large) :
    Rounds (UnpackedFloat.sub Format.binary64 (finite false m e).unpacked
      (finite false m' e').unpacked) (decide ((m : ℚ) * 2 ^ e < m' * 2 ^ e'))
      |(m : ℚ) * 2 ^ e - m' * 2 ^ e'| := by
  rcases m.eq_zero_or_pos with rfl | hm
  · rw [Nat.cast_zero, zero_mul, zero_sub, abs_neg, unpacked_zero]
    rcases m'.eq_zero_or_pos with rfl | hm'
    · rw [Nat.cast_zero, zero_mul, abs_zero, unpacked_zero]
      exact rounds_zero false
    · have hpos : (0 : ℚ) < m' * 2 ^ e' := mul_pos (by exact_mod_cast hm') (two_zpow_pos e')
      have hr := h'.rounds true
      rw [abs_of_pos hpos, decide_eq_true hpos]
      rw [unpacked_finite hm'] at hr ⊢
      exact hr
  rcases m'.eq_zero_or_pos with rfl | hm'
  · have hpos : (0 : ℚ) < m * 2 ^ e := mul_pos (by exact_mod_cast hm) (two_zpow_pos e)
    have hr := h.rounds false
    rw [Nat.cast_zero, zero_mul, sub_zero, abs_of_pos hpos, decide_eq_false hpos.not_gt,
      unpacked_zero]
    rw [unpacked_finite hm] at hr ⊢
    exact hr
  have hv : (((decreaseExponent m e (min e e')).1 -
      (decreaseExponent m' e' (min e e')).1 : ℤ) : ℚ) * 2 ^ min e e' =
        m * 2 ^ e - m' * 2 ^ e' := by
    push_cast
    rw [sub_mul, value_decreaseExponent m (min_le_left e e'),
      value_decreaseExponent m' (min_le_right e e')]
  have hr := rounds_normalize_of_eq hv hq
  simp only [sub_neg] at hr
  rw [unpacked_finite hm, unpacked_finite hm']
  exact hr

/-- Before it is divided a mantissa gets so many digits that the quotient has enough of them. -/
lemma full_le_div (hm : 0 < m) (hm' : 0 < m') {k : ℕ} (hk : m'.log2 + 53 ≤ m.log2 + k) :
    full ≤ (m <<< k) / m' := by
  rw [Nat.le_div_iff_mul_le hm']
  calc full * m' ≤ 2 ^ 52 * 2 ^ (m'.log2 + 1) := Nat.mul_le_mul_left _ Nat.lt_log2_self.le
    _ = 2 ^ (m'.log2 + 53) := by rw [← Nat.pow_add]; congr 1; omega
    _ ≤ 2 ^ (m <<< k).log2 := Nat.pow_le_pow_right two_pos (by rwa [log2_shiftLeft hm])
    _ ≤ m <<< k := Nat.log2_self_le (Nat.shiftLeft_pos_iff.2 hm).ne'

/-- A quotient is found with a note of what remains. -/
lemma trims_div (hm : 0 < m) (hm' : 0 < m') (n n' : Bool) :
    Trims (UnpackedFloat.div Format.binary64 (finite n m e).unpacked (finite n' m' e').unpacked)
      (n ^^ n') (m * 2 ^ e / (m' * 2 ^ e')) := by
  rw [unpacked_finite hm, unpacked_finite hm']
  obtain ⟨t, ht⟩ : ∃ t, t = min (e - e') (Format.binary64.targetExponent
    (totalExponent m e - totalExponent m' e')) := ⟨_, rfl⟩
  obtain ⟨k, hk⟩ : ∃ k, k = (e - e' - t).toNat := ⟨_, rfl⟩
  have htarget : t = min (e - e') (max (m.log2 + e - (m'.log2 + e') - 53) least) := by
    rw [ht, targetExponent_eq, totalExponent, totalExponent]
    omega
  have he : 52 ≤ ((m <<< k) / m').log2 ∨ t ≤ least := by
    by_cases hlog : m'.log2 + 53 ≤ m.log2 + k
    · have hf := full_le_div hm hm' hlog
      exact .inl ((Nat.le_log2 (Nat.ne_of_gt (Nat.lt_of_lt_of_le (by decide) hf))).2 hf)
    · exact .inr (by omega)
  have hquotient : (((m <<< k) / m' : ℕ) : ℚ) + ((m <<< k) % m' : ℕ) / m' =
      m * 2 ^ e / (m' * 2 ^ e') / 2 ^ t := by
    have hpos : (0 : ℚ) < m' := by exact_mod_cast hm'
    have hdm : (((m <<< k) / m' : ℕ) : ℚ) * m' + ((m <<< k) % m' : ℕ) = m * 2 ^ k := by
      rw [Nat.shiftLeft_eq]
      exact_mod_cast Nat.div_add_mod' (m * 2 ^ k) m'
    have h2 := two_zpow_pos e
    have h2' := two_zpow_pos e'
    rw [show t = e - e' - k by omega, zpow_sub₀ two_ne_zero, zpow_sub₀ two_ne_zero, zpow_natCast]
    field_simp
    exact hdm
  have hstands := hquotient ▸ Stands.fraction ((m <<< k) / m') (Nat.mod_lt (m <<< k) hm')
  have hdiv : divCore Format.binary64 m e m' e' =
      ((m <<< k) / m', t, accuracyOfFraction ((m <<< k) % m') m') := by
    unfold divCore
    simp only [← ht, ← hk]
  simp only [UnpackedFloat.div, hdiv, sign_div]
  exact trims_roundWithAccuracy _ hstands he

lemma rounds_div (hm' : 0 < m') (n n' : Bool)
    (hq : (m : ℚ) * 2 ^ e / (m' * 2 ^ e') ≤ large) :
    Rounds (UnpackedFloat.div Format.binary64 (finite n m e).unpacked (finite n' m' e').unpacked)
      (n ^^ n') (m * 2 ^ e / (m' * 2 ^ e')) := by
  rcases m.eq_zero_or_pos with rfl | hm
  · have hzero : Rounds (.zero (sign n / sign n')) (n ^^ n') 0 := by
      rw [sign_div]
      exact rounds_zero _
    rw [Nat.cast_zero, zero_mul, zero_div, unpacked_zero, unpacked_finite hm']
    exact hzero
  · exact (trims_div hm hm' n n').rounds (hq.trans_lt (two_zpow_lt_overflow (by decide)))

end Fits

/-! ### Arithmetic on floats -/

/-- A rounded result is packed into a float that is this number. -/
lemma Rounds.exists_holds {u : UnpackedFloat} (h : Rounds u n q) :
    ∃ v, Holds (.ofModel (.pack u)) n v ∧ Nearest q v := by
  obtain ⟨m, e, hm, hn, rfl⟩ := h
  exact ⟨m * 2 ^ e, ⟨m, e, ofFloat_toFloat hm, rfl⟩, hn⟩

namespace Holds

theorem neg (hx : Holds x n p) : Holds (-x) (!n) p := by
  obtain ⟨m, e, h, rfl, hu⟩ := hx.unpack_eq
  have hneg : x.toModel.unpack.neg = (finite (!n) m e).unpacked := by
    rw [hu]
    rcases m.eq_zero_or_pos with rfl | hm
    · cases n <;> rfl
    · rw [unpacked_finite hm, unpacked_finite hm]
      cases n <;> rfl
  refine ⟨m, e, ?_, rfl⟩
  change ofFloat (.ofModel (.pack x.toModel.unpack.neg)) = _
  rw [hneg]
  exact ofFloat_toFloat h

theorem add (hx : Holds x false p) (hy : Holds y false q) (hpq : p + q ≤ large) :
    ∃ v, Holds (x + y) false v ∧ Nearest (p + q) v := by
  obtain ⟨m, e, h, rfl, hu⟩ := hx.unpack_eq
  obtain ⟨m', e', h', rfl, hu'⟩ := hy.unpack_eq
  have hr := h.rounds_add h' hpq
  rw [← hu, ← hu'] at hr
  exact hr.exists_holds

theorem sub (hx : Holds x false p) (hy : Holds y false q) (hpq : |p - q| ≤ large) :
    ∃ v, Holds (x - y) (decide (p < q)) v ∧ Nearest |p - q| v := by
  obtain ⟨m, e, h, rfl, hu⟩ := hx.unpack_eq
  obtain ⟨m', e', h', rfl, hu'⟩ := hy.unpack_eq
  have hr := h.rounds_sub h' hpq
  rw [← hu, ← hu'] at hr
  exact hr.exists_holds

theorem mul (hx : Holds x n p) (hy : Holds y n' q) (hpq : p * q ≤ large) :
    ∃ v, Holds (x * y) (n ^^ n') v ∧ Nearest (p * q) v := by
  obtain ⟨m, e, h, rfl, hu⟩ := hx.unpack_eq
  obtain ⟨m', e', h', rfl, hu'⟩ := hy.unpack_eq
  have hr := h.rounds_mul h' n n' hpq
  rw [← hu, ← hu'] at hr
  exact hr.exists_holds

theorem div (hx : Holds x n p) (hy : Holds y n' q) (hq : 0 < q) (hpq : p / q ≤ large) :
    ∃ v, Holds (x / y) (n ^^ n') v ∧ Nearest (p / q) v := by
  obtain ⟨m, e, h, rfl, hu⟩ := hx.unpack_eq
  obtain ⟨m', e', h', rfl, hu'⟩ := hy.unpack_eq
  have hm' : 0 < m' := by
    rcases m'.eq_zero_or_pos with rfl | hm'
    · simp at hq
    · exact hm'
  have hr := Fits.rounds_div hm' n n' hpq
  rw [← hu, ← hu'] at hr
  exact hr.exists_holds

end Holds

end ViewPoints.Binary
