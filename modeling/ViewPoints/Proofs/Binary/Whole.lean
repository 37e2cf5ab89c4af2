import ViewPoints.Proofs.Binary.Arithmetic

/-!
Whole numbers as floats. Up to the size of a mantissa they are calculated with exactly.
-/

namespace ViewPoints.Binary

open Float.Model Float.Model.UnpackedFloat

variable {x : Float} {a b k : ℕ} {n : Bool} {q : ℚ}

lemma Nearest.eq_natCast {v : ℚ} (h : Nearest k v) (hk : k < 2 ^ 53) : v = k :=
  h.eq_of_digits (by rw [zpow_zero, mul_one]) hk (by decide)

lemma natCast_le_large (hk : k < 2 ^ 53) : (k : ℚ) ≤ large :=
  le_large (n := 53) (by exact_mod_cast hk.le) (by decide)

lemma holds_toFloat_toUInt64 (hk : k < 2 ^ 53) : Holds k.toUInt64.toFloat false k := by
  have hk' : k.toUInt64.toNat = k := Nat.mod_eq_of_lt (hk.trans (by decide))
  have hr := Fits.rounds_normalize k 0 (by
    rw [zpow_zero, mul_one]
    exact natCast_le_large hk)
  rw [zpow_zero, mul_one, decide_eq_false (by omega), Int.natAbs_natCast] at hr
  obtain ⟨v, hv, hn⟩ := hr.exists_holds
  rw [hn.eq_natCast hk] at hv
  change Holds
    (.ofModel (.pack (UnpackedFloat.normalize Format.binary64 k.toUInt64.toNat 0 .positive))) _ _
  rw [hk']
  exact hv

theorem holds_ofNat (hk : k < 2 ^ 53) : Holds (Float.ofNat k) false k := by
  have hone : Holds (Float.ofBits 0x3FF0000000000000) false 1 :=
    ⟨full, -52, by decide +kernel, by norm_num [full]⟩
  have h := (holds_toFloat_toUInt64 hk).mul hone (by
    rw [mul_one]
    exact natCast_le_large hk)
  obtain ⟨v, hv, hn⟩ := h
  rw [mul_one] at hn
  rw [hn.eq_natCast hk] at hv
  change Holds (Float.ofScientific k false 0) _ _
  unfold Float.ofScientific
  rw [dif_pos ⟨hk, by decide⟩]
  exact hv

theorem ofNat_add (h : a + b < 2 ^ 53) : Float.ofNat a + Float.ofNat b = Float.ofNat (a + b) := by
  have hle := natCast_le_large h
  rw [Nat.cast_add] at hle
  obtain ⟨v, hv, hn⟩ := (holds_ofNat (by omega : a < 2 ^ 53)).add (holds_ofNat (by omega)) hle
  rw [← Nat.cast_add] at hn
  rw [hn.eq_natCast h] at hv
  exact hv.eq (holds_ofNat h)

theorem ofNat_mul (ha : a < 2 ^ 53) (hb : b < 2 ^ 53) (h : a * b < 2 ^ 53) :
    Float.ofNat a * Float.ofNat b = Float.ofNat (a * b) := by
  have hle := natCast_le_large h
  rw [Nat.cast_mul] at hle
  obtain ⟨v, hv, hn⟩ := (holds_ofNat ha).mul (holds_ofNat hb) hle
  rw [← Nat.cast_mul] at hn
  rw [hn.eq_natCast h] at hv
  exact hv.eq (holds_ofNat h)

lemma holds_whole (hk : k < 2 ^ 53) (n : Bool) : Holds (whole n k) n k := by
  cases n
  · exact holds_ofNat hk
  · exact (holds_ofNat hk).neg

lemma ofInt_eq_whole (z : ℤ) : Float.ofInt z = whole (decide (z < 0)) z.natAbs := by
  cases z with
  | ofNat k => rfl
  | negSucc k =>
    rw [decide_eq_true (Int.negSucc_lt_zero k)]
    rfl

theorem holds_ofInt {z : ℤ} (hz : z.natAbs < 2 ^ 53) :
    Holds (Float.ofInt z) (decide (z < 0)) z.natAbs := by
  rw [ofInt_eq_whole]
  exact holds_whole hz _

/-- Adding a half of the unit and dropping what is below it gives the nearest whole number. -/
lemma div_unit_eq {m j : ℕ} (hk : |(m : ℚ) / 2 ^ (j + 1) - k| < 1 / 2) :
    (m + 2 ^ (j + 1) / 2) / 2 ^ (j + 1) = k := by
  have hu : (2 : ℚ) ^ (j + 1) = 2 * 2 ^ j := pow_succ' 2 j
  have hpos : (0 : ℚ) < 2 ^ j := by positivity
  obtain ⟨hlo, hhi⟩ := abs_lt.1 hk
  have hd : (m : ℚ) = m / 2 ^ (j + 1) * (2 * 2 ^ j) := by
    rw [← hu, div_mul_cancel₀ _ (by positivity)]
  have hlower : k * (2 * 2 ^ j) < m + 2 ^ j := by
    have : (k : ℚ) * (2 * 2 ^ j) < m + 2 ^ j := by nlinarith
    exact_mod_cast this
  have hupper : m < k * (2 * 2 ^ j) + 2 ^ j := by
    have : (m : ℚ) < k * (2 * 2 ^ j) + 2 ^ j := by nlinarith
    exact_mod_cast this
  rw [pow_succ', Nat.mul_div_cancel_left _ two_pos]
  exact Nat.div_eq_of_lt_le hlower.le (by rw [Nat.add_one_mul]; omega)

/-- A number less than a half from a whole number is rounded to that. -/
theorem nearestWhole_eq (hx : Holds x n q) (hk : k < 2 ^ 53) (hq : |q - k| < 1 / 2) :
    nearestWhole x = whole n k := by
  obtain ⟨m, e, hm, rfl⟩ := id hx
  unfold nearestWhole
  rw [hm]
  dsimp only
  split_ifs with he
  · obtain ⟨i, rfl⟩ := Int.eq_ofNat_of_zero_le he
    have hi : |((m * 2 ^ i : ℕ) : ℤ) - k| < 1 := by
      have : |((m * 2 ^ i : ℕ) : ℚ) - k| < 1 := by
        push_cast
        rw [← zpow_natCast]
        exact hq.trans one_half_lt_one
      exact_mod_cast this
    have hmk : m * 2 ^ i = k := by
      rw [Int.abs_lt_one_iff] at hi
      omega
    have hv : (m : ℚ) * 2 ^ (i : ℤ) = k := by
      rw [zpow_natCast]
      exact_mod_cast hmk
    rw [hv] at hx
    exact hx.eq (holds_whole hk n)
  · obtain ⟨j, rfl⟩ : ∃ j : ℕ, e = -(j + 1 : ℕ) := ⟨(-e).toNat - 1, by omega⟩
    rw [zpow_neg, zpow_natCast, ← div_eq_mul_inv] at hq
    rw [neg_neg, Int.toNat_natCast]
    exact congrArg (whole n) (div_unit_eq hq)

end ViewPoints.Binary
