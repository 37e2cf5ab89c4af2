import Mathlib.Tactic.FieldSimp
import Mathlib.Tactic.Ring
import ViewPoints.Decimal.Layout
import ViewPoints.Proofs.Decimal.Reading

/-!
The written forms of a decimal. Each of them is a number of JSON, whatever the layout, and is read
as a decimal of the same value.
-/

namespace ViewPoints.Decimal

open Json (Digits Whole Fraction Power Magnitude)

def value (d : Decimal) : ℚ := d.coefficient * 10 ^ d.exponent

/-! ### Reading -/

/-- A number of JSON may be read. -/
lemma numeral_of_magnitude {s : List Char} {q : ℚ} (h : Magnitude s q) :
    ∃ d, Numeral s d ∧ d.value = q := by
  cases h with
  | @mk whole point fraction tail power hw hf hp =>
    have hpoint : Point point fraction := by
      cases hf with
      | none => exact .none
      | point h => exact .some h.2
    exact ⟨_, .mk hw.1.2 hpoint (List.append_ne_nil_of_left_ne_nil hw.1.1 _) hp, rfl⟩

/-- A number is read as a decimal of its value. -/
theorem read?_of_magnitude {s : List Char} {q : ℚ} (h : Magnitude s q) :
    ∃ d, read? s = some d ∧ d.value = q := by
  obtain ⟨d, hd, hq⟩ := numeral_of_magnitude h
  exact ⟨d, read?_of_numeral hd, hq⟩

/-! ### Writing -/

lemma digits_natChars (n : Nat) : Digits (natChars n) :=
  ⟨Nat.toDigits_ne_nil, fun _ => Text.isPlainDigit_of_mem_toDigits⟩

@[simp] lemma ofDigits_natChars (n : Nat) : Text.ofDigits (natChars n) = n :=
  Text.ofDigits_toDigits n

@[simp] lemma ofDigits_zeroDigits (n : Nat) : Text.ofDigits (zeroDigits n) = 0 :=
  Text.ofDigits_zeros n

lemma magnitude_of_parts {whole point fraction tail : List Char} {power : Int} {q : ℚ}
    (hw : Whole whole) (hf : Fraction point fraction) (hp : Power tail power)
    (hq : (Text.ofDigits (whole ++ fraction) : ℚ) * 10 ^ (power - fraction.length) = q) :
    Magnitude (whole ++ point ++ tail) q :=
  hq ▸ .mk hw hf hp

lemma power_scientific (n : Int) :
    Power ('e' :: (if n < 0 then '-' else '+') :: natChars n.natAbs) n := by
  have hd := digits_natChars n.natAbs
  have hn := ofDigits_natChars n.natAbs
  split
  next h =>
    have hp := Power.minus (.inl rfl) hd
    rw [hn] at hp
    convert hp using 1
    omega
  next h =>
    have hp := Power.plus (.inl rfl) hd
    rw [hn] at hp
    convert hp using 1
    omega

lemma digits_zeroDigits_append (n : Nat) {s : List Char} (h : Digits s) :
    Digits (zeroDigits n ++ s) := by
  refine ⟨by simp [h.1], fun c hc => ?_⟩
  rcases List.mem_append.1 hc with hc | hc
  · obtain ⟨-, rfl⟩ := List.mem_replicate.1 hc
    rfl
  · exact h.2 c hc

/-- Zeros behind the digits are not needless. -/
lemma whole_natChars_append {n : Nat} (h : 0 < n) (k : Nat) :
    Whole (natChars n ++ zeroDigits k) := by
  have hd := digits_natChars n
  refine ⟨⟨by simp [hd.1], fun c hc => ?_⟩, fun h0 => ?_⟩
  · rcases List.mem_append.1 hc with hc | hc
    · exact hd.2 c hc
    · obtain ⟨-, rfl⟩ := List.mem_replicate.1 hc
      rfl
  · rw [List.head?_append_of_ne_nil _ hd.1] at h0
    exact absurd h0 (Text.head?_toDigits h)

lemma digits_zero : Digits ['0'] := ⟨by simp, by simp [Text.isPlainDigit]⟩

lemma whole_zero : Whole ['0'] := ⟨digits_zero, fun _ => rfl⟩

lemma pow_mul_mul_zpow_sub (q : ℚ) (k : Nat) (n : Int) :
    10 ^ k * q * 10 ^ (n - k) = q * 10 ^ n := by
  rw [zpow_sub₀ (by norm_num), zpow_natCast]
  field_simp

/-- A number with nothing but a zero behind its point. -/
lemma magnitude_whole {d : Decimal} (h : 0 < d.coefficient ∨ d = ⟨0, 0⟩) (he : 0 ≤ d.exponent) :
    Magnitude (natChars d.coefficient ++ zeroDigits d.exponent.toNat ++ ['.', '0']) d.value := by
  have hw : Whole (natChars d.coefficient ++ zeroDigits d.exponent.toNat) := by
    rcases h with h | rfl
    · exact whole_natChars_append h _
    · exact whole_zero
  have hn : Text.ofDigits (natChars d.coefficient ++ zeroDigits d.exponent.toNat ++ ['0']) =
      10 ^ (d.exponent.toNat + 1) * d.coefficient := by
    rw [Text.ofDigits_append, Text.ofDigits_append, ofDigits_natChars, ofDigits_zeroDigits,
      zeroDigits, List.length_replicate, Nat.add_zero, pow_succ', Nat.mul_assoc]
    rfl
  have hp : (0 : Int) - (['0'] : List Char).length = d.exponent - (d.exponent.toNat + 1 : Nat) := by
    simp only [List.length_singleton]
    omega
  have hm := magnitude_of_parts hw (.point digits_zero) .none (q := d.value) <| by
    rw [hn, hp, Nat.cast_mul, Nat.cast_pow, Nat.cast_ofNat, pow_mul_mul_zpow_sub, value]
  simpa using hm

/-- A number with its point between its digits. -/
lemma magnitude_point {d : Decimal} (h : 0 < d.coefficient) {n : Nat} (hn : 0 < n)
    (hp : (n : Int) = (natChars d.coefficient).length + d.exponent) (he : d.exponent < 0) :
    Magnitude ((natChars d.coefficient).take n ++ ['.'] ++ (natChars d.coefficient).drop n)
      d.value := by
  have hd := digits_natChars d.coefficient
  have hw : Whole ((natChars d.coefficient).take n) := by
    refine ⟨⟨fun h0 => ?_, fun c hc => hd.2 c (List.mem_of_mem_take hc)⟩, fun h0 => ?_⟩
    · rcases List.take_eq_nil_iff.1 h0 with h0 | h0
      · omega
      · exact hd.1 h0
    · rw [List.head?_take, if_neg hn.ne'] at h0
      exact absurd h0 (Text.head?_toDigits h)
  have hf : Digits ((natChars d.coefficient).drop n) :=
    ⟨fun h0 => by have := List.drop_eq_nil_iff.1 h0; omega,
      fun c hc => hd.2 c (List.mem_of_mem_drop hc)⟩
  have hm := magnitude_of_parts hw (.point hf) .none (q := d.value) <| by
    rw [List.take_append_drop, ofDigits_natChars, value, List.length_drop]
    congr 2
    omega
  simpa using hm

/-- A number with its point before its digits. -/
lemma magnitude_zeros {d : Decimal} {n : Nat}
    (hp : -(n : Int) = (natChars d.coefficient).length + d.exponent) :
    Magnitude (['0', '.'] ++ zeroDigits n ++ natChars d.coefficient) d.value := by
  have hf := digits_zeroDigits_append n (digits_natChars d.coefficient)
  have hn : Text.ofDigits (['0'] ++ (zeroDigits n ++ natChars d.coefficient)) = d.coefficient := by
    rw [Text.ofDigits_append, Text.ofDigits_append, ofDigits_natChars, ofDigits_zeroDigits,
      Nat.mul_zero, Nat.zero_add]
    exact Nat.add_eq_right.2 (Nat.mul_zero _)
  have hm := magnitude_of_parts whole_zero (.point hf) .none (q := d.value) <| by
    rw [hn, value]
    congr 2
    rw [List.length_append, zeroDigits, List.length_replicate]
    push_cast
    omega
  simpa using hm

lemma magnitude_scientific (d : Decimal) :
    Magnitude (scientific (natChars d.coefficient)
      ((natChars d.coefficient).length + d.exponent - 1)) d.value := by
  have hd := digits_natChars d.coefficient
  have hn := ofDigits_natChars d.coefficient
  unfold scientific value
  generalize natChars d.coefficient = digits at hd hn ⊢
  match digits, hd with
  | [], hd => exact absurd rfl hd.1
  | [c], hd =>
    have hw : Whole [c] := ⟨hd, fun h0 => by simpa using h0⟩
    have hm := magnitude_of_parts hw .none (power_scientific ((1 : Nat) + d.exponent - 1)) <| by
      rw [List.append_nil, hn, show ((1 : Nat) : Int) + d.exponent - 1 - ([] : List Char).length =
        d.exponent by simp]
    simpa using hm
  | c :: c' :: r, hd =>
    have hw : Whole [c] :=
      ⟨⟨by simp, fun a ha => hd.2 a (by simp_all)⟩, fun h0 => by simpa using h0⟩
    have hf : Digits (c' :: r) := ⟨by simp, fun a ha => hd.2 a (List.mem_cons_of_mem c ha)⟩
    have hm := magnitude_of_parts hw (.point hf)
      (power_scientific ((c :: c' :: r).length + d.exponent - 1)) <| by
        rw [List.singleton_append, hn, show ((c :: c' :: r).length : Int) + d.exponent - 1 -
          (c' :: r).length = d.exponent by simp only [List.length_cons]; push_cast; ring]
    simpa using hm

/-- A decimal is written as a number of its value, whatever the layout. -/
theorem magnitude_write (l : Layout) {d : Decimal} (h : 0 < d.coefficient ∨ d = ⟨0, 0⟩) :
    Magnitude (l.write d) d.value := by
  unfold Layout.write
  simp only [Bool.and_eq_true, decide_eq_true_eq]
  split_ifs with h₁ h₂ h₃
  · exact magnitude_whole h h₁.1
  · rcases h with h | rfl
    · exact magnitude_point h (by omega) (by omega) (by omega)
    · exact absurd ⟨by decide, h₂.2⟩ h₁
  · exact magnitude_zeros (by omega)
  · exact magnitude_scientific d

end ViewPoints.Decimal
