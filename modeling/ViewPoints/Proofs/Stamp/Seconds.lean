import ViewPoints.Proofs.Binary.Whole
import ViewPoints.Stamp

/-!
Times of day as floats. Seconds have to be rounded, but far less than by a millisecond, so that
they are in the order of the milliseconds, and a difference of them that is rounded to milliseconds
is exact.
-/

namespace ViewPoints

open Binary

namespace Stamp

/-- The fields have no more digits than they are written with. -/
structure InRange (t : Stamp) : Prop where
  hour : t.hour < 100
  minute : t.minute < 100
  second : t.second < 100
  millisecond : t.millisecond < 1000

/-- The seconds since midnight without what is left of a second. -/
def whole (t : Stamp) : ℕ := (t.hour * 60 + t.minute) * 60 + t.second

variable {a b t : Stamp}

/-! ### Stamps that have been read -/

lemma ofDigits_lt {s : List Char} (h : ∀ c ∈ s, Text.isPlainDigit c = true) :
    Text.ofDigits s < 10 ^ s.length := by
  have key (n : ℕ) : s.foldl (fun n c => 10 * n + Text.digitValue c) n <
      (n + 1) * 10 ^ s.length := by
    induction s generalizing n with
    | nil => simp
    | cons c s ih =>
      have hc := Text.digitValue_lt (h c (by simp))
      have hs := ih (fun d hd => h d (by simp [hd])) (10 * n + Text.digitValue c)
      rw [List.foldl_cons, List.length_cons, pow_succ']
      calc s.foldl _ (10 * n + Text.digitValue c)
          < (10 * n + Text.digitValue c + 1) * 10 ^ s.length := hs
        _ ≤ (10 * (n + 1)) * 10 ^ s.length := Nat.mul_le_mul_right _ (by omega)
        _ = (n + 1) * (10 * 10 ^ s.length) := by ring
  simpa [Text.ofDigits] using key 0

lemma inRange_of_ofChars {s : List Char} (h : ofChars? s = some t) : t.InRange := by
  unfold ofChars? at h
  split at h
  next h₁ h₂ m₁ m₂ s₁ s₂ f₁ f₂ f₃ =>
    split at h
    next hall =>
      obtain rfl := Option.some.inj h
      rw [List.all_eq_true] at hall
      have hlt (s : List Char) (hs : s ⊆ [h₁, h₂, m₁, m₂, s₁, s₂, f₁, f₂, f₃]) :
          Text.ofDigits s < 10 ^ s.length := ofDigits_lt fun c hc => hall c (hs hc)
      constructor
      case hour => simpa using hlt [h₁, h₂] (by simp)
      case minute => simpa using hlt [m₁, m₂] (by simp)
      case second => simpa using hlt [s₁, s₂] (by simp)
      case millisecond => simpa using hlt [f₁, f₂, f₃] (by simp)
    next => simp at h
  next => simp at h

/-- A stamp that has been read has no more digits than there are places for them. -/
lemma inRange_of_read {text : String} (h : read text = .ok t) : t.InRange := by
  unfold read at h
  split at h
  next u hu =>
    obtain rfl := Except.ok.inj h
    exact inRange_of_ofChars hu
  next => simp at h

/-! ### Seconds -/

lemma millis_eq (t : Stamp) : t.millis = t.whole * 1000 + t.millisecond := rfl

lemma InRange.whole_lt (h : t.InRange) : t.whole < 362440 := by
  obtain ⟨h₁, h₂, h₃, -⟩ := h
  unfold whole
  omega

lemma InRange.millis_lt (h : t.InRange) : t.millis < 362440000 := by
  have := h.whole_lt
  have := h.millisecond
  rw [millis_eq]
  omega

/-- Whole seconds need no rounding. -/
lemma InRange.seconds_eq (h : t.InRange) :
    t.seconds = Float.ofNat t.whole + Float.ofNat t.millisecond / Float.ofNat 1000 := by
  obtain ⟨h₁, h₂, h₃, -⟩ := h
  change (Float.ofNat t.hour * Float.ofNat 60 + Float.ofNat t.minute) * Float.ofNat 60 +
    Float.ofNat t.second + _ = _
  rw [ofNat_mul (by omega) (by omega) (by omega), ofNat_add (by omega),
    ofNat_mul (by omega) (by omega) (by omega), ofNat_add (by omega)]
  rfl

/-- Stamps of the same time have the same seconds, however the time is written. -/
lemma InRange.seconds_congr (ha : a.InRange) (hb : b.InRange) (h : a.millis = b.millis) :
    a.seconds = b.seconds := by
  have := ha.millisecond
  have := hb.millisecond
  rw [millis_eq, millis_eq] at h
  rw [ha.seconds_eq, hb.seconds_eq, show a.whole = b.whole by omega,
    show a.millisecond = b.millisecond by omega]

/-- Only what is left of a second is rounded, and then the sum. -/
lemma InRange.nearest_seconds (h : t.InRange) :
    ∃ u v, Nearest (t.millisecond / 1000) u ∧ Nearest (t.whole + u) v ∧ Holds t.seconds false v := by
  have hlt := h.millisecond
  have hwlt := h.whole_lt
  have hle : (t.millisecond : ℚ) / (1000 : ℕ) ≤ 2 ^ (0 : ℤ) := by
    rw [zpow_zero]
    refine div_le_one_of_le₀ ?_ (by norm_num)
    exact_mod_cast (by omega : t.millisecond ≤ 1000)
  obtain ⟨u, hu, hn⟩ := (holds_ofNat (by omega)).div (holds_ofNat (by norm_num : 1000 < 2 ^ 53))
    (by norm_num) (le_large hle (by norm_num))
  have hu' := hn.abs_sub_le (by decide) hle
  norm_num [abs_le] at hu' hle
  have hwhole : (t.whole : ℚ) ≤ 362439 := by
    exact_mod_cast (by omega : t.whole ≤ 362439)
  have hsum : (t.whole : ℚ) + u ≤ 2 ^ (19 : ℤ) := by
    norm_num
    linarith
  obtain ⟨v, hv, hn'⟩ := (holds_ofNat (by omega : t.whole < 2 ^ 53)).add hu
    (le_large hsum (by norm_num))
  exact ⟨u, v, by exact_mod_cast hn, hn', h.seconds_eq ▸ hv⟩

/-- Seconds are rounded by less than a millionth of a millisecond. -/
lemma InRange.exists_holds (h : t.InRange) :
    ∃ v, Holds t.seconds false v ∧ |v - t.millis / 1000| ≤ 1 / 2 ^ 33 := by
  have hms : (t.millisecond : ℚ) / 1000 ≤ 999 / 1000 := by
    gcongr
    exact_mod_cast (by have := h.millisecond; omega : t.millisecond ≤ 999)
  have hwhole : (t.whole : ℚ) ≤ 362439 := by
    exact_mod_cast (by have := h.whole_lt; omega : t.whole ≤ 362439)
  obtain ⟨u, v, hn, hn', hv⟩ := h.nearest_seconds
  have hu := hn.abs_sub_le (by decide) (hms.trans (by norm_num : (999 / 1000 : ℚ) ≤ 2 ^ (0 : ℤ)))
  norm_num [abs_le] at hu
  have hsum : (t.whole : ℚ) + u ≤ 2 ^ (19 : ℤ) := by
    norm_num
    linarith
  have hv' := hn'.abs_sub_le (by decide) hsum
  norm_num [abs_le] at hv'
  refine ⟨v, hv, ?_⟩
  have hmillis : (t.millis : ℚ) / 1000 = t.whole + t.millisecond / 1000 := by
    rw [millis_eq]
    push_cast
    ring
  rw [hmillis, abs_le]
  constructor <;> norm_num <;> linarith

/-- A float is a time in seconds. What is left of a second is rounded to the nearest float, and so
is its sum with the whole seconds, which is then the exact time but for less than a millionth of a
millisecond. -/
structure InSeconds (t : Stamp) (x : Float) : Prop where
  rounded : ∃ u v, Nearest (t.millisecond / 1000) u ∧ Nearest (t.whole + u) v ∧ Holds x false v
  close : ∃ v, Holds x false v ∧ |v - t.millis / 1000| ≤ 1 / 2 ^ 33

lemma InRange.inSeconds (h : t.InRange) : t.InSeconds t.seconds :=
  ⟨h.nearest_seconds, h.exists_holds⟩

/-- The order of the seconds is that of the milliseconds. -/
lemma InRange.value_lt_iff (ha : a.InRange) (hb : b.InRange) {p q : ℚ}
    (hp : Holds a.seconds false p) (hq : Holds b.seconds false q) :
    p < q ↔ a.millis < b.millis := by
  have key {a b : Stamp} (ha : a.InRange) (hb : b.InRange) {p q : ℚ}
      (hp : Holds a.seconds false p) (hq : Holds b.seconds false q) (h : a.millis < b.millis) :
      p < q := by
    obtain ⟨p', hp', hpa⟩ := ha.exists_holds
    obtain ⟨q', hq', hqb⟩ := hb.exists_holds
    obtain rfl := hp.size_eq hp'
    obtain rfl := hq.size_eq hq'
    have : (a.millis : ℚ) + 1 ≤ b.millis := by exact_mod_cast h
    norm_num [abs_le] at hpa hqb
    linarith
  constructor
  · intro h
    rcases lt_trichotomy a.millis b.millis with hlt | heq | hgt
    · exact hlt
    · rw [ha.seconds_congr hb heq] at hp
      exact absurd (hp.size_eq hq) h.ne
    · exact absurd (key hb ha hq hp hgt) h.not_gt
  · exact key ha hb hp hq

lemma InRange.seconds_lt_iff (ha : a.InRange) (hb : b.InRange) :
    a.seconds < b.seconds ↔ a.millis < b.millis := by
  obtain ⟨p, hp, -⟩ := ha.exists_holds
  obtain ⟨q, hq, -⟩ := hb.exists_holds
  rw [hp.lt_iff hq, signed_false, signed_false, ha.value_lt_iff hb hp hq]

/-- Stamps of the same seconds are of the same time. -/
lemma InRange.millis_eq_of_seconds (ha : a.InRange) (hb : b.InRange) (h : a.seconds = b.seconds) :
    a.millis = b.millis := by
  have hab := ha.seconds_lt_iff hb
  have hba := hb.seconds_lt_iff ha
  have haa := ha.seconds_lt_iff ha
  rw [← h, haa] at hab hba
  omega

lemma InRange.seconds_le_iff (ha : a.InRange) (hb : b.InRange) :
    a.seconds ≤ b.seconds ↔ a.millis ≤ b.millis := by
  obtain ⟨p, hp, -⟩ := ha.exists_holds
  obtain ⟨q, hq, -⟩ := hb.exists_holds
  rw [hp.le_iff hq, signed_false, signed_false, ← not_lt, hb.value_lt_iff ha hq hp, not_lt]

/-- The exact difference of two times in seconds, against that of their rounded seconds. -/
lemma abs_sub_difference_le {A B p q : ℚ} (hp : |p - A / 1000| ≤ 1 / 2 ^ 33)
    (hq : |q - B / 1000| ≤ 1 / 2 ^ 33) : |(|q - p| - |B - A| / 1000)| ≤ 1 / 2 ^ 32 := by
  have hdiv : |B - A| / 1000 = |B / 1000 - A / 1000| := by
    rw [← sub_div, abs_div, abs_of_pos (by norm_num : (0 : ℚ) < 1000)]
  calc |(|q - p| - |B - A| / 1000)| ≤ |q - p - (B / 1000 - A / 1000)| := by
        rw [hdiv]
        exact abs_abs_sub_abs_le _ _
    _ ≤ |q - B / 1000| + |p - A / 1000| := by
      rw [show q - p - (B / 1000 - A / 1000) = q - B / 1000 - (p - A / 1000) by ring]
      exact abs_sub _ _
    _ ≤ 1 / 2 ^ 32 := by linarith

/-- A difference of seconds, rounded to milliseconds, is the difference of the milliseconds. -/
theorem InRange.toMillis_sub (ha : a.InRange) (hb : b.InRange) :
    Window.toMillis (b.seconds - a.seconds) = difference a b := by
  have halt := ha.millis_lt
  have hblt := hb.millis_lt
  obtain ⟨p, hp, hpa⟩ := ha.exists_holds
  obtain ⟨q, hq, hqb⟩ := hb.exists_holds
  obtain ⟨z, hz⟩ : ∃ z : ℤ, z = b.millis - a.millis := ⟨_, rfl⟩
  obtain ⟨k, hk⟩ : ∃ k, k = z.natAbs := ⟨_, rfl⟩
  have hkle : (k : ℚ) ≤ 362440000 := by exact_mod_cast (by omega : k ≤ 362440000)
  have hsize : |(b.millis : ℚ) - a.millis| = k := by
    rw [hk, Nat.cast_natAbs, hz]
    push_cast
    rfl
  obtain ⟨d, hd⟩ : ∃ d, d = |q - p| := ⟨_, rfl⟩
  have hdk := abs_sub_difference_le hpa hqb
  rw [← hd, hsize, abs_le] at hdk
  -- The three roundings on the way, each against what it rounds.
  have hdle : d ≤ 2 ^ (19 : ℤ) := by
    norm_num
    linarith
  obtain ⟨v, hv, hn⟩ := hq.sub hp (hd ▸ le_large hdle (by norm_num))
  rw [← hd] at hn
  have hvd := hn.abs_sub_le (by decide) hdle
  norm_num [abs_le] at hvd
  have hvle : v * (1000 : ℕ) ≤ 2 ^ (30 : ℤ) := by
    norm_num
    linarith
  obtain ⟨w, hw, hn'⟩ := hv.mul (holds_ofNat (by norm_num : 1000 < 2 ^ 53))
    (le_large hvle (by norm_num))
  have hwv := hn'.abs_sub_le (by decide) hvle
  norm_num [abs_le] at hwv
  have hwk : |w - k| < 1 / 2 := by
    rw [abs_lt]
    constructor <;> linarith
  have hsign : (decide (q < p) ^^ false) = decide (z < 0) := by
    rw [Bool.xor_false, decide_eq_decide, hb.value_lt_iff ha hq hp]
    omega
  rw [hsign] at hw
  calc Window.toMillis (b.seconds - a.seconds)
      = nearestWhole ((b.seconds - a.seconds) * Float.ofNat 1000) / 1000 := rfl
    _ = Binary.whole (decide (z < 0)) k / 1000 := by rw [nearestWhole_eq hw (by omega) hwk]
    _ = Float.ofInt z / 1000 := by rw [hk, ofInt_eq_whole]
    _ = difference a b := by rw [hz, difference]

/-- A difference is the exact one, rounded. -/
lemma InRange.nearest_difference (ha : a.InRange) (hb : b.InRange) :
    ∃ v, Holds (difference a b) (decide (b.millis < a.millis)) v ∧
      Nearest (((b.millis : ℤ) - a.millis).natAbs / (1000 : ℕ)) v := by
  have halt := ha.millis_lt
  have hblt := hb.millis_lt
  obtain ⟨z, hz⟩ : ∃ z : ℤ, z = b.millis - a.millis := ⟨_, rfl⟩
  obtain ⟨k, hk⟩ : ∃ k, k = z.natAbs := ⟨_, rfl⟩
  have hkle : (k : ℚ) ≤ 362440000 := by exact_mod_cast (by omega : k ≤ 362440000)
  have hle : (k : ℚ) / (1000 : ℕ) ≤ 2 ^ (19 : ℤ) := by
    norm_num
    linarith
  have hsign : (decide (z < 0) ^^ false) = decide (b.millis < a.millis) := by
    rw [Bool.xor_false, decide_eq_decide]
    omega
  obtain ⟨v, hv, hn⟩ := (hk ▸ holds_ofInt (by omega : z.natAbs < 2 ^ 53)).div
    (holds_ofNat (by norm_num : 1000 < 2 ^ 53)) (by norm_num) (le_large hle (by norm_num))
  rw [hsign, hz] at hv
  rw [hk, hz] at hn
  exact ⟨v, hv, hn⟩

lemma InRange.exists_holds_difference (ha : a.InRange) (hb : b.InRange) :
    ∃ v, Holds (difference a b) (decide (b.millis < a.millis)) v ∧
      (b.millis < a.millis → 0 < v) := by
  obtain ⟨v, hv, hn⟩ := ha.nearest_difference hb
  refine ⟨v, hv, fun hlt => hn.pos ?_⟩
  have hone : (1 : ℚ) ≤ ((b.millis : ℤ) - a.millis).natAbs := by
    exact_mod_cast (by omega : 1 ≤ ((b.millis : ℤ) - a.millis).natAbs)
  calc (2 : ℚ) ^ (least + 52) ≤ 2 ^ (-10 : ℤ) := zpow_le_zpow_right₀ one_le_two (by decide)
    _ ≤ 1 / (1000 : ℕ) := by norm_num
    _ ≤ ((b.millis : ℤ) - a.millis).natAbs / (1000 : ℕ) := by gcongr

/-- A difference is negative just where the end comes first. -/
lemma InRange.difference_nonneg_iff (ha : a.InRange) (hb : b.InRange) :
    0 ≤ difference a b ↔ a.millis ≤ b.millis := by
  obtain ⟨v, hv, hpos⟩ := ha.exists_holds_difference hb
  have hzero : Holds (0 : Float) false (0 : ℕ) := holds_ofNat (by norm_num)
  rw [hzero.le_iff hv, signed_false, Nat.cast_zero, ← not_lt (a := b.millis)]
  by_cases h : b.millis < a.millis
  · simpa [h] using hpos h
  · simpa [h] using hv.nonneg

lemma InRange.difference_neg_iff (ha : a.InRange) (hb : b.InRange) :
    difference a b < 0 ↔ b.millis < a.millis := by
  obtain ⟨v, hv, hpos⟩ := ha.exists_holds_difference hb
  have hzero : Holds (0 : Float) false (0 : ℕ) := holds_ofNat (by norm_num)
  rw [hv.lt_iff hzero, signed_false, Nat.cast_zero]
  by_cases h : b.millis < a.millis
  · simpa [h] using hpos h
  · simpa [h] using hv.nonneg

end Stamp

/-! ### Windows between stamps -/

namespace Window

def between (a b : Stamp) : Window := ⟨a.seconds, b.seconds⟩

variable {a b c d : Stamp}

/-- What two windows share lies between the later start and the earlier end. -/
theorem overlap_between (ha : a.InRange) (hb : b.InRange) (hc : c.InRange) (hd : d.InRange) :
    overlap (between a b) (between c d) =
      if a.millis < d.millis ∧ c.millis < b.millis then
        some (Stamp.difference (if a.millis < c.millis then c else a)
          (if d.millis < b.millis then d else b))
      else none := by
  unfold overlap between
  simp only [ha.seconds_lt_iff hd, hc.seconds_lt_iff hb, ha.seconds_lt_iff hc,
    hd.seconds_lt_iff hb, Bool.and_eq_true, decide_eq_true_eq]
  split
  next => split <;> split <;> simp only [Stamp.InRange.toMillis_sub, *]
  next => rfl

end Window

end ViewPoints
