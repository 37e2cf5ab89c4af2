import Mathlib
import ViewPoints.Decimal.Binary

/-!
The bits of a float. The sign, mantissa and exponent that it is taken apart into are the ones that
arithmetic works on, they are of a certain form, and they determine the float. Conversely any sign,
mantissa and exponent of that form are packed into a float that has them.
-/

namespace ViewPoints.Binary

open Float.Model Float.Model.UnpackedFloat

def sign (negative : Bool) : Sign := if negative then .negative else .positive

/-- A number in the form in which arithmetic takes it. -/
def unpacked : Binary → UnpackedFloat
  | nan => .notANumber
  | infinite negative => .infinity (sign negative)
  | finite negative m e =>
    if h : m = 0 then .zero (sign negative)
    else .finite (sign negative) m e (Nat.pos_of_ne_zero h)

def toFloat (b : Binary) : Float := .ofModel (.pack b.unpacked)

/-- The exponent of the largest floats. -/
def greatest : Int := 971

/-- The mantissas and exponents that floats have: the mantissa takes all its bits, unless the
exponent is the smallest. -/
structure Fits (m : Nat) (e : Int) : Prop where
  mantissa_lt : m < 2 * full
  least_le : least ≤ e
  le_greatest : e ≤ greatest
  full_or_least : full ≤ m ∨ e = least

lemma unpacked_zero (negative : Bool) (e : Int) :
    (finite negative 0 e).unpacked = .zero (sign negative) := rfl

lemma unpacked_finite {m : Nat} (hm : 0 < m) (negative : Bool) (e : Int) :
    (finite negative m e).unpacked = .finite (sign negative) m e hm :=
  dif_neg (Nat.ne_of_gt hm)

/-! ### Taking a float apart -/

section Fields

variable (b : BitVec Format.binary64.numBits)

lemma toNat_unpackMantissa : (unpackMantissa b).toNat = b.toNat % full := by
  simp [unpackMantissa, full]

lemma toNat_unpackExponent : (unpackExponent b).toNat = b.toNat / full % 2048 := by
  simp [unpackExponent, Nat.shiftRight_eq_div_pow, full]

lemma toNat_unpackSign : (unpackSign b).toNat = b.toNat / 0x8000000000000000 := by
  have hb : b.toNat < 2 ^ 64 := b.isLt
  simp only [unpackSign, BitVec.toNat_cast, BitVec.extractLsb_toNat, Nat.shiftRight_eq_div_pow]
  omega

lemma ofBitVec_unpackSign :
    Sign.ofBitVec (unpackSign b) = sign (b.toNat / 0x8000000000000000 == 1) := by
  have hb : b.toNat < 2 ^ 64 := b.isLt
  have h : unpackSign b = 0#1 ↔ b.toNat / 0x8000000000000000 = 0 := by
    rw [← toNat_unpackSign b]
    exact BitVec.toNat_inj.symm
  unfold Sign.ofBitVec sign
  simp only [h, beq_iff_eq]
  split_ifs with h₀ h₁
  · omega
  · rfl
  · rfl
  · omega

lemma toNat_implicit_append : (1#1 ++ unpackMantissa b).toNat = full + b.toNat % full := by
  rw [BitVec.toNat_append, ← Nat.shiftLeft_add_eq_or_of_lt (unpackMantissa b).isLt,
    toNat_unpackMantissa]
  rfl

end Fields

private lemma finite_congr {s : Sign} {m m' : Nat} {e e' : Int} (hm : m = m') (he : e = e')
    (h : 0 < m) (h' : 0 < m') : UnpackedFloat.finite s m e h = .finite s m' e' h' := by
  subst hm he
  rfl

/-- Arithmetic works on the parts that a float is taken apart into. -/
theorem unpack_toModel (x : Float) : x.toModel.unpack = (ofFloat x).unpacked := by
  change UnpackedFloat.unpack Format.binary64 x.toModel.toBits.toBitVec = _
  have hx : ofFloat x = ofFloat ⟨x.toModel⟩ := rfl
  generalize x.toModel = f at hx
  let b : BitVec Format.binary64.numBits := f.toBits.toBitVec
  have hm := toNat_unpackMantissa b
  have he := toNat_unpackExponent b
  have hfraction : unpackMantissa b = 0#_ ↔ b.toNat % full = 0 := by
    rw [← BitVec.toNat_inj, hm]
    rfl
  have hlargest : unpackExponent b = -1#_ ↔ b.toNat / full % 2048 = 2047 := by
    rw [← BitVec.toNat_inj, he]
    rfl
  have hsmallest : unpackExponent b = 0#_ ↔ b.toNat / full % 2048 = 0 := by
    rw [← BitVec.toNat_inj, he]
    rfl
  have ho : ofFloat ⟨f⟩ =
      if b.toNat / full % 2048 = 2047 then
        (if b.toNat % full = 0 then infinite (b.toNat / 0x8000000000000000 == 1) else nan)
      else if b.toNat / full % 2048 = 0 then
        finite (b.toNat / 0x8000000000000000 == 1) (b.toNat % full) least
      else finite (b.toNat / 0x8000000000000000 == 1) (full + b.toNat % full)
        (least + ((b.toNat / full % 2048 : Nat) - 1)) := rfl
  have hbias : ((Format.binary64.exponentBias : Int) + (52 : Nat)) = 1075 := rfl
  have hleast : least = -1074 := rfl
  change UnpackedFloat.unpack Format.binary64 b = _
  rw [hx, ho]
  unfold UnpackedFloat.unpack
  simp only [hfraction, hlargest, hsmallest, ofBitVec_unpackSign]
  split_ifs with h₁ h₂ h₃ h₄
  · rfl
  · rfl
  · rw [h₄]
    rfl
  · rw [unpacked_finite (Nat.pos_of_ne_zero h₄)]
    refine finite_congr hm ?_ _ _
    rw [hbias, he, h₃, hleast]
    rfl
  · rw [unpacked_finite (Nat.add_pos_left (by decide) _)]
    refine finite_congr (toNat_implicit_append b) ?_ _ _
    rw [hbias, he, hleast]
    omega

variable {x y : Float} {negative : Bool} {m : Nat} {e : Int}

lemma ofFloat_cases (h : ofFloat x = finite negative m e) :
    negative = (x.toBits.toNat / 0x8000000000000000 == 1) ∧
      x.toBits.toNat / full % 2048 < 2047 ∧
      ((x.toBits.toNat / full % 2048 = 0 ∧ m = x.toBits.toNat % full ∧ e = least) ∨
        (0 < x.toBits.toNat / full % 2048 ∧ m = full + x.toBits.toNat % full ∧
          e = least + ((x.toBits.toNat / full % 2048 : Nat) - 1))) := by
  simp only [ofFloat] at h
  split_ifs at h with h₁ h₂ h₃ <;> injection h with hn hm he
  · exact ⟨hn.symm, by omega, .inl ⟨h₃, hm.symm, he.symm⟩⟩
  · exact ⟨hn.symm, by omega, .inr ⟨by omega, hm.symm, he.symm⟩⟩

lemma fits_of_ofFloat (h : ofFloat x = finite negative m e) : Fits m e := by
  obtain ⟨-, hlt, hcase⟩ := ofFloat_cases h
  have hf : x.toBits.toNat % full < full := Nat.mod_lt _ (by decide)
  have hg : greatest = 971 := rfl
  have hl : least = -1074 := rfl
  rcases hcase with ⟨-, rfl, rfl⟩ | ⟨h0, rfl, rfl⟩ <;> constructor <;> omega

/-- A float is determined by its parts. -/
theorem eq_of_ofFloat (h : ofFloat x = ofFloat y) : x = y := by
  have hu : x.toModel.unpack = y.toModel.unpack := by rw [unpack_toModel, unpack_toModel, h]
  exact Float.toBits_inj.1 (UInt64.toBitVec_inj.1
    ((unpack_inj_of_valid x.toModel.valid y.toModel.valid).1 hu))

/-! ### Packing -/

lemma toNat_packComponents (s : Sign) (e : BitVec 11) (m : BitVec 52) :
    (packComponents Format.binary64 s e m).toNat =
      s.toBitVec.toNat * 0x8000000000000000 + e.toNat * full + m.toNat := by
  unfold packComponents
  rw [BitVec.toNat_append, BitVec.toNat_append, ← Nat.shiftLeft_add_eq_or_of_lt m.isLt,
    ← Nat.shiftLeft_add_eq_or_of_lt e.isLt, Nat.shiftLeft_eq, Nat.shiftLeft_eq]
  simp only [full]
  omega

lemma toBits_toFloat (b : Binary) :
    b.toFloat.toBits.toNat = (UnpackedFloat.pack Format.binary64 b.unpacked).toNat := rfl

@[simp] lemma toNat_toBitVec_sign (negative : Bool) :
    (sign negative).toBitVec.toNat = negative.toNat := by
  cases negative <;> rfl

/-- The bits of a packed number: those of the sign, of the exponent and of the mantissa. -/
lemma toBits_finite (negative : Bool) (h : Fits m e) : ∃ k,
    (finite negative m e).toFloat.toBits.toNat =
      negative.toNat * 0x8000000000000000 + k * full + m % full ∧
    ((k = 0 ∧ m < full ∧ e = least) ∨
      (0 < k ∧ k < 2047 ∧ full ≤ m ∧ e = least + ((k : Nat) - 1))) := by
  obtain ⟨hm, hle, hge, hfull⟩ := h
  have hl : least = -1074 := rfl
  have hg : greatest = 971 := rfl
  have hf : full = 2 ^ 52 := rfl
  rw [toBits_toFloat]
  by_cases h0 : m = 0
  · subst h0
    refine ⟨0, ?_, .inl ⟨rfl, by decide, by omega⟩⟩
    cases negative <;> rfl
  have hbias : e + (Format.binary64.exponentBias : Int) + (52 : Nat) = e + 1075 := by
    have : (Format.binary64.exponentBias : Int) = 1023 := rfl
    omega
  have hlog : m.log2 + 1 = Format.binary64.mantissaBits ↔ full ≤ m := by
    have : m.log2 < 53 := (Nat.log2_lt h0).2 (by omega)
    rw [hf, ← Nat.le_log2 h0]
    change m.log2 + 1 = 53 ↔ _
    omega
  rw [unpacked_finite (Nat.pos_of_ne_zero h0)]
  simp only [UnpackedFloat.pack, hbias]
  rw [if_neg (by omega)]
  by_cases hn : full ≤ m
  · refine ⟨(e + 1075).toNat, ?_, .inr ⟨by omega, by omega, hn, by omega⟩⟩
    rw [if_pos (hlog.2 hn), toNat_packComponents, toNat_toBitVec_sign, BitVec.toNat_ofNat,
      BitVec.toNat_ofNat, Nat.mod_eq_of_lt (by omega : (e + 1075).toNat < 2 ^ 11), ← hf]
  · refine ⟨0, ?_, .inl ⟨rfl, by omega, by omega⟩⟩
    rw [if_neg (mt hlog.1 hn), toNat_packComponents, toNat_toBitVec_sign]
    rfl

/-- A packed number is taken apart into itself. -/
theorem ofFloat_toFloat (h : Fits m e) :
    ofFloat (finite negative m e).toFloat = finite negative m e := by
  obtain ⟨k, hbits, hk⟩ := toBits_finite negative h
  have hm := h.mantissa_lt
  have hn : negative.toNat ≤ 1 := negative.toNat_le
  simp only [ofFloat, hbits]
  simp only [full] at hm hk ⊢
  have hfraction : (negative.toNat * 0x8000000000000000 + k * 0x10000000000000 +
      m % 0x10000000000000) % 0x10000000000000 = m % 0x10000000000000 := by omega
  have hexponent : (negative.toNat * 0x8000000000000000 + k * 0x10000000000000 +
      m % 0x10000000000000) / 0x10000000000000 % 2048 = k := by omega
  have hsign : (negative.toNat * 0x8000000000000000 + k * 0x10000000000000 +
      m % 0x10000000000000) / 0x8000000000000000 = negative.toNat := by omega
  have hs : (negative.toNat == 1) = negative := by cases negative <;> rfl
  simp only [hfraction, hexponent, hsign, hs]
  rcases hk with ⟨rfl, hlt, rfl⟩ | ⟨h0, hlt, hge, rfl⟩
  · rw [if_neg (by decide), if_pos rfl, Nat.mod_eq_of_lt hlt]
  · rw [if_neg (Nat.ne_of_lt hlt), if_neg (Nat.ne_of_gt h0)]
    congr 1
    omega

end ViewPoints.Binary
