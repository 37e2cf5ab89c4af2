import ViewPoints.Proofs.Stamp.Seconds
import ViewPoints.Proofs.Text.Digits
import ViewPoints.Proofs.Text.Encoding
import ViewPoints.Text.ByteOrder

/-!
The order of written stamps. Their fields have a fixed width, so that the order of the bytes is
that of the fields. It is the order of the times as well, where minutes and seconds do not reach
sixty.
-/

namespace ViewPoints

/-! ### The byte order of digits -/

namespace Text

/-- A text of plain digits of this width. -/
def Digits (n : ℕ) (s : List Char) : Prop := s.length = n ∧ ∀ c ∈ s, isPlainDigit c = true

variable {s t u v : List Char}

lemma bytes_eq_encode (s : String) : bytes s = encode s.toList := by
  rw [bytes, ← String.toUTF8_eq_toByteArray, toByteArray_eq_encode]

lemma precedes_encode_cons {c d : Char} (hc : c.toNat < 0x80) (hd : d.toNat < 0x80) :
    precedes (encode (c :: s)) (encode (d :: t)) = true ↔
      c.toNat < d.toNat ∨ c = d ∧ precedes (encode s) (encode t) = true := by
  have hcons {c : Char} (h : c.toNat < 0x80) (s : List Char) :
      encode (c :: s) = .ofNat c.toNat :: encode s := by
    rw [← List.singleton_append, encode_append, encode_of_plain h, List.singleton_append]
  have hbyte {n : ℕ} (h : n < 0x80) : (UInt8.ofNat n).toNat = n :=
    Nat.mod_eq_of_lt (by omega)
  rw [hcons hc, hcons hd, cons_precedes_cons, hbyte hc, hbyte hd, Char.toNat_inj]

lemma precedes_encode_same {c : Char} (hc : c.toNat < 0x80) :
    precedes (encode (c :: s)) (encode (c :: t)) = true ↔
      precedes (encode s) (encode t) = true := by
  simp [precedes_encode_cons hc hc]

lemma ofDigits_cons (c : Char) (s : List Char) :
    ofDigits (c :: s) = 10 ^ s.length * digitValue c + ofDigits s := by
  rw [← List.singleton_append, ofDigits_append, ofDigits, List.foldl_cons, List.foldl_nil,
    Nat.mul_zero, Nat.zero_add]

/-- Digits of one width are in the order of the numbers that they spell. -/
lemma precedes_digits {n : ℕ} (hu : Digits n u) (hv : Digits n v) :
    precedes (encode (u ++ s)) (encode (v ++ t)) = true ↔
      ofDigits u < ofDigits v ∨
        ofDigits u = ofDigits v ∧ precedes (encode s) (encode t) = true := by
  induction n generalizing u v with
  | zero =>
    obtain rfl := List.eq_nil_of_length_eq_zero hu.1
    obtain rfl := List.eq_nil_of_length_eq_zero hv.1
    simp
  | succ n ih =>
    obtain ⟨c, u, rfl⟩ := List.exists_cons_of_length_eq_add_one hu.1
    obtain ⟨d, v, rfl⟩ := List.exists_cons_of_length_eq_add_one hv.1
    have hlen : u.length = n := Nat.succ.inj hu.1
    have hlen' : v.length = n := Nat.succ.inj hv.1
    obtain ⟨hc, hu⟩ := List.forall_mem_cons.1 hu.2
    obtain ⟨hd, hv⟩ := List.forall_mem_cons.1 hv.2
    obtain ⟨hc₁, hc₂⟩ := isPlainDigit_iff.1 hc
    obtain ⟨hd₁, hd₂⟩ := isPlainDigit_iff.1 hd
    have hult := Stamp.ofDigits_lt hu
    have hvlt := Stamp.ofDigits_lt hv
    rw [hlen] at hult
    rw [hlen'] at hvlt
    rw [List.cons_append, List.cons_append, precedes_encode_cons (by omega) (by omega),
      ih ⟨hlen, hu⟩ ⟨hlen', hv⟩, ofDigits_cons, ofDigits_cons, hlen, hlen', ← Char.toNat_inj]
    rcases lt_trichotomy c.toNat d.toNat with h | h | h
    · -- the first digit decides
      have hlt : digitValue c + 1 ≤ digitValue d := by
        unfold digitValue
        omega
      have := Nat.mul_le_mul_left (10 ^ n) hlt
      rw [Nat.mul_add, Nat.mul_one] at this
      exact iff_of_true (.inl h) (.inl (by omega))
    · have heq : digitValue c = digitValue d := by
        unfold digitValue
        omega
      rw [heq]
      simp [h]
    · have hlt : digitValue d + 1 ≤ digitValue c := by
        unfold digitValue
        omega
      have := Nat.mul_le_mul_left (10 ^ n) hlt
      rw [Nat.mul_add, Nat.mul_one] at this
      exact iff_of_false (by omega) (by omega)

end Text

/-! ### Stamps -/

namespace Stamp

open Text

variable {a b : String} {p q : Stamp}

/-- A stamp is read from two, two, two and three digits. -/
lemma exists_fields (h : read a = .ok p) : ∃ h m s f, Digits 2 h ∧ Digits 2 m ∧ Digits 2 s ∧
    Digits 3 f ∧ a.toList = h ++ (':' :: (m ++ (':' :: (s ++ ('.' :: f))))) ∧
    p = ⟨ofDigits h, ofDigits m, ofDigits s, ofDigits f⟩ := by
  have hp : ofChars? a.toList = some p := by
    unfold read at h
    split at h
    next ht => rw [← Except.ok.inj h, ← ht, parse?]
    next => simp at h
  unfold ofChars? at hp
  split at hp
  next h₁ h₂ m₁ m₂ s₁ s₂ f₁ f₂ f₃ ha =>
    split at hp
    next hall =>
      obtain rfl := Option.some.inj hp
      rw [List.all_eq_true] at hall
      have digits (s : List Char) (hs : s ⊆ [h₁, h₂, m₁, m₂, s₁, s₂, f₁, f₂, f₃]) :
          Digits s.length s := ⟨rfl, fun c hc => hall c (hs hc)⟩
      exact ⟨[h₁, h₂], [m₁, m₂], [s₁, s₂], [f₁, f₂, f₃], digits _ (by simp), digits _ (by simp),
        digits _ (by simp), digits _ (by simp), ha, rfl⟩
    next => simp at hp
  next => simp at hp

lemma byField_eq_lt_iff {m n : ℕ} : byField m n = .lt ↔ m < n := by
  unfold byField
  split_ifs <;> simp [*]

lemma byField_eq_eq_iff {m n : ℕ} : byField m n = .eq ↔ m = n := by
  unfold byField
  split_ifs <;> simp <;> omega

lemma order_eq_lt_iff : order p q = .lt ↔ p.hour < q.hour ∨ p.hour = q.hour ∧
    (p.minute < q.minute ∨ p.minute = q.minute ∧
      (p.second < q.second ∨ p.second = q.second ∧ p.millisecond < q.millisecond)) := by
  simp only [order, Ordering.then_eq_lt, Ordering.then_eq_eq, byField_eq_lt_iff,
    byField_eq_eq_iff]
  tauto

/-- The byte order of written stamps is the order of their fields. -/
theorem before_iff (ha : read a = .ok p) (hb : read b = .ok q) :
    before a b = true ↔ order p q = .lt := by
  obtain ⟨h, m, s, f, hh, hm, hs, hf, hchars, rfl⟩ := exists_fields ha
  obtain ⟨h', m', s', f', hh', hm', hs', hf', hchars', rfl⟩ := exists_fields hb
  have hend : precedes (encode f) (encode f') = true ↔ ofDigits f < ofDigits f' := by
    simpa [precedes] using precedes_digits (s := []) (t := []) hf hf'
  rw [before, bytes_eq_encode, bytes_eq_encode, hchars, hchars', precedes_digits hh hh',
    precedes_encode_same (by decide), precedes_digits hm hm', precedes_encode_same (by decide),
    precedes_digits hs hs', precedes_encode_same (by decide), hend, order_eq_lt_iff]

/-! ### Stamps that a clock shows -/

/-- Minutes and seconds are those of a clock. The hours may go past a day. -/
structure OfClock (t : Stamp) : Prop where
  minute : t.minute < 60
  second : t.second < 60

lemma InRange.order_eq_lt_iff_millis (hp : p.InRange) (hq : q.InRange) (hpc : p.OfClock)
    (hqc : q.OfClock) : order p q = .lt ↔ p.millis < q.millis := by
  obtain ⟨-, -, -, hpm⟩ := hp
  obtain ⟨-, -, -, hqm⟩ := hq
  obtain ⟨hpm', hps⟩ := hpc
  obtain ⟨hqm', hqs⟩ := hqc
  rw [order_eq_lt_iff, millis, millis]
  omega

/-- The byte order of stamps that a clock shows is the order of their times. -/
theorem before_iff_millis (ha : read a = .ok p) (hb : read b = .ok q) (hp : p.OfClock)
    (hq : q.OfClock) : before a b = true ↔ p.millis < q.millis := by
  rw [before_iff ha hb, (inRange_of_read ha).order_eq_lt_iff_millis (inRange_of_read hb) hp hq]

end Stamp

end ViewPoints
