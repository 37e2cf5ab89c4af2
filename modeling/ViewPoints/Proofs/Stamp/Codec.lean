import ViewPoints.Proofs.Decimal.Rounding
import ViewPoints.Proofs.Stamp.Form
import ViewPoints.Proofs.Stamp.Order

/-!
The written form of stamps. A stamp is read from the one text that is its written form and from no
other, the order of the bytes is that of the fields, and times between stamps are those of their
milliseconds, which 64 bits can always hold.
-/

namespace ViewPoints

namespace Text

variable {w n : ℕ} {u v : List Char}

/-! ### Numbers with zeros in front -/

/-- A number in decimal digits, with zeros in front up to a width. -/
def zeroPadded (w n : ℕ) : List Char := List.leftpad w '0' (Nat.toDigits 10 n)

lemma digits_zeroPadded (hw : 0 < w) (h : n < 10 ^ w) : Digits w (zeroPadded w n) := by
  constructor
  · rw [zeroPadded, List.length_leftpad]
    exact max_eq_left ((Nat.length_toDigits_le_iff (by decide) hw).2 h)
  · intro c hc
    rcases List.mem_append.1 hc with hc | hc
    · rw [List.eq_of_mem_replicate hc]
      rfl
    · exact isPlainDigit_of_mem_toDigits hc

@[simp] lemma ofDigits_zeroPadded (w n : ℕ) : ofDigits (zeroPadded w n) = n := by
  rw [zeroPadded, List.leftpad, ofDigits_append, ofDigits_zeros, ofDigits_toDigits, Nat.mul_zero,
    Nat.zero_add]

/-- Digits of one width that spell one number are the same, for neither come before the others. -/
lemma Digits.eq_of_ofDigits (hu : Digits n u) (hv : Digits n v) (h : ofDigits u = ofDigits v) :
    u = v := by
  have key {u v : List Char} (hu : Digits n u) (hv : Digits n v) (h : ofDigits u = ofDigits v) :
      before (.ofList u) (.ofList v) = false := by
    have hp := precedes_digits (s := []) (t := []) hu hv
    rw [List.append_nil, List.append_nil] at hp
    rw [before, bytes_eq_encode, bytes_eq_encode, String.toList_ofList, String.toList_ofList,
      ← Bool.not_eq_true, hp, h]
    simp
  exact String.ofList_injective (before_total (key hu hv h) (key hv hu h.symm))

lemma Digits.eq_zeroPadded (hw : 0 < w) (h : Digits w u) : u = zeroPadded w (ofDigits u) := by
  have hlt : ofDigits u < 10 ^ w := h.1 ▸ Stamp.ofDigits_lt h.2
  exact h.eq_of_ofDigits (digits_zeroPadded hw hlt) (ofDigits_zeroPadded w _).symm

/-! ### The order of texts -/

/-- The order of two texts, byte by byte. -/
def compareBytes (a b : String) : Ordering :=
  if before a b then .lt else if before b a then .gt else .eq

lemma compareBytes_eq_lt_iff {a b : String} : compareBytes a b = .lt ↔ before a b = true := by
  unfold compareBytes
  split_ifs <;> simp [*]

lemma swap_compareBytes (a b : String) : (compareBytes a b).swap = compareBytes b a := by
  unfold compareBytes
  split_ifs with h h' h'
  · rw [before_asymm h] at h'
    cases h'
  all_goals rfl

end Text

namespace Stamp

open Text Binary

variable {a b : String} {p q t : Stamp}

/-! ### Writing and reading -/

/-- The written form of a stamp. -/
def text (t : Stamp) : String :=
  .ofList (zeroPadded 2 t.hour ++ (':' :: (zeroPadded 2 t.minute ++ (':' ::
    (zeroPadded 2 t.second ++ ('.' :: zeroPadded 3 t.millisecond))))))

/-- A text is the written form of a stamp whose fields fit in it. -/
def Writes (text : String) (t : Stamp) : Prop := t.InRange ∧ text = t.text

/-- A text is the written form of no stamp. -/
def Malformed (text : String) : Prop := ∀ t, ¬ Writes text t

/-- A stamp is read from any digits of the right widths. -/
lemma read_of_digits {h m s f : List Char} (hh : Digits 2 h) (hm : Digits 2 m) (hs : Digits 2 s)
    (hf : Digits 3 f) (ha : a.toList = h ++ (':' :: (m ++ (':' :: (s ++ ('.' :: f)))))) :
    read a = .ok ⟨ofDigits h, ofDigits m, ofDigits s, ofDigits f⟩ := by
  obtain ⟨hh, hhd⟩ := hh
  obtain ⟨hm, hmd⟩ := hm
  obtain ⟨hs, hsd⟩ := hs
  obtain ⟨hf, hfd⟩ := hf
  obtain ⟨h₁, h₂, rfl⟩ := List.length_eq_two.1 hh
  obtain ⟨m₁, m₂, rfl⟩ := List.length_eq_two.1 hm
  obtain ⟨s₁, s₂, rfl⟩ := List.length_eq_two.1 hs
  obtain ⟨f₁, f₂, f₃, rfl⟩ := List.length_eq_three.1 hf
  have hall : [h₁, h₂, m₁, m₂, s₁, s₂, f₁, f₂, f₃].all isPlainDigit = true := by
    simp only [List.forall_mem_cons] at hhd hmd hsd hfd
    simp [hhd, hmd, hsd, hfd]
  have hp : parse? a = some ⟨ofDigits [h₁, h₂], ofDigits [m₁, m₂], ofDigits [s₁, s₂],
      ofDigits [f₁, f₂, f₃]⟩ := by
    rw [parse?, ha]
    exact if_pos hall
  rw [read, hp]

theorem read_eq_ok_iff : read a = .ok t ↔ Writes a t := by
  constructor
  · intro h
    refine ⟨inRange_of_read h, String.toList_injective ?_⟩
    obtain ⟨h, m, s, f, hh, hm, hs, hf, ha, rfl⟩ := exists_fields h
    rw [ha, text, String.toList_ofList, ← hh.eq_zeroPadded two_pos, ← hm.eq_zeroPadded two_pos,
      ← hs.eq_zeroPadded two_pos, ← hf.eq_zeroPadded three_pos]
  · rintro ⟨⟨hh, hm, hs, hf⟩, rfl⟩
    have h := read_of_digits (a := t.text) (digits_zeroPadded two_pos hh)
      (digits_zeroPadded two_pos hm) (digits_zeroPadded two_pos hs)
      (digits_zeroPadded three_pos hf) (by rw [text, String.toList_ofList])
    simpa only [ofDigits_zeroPadded] using h

theorem read_eq_error_iff_malformed {e : Failure} :
    read a = .error e ↔ Malformed a ∧ e = .malformedTime a := by
  constructor
  · intro h
    refine ⟨fun t ht => ?_, (read_eq_error_iff.1 h).2⟩
    rw [read_eq_ok_iff.2 ht] at h
    cases h
  · rintro ⟨h, rfl⟩
    cases hr : read a with
    | ok t => exact absurd (read_eq_ok_iff.1 hr) (h t)
    | error e => rw [(read_eq_error_iff.1 hr).2]

/-! ### Order -/

lemma swap_byField (m n : ℕ) : (byField m n).swap = byField n m := by
  unfold byField
  split_ifs <;> first | rfl | omega

lemma swap_order (p q : Stamp) : (order p q).swap = order q p := by
  simp only [order, Ordering.swap_then, swap_byField]

/-- Orders are equal if they agree on what comes first, seen from either side. -/
lemma eq_of_lt_iff {o o' : Ordering} (h : o = .lt ↔ o' = .lt)
    (hs : o.swap = .lt ↔ o'.swap = .lt) : o = o' := by
  cases o <;> cases o' <;> simp at h hs ⊢

lemma compareBytes_eq_order (ha : read a = .ok p) (hb : read b = .ok q) :
    compareBytes a b = order p q := by
  refine eq_of_lt_iff ?_ ?_
  · rw [compareBytes_eq_lt_iff, before_iff ha hb]
  · rw [swap_compareBytes, swap_order, compareBytes_eq_lt_iff, before_iff hb ha]

lemma compareBytes_eq_millis (ha : read a = .ok p) (hb : read b = .ok q) (hp : p.OfClock)
    (hq : q.OfClock) : compareBytes a b = byField p.millis q.millis := by
  refine eq_of_lt_iff ?_ ?_
  · rw [compareBytes_eq_lt_iff, before_iff_millis ha hb hp hq, byField_eq_lt_iff]
  · rw [swap_compareBytes, swap_byField, compareBytes_eq_lt_iff, before_iff_millis hb ha hq hp,
      byField_eq_lt_iff]

/-! ### Spans of time -/

lemma InRange.sinceMidnight?_eq (h : t.InRange) : sinceMidnight? t = some (t.millis : ℤ) := by
  obtain ⟨hh, hm, hs, hf⟩ := h
  exact Stamp.sinceMidnight?_eq (by omega) (by omega) (by omega) (by omega)

/-- What is said of the time from one written stamp to another. -/
inductive Elapsed (start stop : String) : Except Failure Float → Prop where
  | malformedStop (h : Malformed stop) : Elapsed start stop (.error (.malformedTime stop))
  | malformedStart {q : Stamp} (hq : Writes stop q) (h : Malformed start) :
    Elapsed start stop (.error (.malformedTime start))
  | difference {p q : Stamp} {m n d : ℤ} (hp : Writes start p) (hq : Writes stop q)
    (hm : sinceMidnight? p = some m) (hn : sinceMidnight? q = some n) (hd : span? (n - m) = some d) :
    Elapsed start stop (.ok (Float.ofInt d / 1000))

/-- The difference of two times within bounds. -/
lemma elapsed_difference (hp : Writes a p) (hq : Writes b q) :
    Elapsed a b (.ok (difference p q)) := by
  have hplt := hp.1.millis_lt
  have hqlt := hq.1.millis_lt
  exact .difference hp hq hp.1.sinceMidnight?_eq hq.1.sinceMidnight?_eq (span?_eq (by omega))

/-- There is only one thing to say of two texts. -/
lemma delta_of_elapsed {r : Except Failure Float} (h : Elapsed a b r) : delta a b = r := by
  cases h with
  | malformedStop h =>
    rw [delta, read_eq_error_iff_malformed.2 ⟨h, rfl⟩]
    rfl
  | malformedStart hq h =>
    rw [delta, read_eq_ok_iff.2 hq, read_eq_error_iff_malformed.2 ⟨h, rfl⟩]
    rfl
  | difference hp hq hm hn hd =>
    exact delta_eq_of_span? (read_eq_ok_iff.2 hp) (read_eq_ok_iff.2 hq) hm hn hd

lemma elapsed_delta (start stop : String) : Elapsed start stop (delta start stop) := by
  unfold delta
  cases hb : read stop with
  | error e =>
    obtain ⟨hm, rfl⟩ := read_eq_error_iff_malformed.1 hb
    exact .malformedStop hm
  | ok q =>
    cases ha : read start with
    | error e =>
      obtain ⟨hm, rfl⟩ := read_eq_error_iff_malformed.1 ha
      exact .malformedStart (read_eq_ok_iff.1 hb) hm
    | ok p => exact elapsed_difference (read_eq_ok_iff.1 ha) (read_eq_ok_iff.1 hb)

theorem delta_eq_iff {start stop : String} {r : Except Failure Float} :
    delta start stop = r ↔ Elapsed start stop r :=
  ⟨fun h => h ▸ elapsed_delta start stop, delta_of_elapsed⟩

/-- The exact difference in seconds, as the nearest float. -/
lemma InRange.rounded_difference (hp : p.InRange) (hq : q.InRange) :
    Rounded (difference p q) (decide (q.millis < p.millis))
      (((q.millis : ℤ) - p.millis).natAbs / 1000) := by
  have hplt := hp.millis_lt
  have hqlt := hq.millis_lt
  refine .of_nearest (by exact_mod_cast hp.nearest_difference hq) ?_
  have hle : ((((q.millis : ℤ) - p.millis).natAbs : ℕ) : ℚ) ≤ 362440000 := by
    exact_mod_cast (by omega : ((q.millis : ℤ) - p.millis).natAbs ≤ 362440000)
  calc ((((q.millis : ℤ) - p.millis).natAbs : ℕ) : ℚ) / 1000 ≤ 362440000 / 1000 := by gcongr
    _ ≤ 2 ^ (19 : ℤ) := by norm_num
    _ < overflow := two_zpow_lt_overflow (by decide)

/-! ### Stamps as texts -/

/-- Reading is the inverse of writing and refuses all other texts. Read stamps are in the order of
their texts, and in that of their times if a clock shows them. The time between two texts is the
difference of their milliseconds, which can be counted in 64 bits for any fields of 32 bits. -/
theorem read_iff_written :
    (∀ text t, read text = .ok t ↔ Writes text t) ∧
    (∀ t : Stamp, t.InRange → read t.text = .ok t) ∧
    (∀ text e, read text = .error e ↔ Malformed text ∧ e = .malformedTime text) ∧
    (∀ a b p q, read a = .ok p → read b = .ok q → compareBytes a b = order p q ∧
      (p.OfClock → q.OfClock → compareBytes a b = byField p.millis q.millis) ∧
      ∃ x, delta a b = .ok x ∧ Rounded x (decide (q.millis < p.millis))
        (((q.millis : ℤ) - p.millis).natAbs / 1000)) ∧
    (∀ start stop r, delta start stop = r ↔ Elapsed start stop r) ∧
    ∀ h m s f : UInt32, sinceMidnight? ⟨h.toNat, m.toNat, s.toNat, f.toNat⟩ =
      some (((h.toNat * 60 + m.toNat) * 60 + s.toNat) * 1000 + f.toNat : ℤ) := by
  refine ⟨fun _ _ => read_eq_ok_iff, fun t ht => read_eq_ok_iff.2 ⟨ht, rfl⟩,
    fun _ _ => read_eq_error_iff_malformed, fun a b p q ha hb => ?_, fun _ _ _ => delta_eq_iff, ?_⟩
  · have hd := elapsed_difference (read_eq_ok_iff.1 ha) (read_eq_ok_iff.1 hb)
    exact ⟨compareBytes_eq_order ha hb, compareBytes_eq_millis ha hb, _, delta_eq_iff.2 hd,
      (inRange_of_read ha).rounded_difference (inRange_of_read hb)⟩
  · intro h m s f
    rw [sinceMidnight?_eq h.toNat_lt m.toNat_lt s.toNat_lt f.toNat_lt, millis]
    push_cast
    rfl

/-- The last millisecond of the clock comes before the end of the day. A time with a minute more
than a clock has is written too, but a digit of another script is not. -/
theorem read_iff_written_endOfDay : ∃ p q : Stamp, read "23:59:59.999" = .ok p ∧
    read "24:00:00.000" = .ok q ∧ compareBytes "23:59:59.999" "24:00:00.000" = order p q ∧
    compareBytes "23:59:59.999" "24:00:00.000" = byField p.millis q.millis ∧
    (∃ x, delta "23:59:59.999" "24:00:00.000" = .ok x ∧ Rounded x false (1 / 1000)) ∧
    read "00:60:00.000" = .ok ⟨0, 60, 0, 0⟩ ∧
    Elapsed "23:59:59.999" "24:00:00.00٠" (.error (.malformedTime "24:00:00.00٠")) := by
  obtain ⟨hread, hwrite, -, hpair, hdelta, -⟩ := read_iff_written
  have hp : read "23:59:59.999" = .ok ⟨23, 59, 59, 999⟩ := by decide +kernel
  have hq : read "24:00:00.000" = .ok ⟨24, 0, 0, 0⟩ := by decide +kernel
  obtain ⟨horder, hclock, x, hx, hr⟩ := hpair _ _ _ _ hp hq
  refine ⟨_, _, hp, hq, horder, hclock ⟨by decide, by decide⟩ ⟨by decide, by decide⟩,
    ⟨x, hx, by simpa [millis] using hr⟩, ?_, (hdelta _ _ _).1 (by decide +kernel)⟩
  have h := hwrite ⟨0, 60, 0, 0⟩ ⟨by decide, by decide, by decide, by decide⟩
  rwa [show text ⟨0, 60, 0, 0⟩ = "00:60:00.000" by decide +kernel] at h

end Stamp

end ViewPoints
