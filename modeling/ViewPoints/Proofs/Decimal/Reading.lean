import Mathlib.Data.List.TakeWhile
import ViewPoints.Decimal.Reading
import ViewPoints.Proofs.Json.Grammar
import ViewPoints.Proofs.Text.Digits

/-!
The texts that are read as floats. A number may have a sign, and of the digits on either side of
its point one is enough; besides numbers there are words for an infinity and for what is no number.
-/

namespace ViewPoints.Decimal

open Json (Digits Power)

/-- A point and the digits behind it, or nothing. -/
inductive Point : List Char → List Char → Prop where
  | none : Point [] []
  | some {s : List Char} (h : ∀ c ∈ s, Text.isPlainDigit c = true) : Point ('.' :: s) s

/-- A number without a sign, and the decimal that it stands for. There is a digit on one side of
the point. -/
inductive Numeral : List Char → Decimal → Prop where
  | mk {whole point fraction tail : List Char} {power : Int}
    (hw : ∀ c ∈ whole, Text.isPlainDigit c = true) (hf : Point point fraction)
    (hne : whole ++ fraction ≠ []) (hp : Power tail power) :
    Numeral (whole ++ point ++ tail)
      ⟨Text.ofDigits (whole ++ fraction), power - fraction.length⟩

/-! ### Powers of ten -/

lemma readNat?_of_digits {s : List Char} (h : Digits s) : readNat? s = some (Text.ofDigits s) := by
  have hs : s.all Text.isPlainDigit = true := List.all_eq_true.2 h.2
  simp [readNat?, h.1, hs]

lemma digits_of_readNat? {s : List Char} {n : Nat} (h : readNat? s = some n) :
    Digits s ∧ n = Text.ofDigits s := by
  unfold readNat? at h
  split_ifs at h with hs
  simp only [ne_eq, Bool.and_eq_true, decide_eq_true_eq, List.all_eq_true] at hs
  exact ⟨hs, (Option.some.inj h).symm⟩

lemma readPower?_of_power {s : List Char} {n : Int} (h : Power s n) : readPower? s = some n := by
  cases h with
  | none => rfl
  | @plain letter s hl h =>
    have hi : readInt? s = (readNat? s).map Int.ofNat := by
      obtain ⟨c, t, rfl, hc⟩ := h.exists_cons
      have hm : c ≠ '-' := by rintro rfl; simp [Text.isPlainDigit] at hc
      have hp : c ≠ '+' := by rintro rfl; simp [Text.isPlainDigit] at hc
      simp [readInt?, hm, hp]
    rcases hl with rfl | rfl <;> simp [readPower?, hi, readNat?_of_digits h]
  | plus hl h => rcases hl with rfl | rfl <;> simp [readPower?, readInt?, readNat?_of_digits h]
  | minus hl h => rcases hl with rfl | rfl <;> simp [readPower?, readInt?, readNat?_of_digits h]

lemma power_of_readPower? {s : List Char} {n : Int} (h : readPower? s = some n) : Power s n := by
  cases s with
  | nil =>
    obtain rfl := Option.some.inj h
    exact .none
  | cons letter s =>
    simp only [readPower?, Bool.or_eq_true_iff, decide_eq_true_iff] at h
    split_ifs at h with hl
    unfold readInt? at h
    split at h
    · obtain ⟨i, hi, rfl⟩ := Option.map_eq_some_iff.1 h
      obtain ⟨k, hk, hki⟩ := Option.bind_eq_some_iff.1 hi
      obtain ⟨hd, rfl⟩ := digits_of_readNat? hk
      obtain rfl := Option.some.inj hki
      exact .minus hl hd
    · obtain ⟨k, hk, rfl⟩ := Option.map_eq_some_iff.1 h
      obtain ⟨hd, rfl⟩ := digits_of_readNat? hk
      exact .plus hl hd
    · obtain ⟨k, hk, rfl⟩ := Option.map_eq_some_iff.1 h
      obtain ⟨hd, rfl⟩ := digits_of_readNat? hk
      exact .plain hl hd

/-! ### Numbers -/

lemma point_of_readFraction (s : List Char) :
    ∃ point, s = point ++ (readFraction s).2 ∧ Point point (readFraction s).1 := by
  unfold readFraction
  split
  next s =>
    rw [List.span_eq_takeWhile_dropWhile]
    refine ⟨'.' :: s.takeWhile Text.isPlainDigit, ?_, .some fun _ => List.mem_takeWhile_imp⟩
    rw [List.cons_append, List.takeWhile_append_dropWhile]
  next => exact ⟨[], rfl, .none⟩

lemma numeral_of_read? {s : List Char} {d : Decimal} (h : read? s = some d) : Numeral s d := by
  unfold read? at h
  rw [List.span_eq_takeWhile_dropWhile] at h
  dsimp only at h
  obtain ⟨point, hs, hpoint⟩ := point_of_readFraction (s.dropWhile Text.isPlainDigit)
  split_ifs at h with hne
  obtain ⟨power, hp, rfl⟩ := Option.map_eq_some_iff.1 h
  have hnum := Numeral.mk (fun _ => List.mem_takeWhile_imp) hpoint
    (by simpa using hne) (power_of_readPower? hp)
  rwa [List.append_assoc, ← hs, List.takeWhile_append_dropWhile] at hnum

lemma Point.head? {s f t : List Char} {n : Int} (h : Point s f) (ht : Power t n) :
    ∀ c ∈ (s ++ t).head?, Text.isPlainDigit c = false := by
  cases h with
  | none => exact ht.head?
  | some h => simp [Text.isPlainDigit]

lemma readFraction_of_point {s f t : List Char} {n : Int} (h : Point s f) (ht : Power t n) :
    readFraction (s ++ t) = (f, t) := by
  cases h with
  | none =>
    cases ht with
    | none => rfl
    | plain hl h => rcases hl with rfl | rfl <;> rfl
    | plus hl h => rcases hl with rfl | rfl <;> rfl
    | minus hl h => rcases hl with rfl | rfl <;> rfl
  | some h => exact Text.span_append h ht.head?

lemma read?_of_numeral {s : List Char} {d : Decimal} (h : Numeral s d) : read? s = some d := by
  cases h with
  | @mk whole point fraction tail power hw hf hne hp =>
    rw [List.append_assoc, read?, Text.span_append hw (hf.head? hp)]
    dsimp only
    rw [readFraction_of_point hf hp, readPower?_of_power hp, if_neg (by simpa using hne)]
    rfl

/-- A text stands for one number. -/
lemma Numeral.unique {s : List Char} {d d' : Decimal} (h : Numeral s d) (h' : Numeral s d') :
    d = d' :=
  Option.some.inj ((read?_of_numeral h).symm.trans (read?_of_numeral h'))

theorem read?_eq_some_iff {s : List Char} {d : Decimal} : read? s = some d ↔ Numeral s d :=
  ⟨numeral_of_read?, read?_of_numeral⟩

end ViewPoints.Decimal
