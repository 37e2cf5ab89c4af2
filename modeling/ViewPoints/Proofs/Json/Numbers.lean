import ViewPoints.Proofs.Decimal.Shortest
import ViewPoints.Proofs.Json.Grammar

/-!
The numbers that are written. A whole number and a finite float are numbers of JSON, and different
ones are written differently.
-/

namespace ViewPoints.Json

open Decimal (signChars shortest)

lemma Magnitude.value_eq {s : List Char} {q r : ℚ} (h : Magnitude s q) (h' : Magnitude s r) :
    q = r := by
  obtain ⟨d, hd, rfl⟩ := Decimal.read?_of_magnitude h
  obtain ⟨d', hd', rfl⟩ := Decimal.read?_of_magnitude h'
  rw [Option.some.inj (hd.symm.trans hd')]

lemma Magnitude.head?_ne {s : List Char} {q : ℚ} (h : Magnitude s q) : s.head? ≠ some '-' := by
  obtain ⟨c, t, rfl, hc⟩ := h.exists_cons
  intro he
  obtain rfl := Option.some.inj he
  simp [Text.isPlainDigit] at hc

/-! ### Whole numbers -/

lemma number_repr (n : Nat) : Number n.repr.toList := by
  have hw : Whole (Decimal.natChars n) := by
    rcases n.eq_zero_or_pos with rfl | hn
    · exact Decimal.whole_zero
    · simpa [Decimal.zeroDigits] using Decimal.whole_natChars_append hn 0
  have hm := Magnitude.mk hw .none .none
  rw [List.append_nil, List.append_nil] at hm
  exact .plain (by rwa [Nat.repr, String.toList_ofList])

/-! ### Floats -/

lemma number_signChars {s : List Char} {q : ℚ} (h : Magnitude s q) (negative : Bool) :
    Number (signChars negative ++ s) := by
  cases negative
  · exact .plain h
  · exact .minus h

lemma signChars_append_inj {s t : List Char} (hs : s.head? ≠ some '-') (ht : t.head? ≠ some '-')
    {n n' : Bool} (h : signChars n ++ s = signChars n' ++ t) : n = n' ∧ s = t := by
  cases n <;> cases n'
  · exact ⟨rfl, h⟩
  · exact absurd (congrArg List.head? h) hs
  · exact absurd (congrArg List.head? h).symm ht
  · exact ⟨rfl, (List.cons.inj h).2⟩

lemma exists_of_isFinite {x : Float} (h : Binary.isFinite x = true) :
    ∃ negative m e, Binary.ofFloat x = .finite negative m e ∧ ofFloat x = num (.ofList
      (signChars negative ++ Decimal.Layout.standard.write (shortest m e))) := by
  unfold Binary.isFinite at h
  split at h
  next negative m e hx => exact ⟨negative, m, e, hx, by simp [ofFloat, Decimal.shortestChars?, hx]⟩
  next => cases h

/-- A finite float is written as a number. -/
theorem exists_literal_of_isFinite {x : Float} (h : Binary.isFinite x = true) :
    ∃ literal, ofFloat x = num literal ∧ Number literal.toList := by
  obtain ⟨negative, m, e, -, hx⟩ := exists_of_isFinite h
  have hm := Decimal.magnitude_write .standard (Decimal.shortest_pos_or_zero m e)
  exact ⟨_, hx, by rw [String.toList_ofList]; exact number_signChars hm negative⟩

/-- Whatever is not finite is written as `null`. -/
theorem ofFloat_eq_null_iff {x : Float} : ofFloat x = null ↔ Binary.isFinite x = false := by
  cases hx : Binary.isFinite x with
  | true =>
    obtain ⟨literal, hl, -⟩ := exists_literal_of_isFinite hx
    simp [hl]
  | false =>
    refine iff_of_true ?_ rfl
    unfold Binary.isFinite at hx
    unfold ofFloat Decimal.shortestChars?
    split at hx
    next => cases hx
    next b hn =>
      cases hb : Binary.ofFloat x with
      | finite negative m e => exact absurd hb (hn negative m e)
      | nan => rfl
      | infinite => rfl

/-- Different finite floats are written differently. -/
theorem ofFloat_inj {x y : Float} (hx : Binary.isFinite x = true) (hy : Binary.isFinite y = true)
    (h : ofFloat x = ofFloat y) : x = y := by
  obtain ⟨n, m, e, hb, hw⟩ := exists_of_isFinite hx
  obtain ⟨n', m', e', hb', hw'⟩ := exists_of_isFinite hy
  have hm := Decimal.magnitude_write .standard (Decimal.shortest_pos_or_zero m e)
  have hm' := Decimal.magnitude_write .standard (Decimal.shortest_pos_or_zero m' e')
  rw [hw, hw', num.injEq, String.ofList_inj] at h
  obtain ⟨rfl, hs⟩ := signChars_append_inj hm.head?_ne hm'.head?_ne h
  obtain ⟨rfl, rfl⟩ := Decimal.eq_of_value_shortest (Binary.fits_of_ofFloat hb)
    (Binary.fits_of_ofFloat hb') (hm.value_eq (hs ▸ hm'))
  exact Binary.eq_of_ofFloat (hb.trans hb'.symm)

end ViewPoints.Json
