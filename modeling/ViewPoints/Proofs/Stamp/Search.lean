import ViewPoints.Proofs.Pattern.Search
import ViewPoints.Proofs.Stamp.Form

/-!
Looking for stamps. A text of the form of a stamp is matched by the pattern of stamps and by no
other part of a text, so that it is found wherever it stands.
-/

namespace ViewPoints.Stamp

open Pattern

variable {x s r : List Char} {g : List Span}

lemma Fits.length_eq {digit : Char → Bool} (h : Fits digit x) : x.length = 12 :=
  (List.Forall₂.length_eq h).symm

/-- A character of stamps: a digit, a colon or a point. -/
def isPart (c : Char) : Bool := Text.isDigit c || (c == ':' || c == '.')

lemma isPart_of_isDigit {c : Char} (h : Text.isDigit c = true) : isPart c = true := by
  simp [isPart, h]

lemma Fits.isPart {c : Char} (h : Fits Text.isDigit x) (hc : c ∈ x) : isPart c = true := by
  obtain ⟨h₁, h₂, m₁, m₂, s₁, s₂, f₁, f₂, f₃, rfl, hd⟩ := fits_iff.1 h
  simp only [List.mem_cons, List.not_mem_nil, or_false] at hc hd
  unfold Stamp.isPart
  grind

lemma Fits.exists_head (h : Fits Text.isDigit x) :
    ∃ c, x.head? = some c ∧ Text.isDigit c = true := by
  obtain ⟨h₁, _, _, _, _, _, _, _, _, rfl, hd⟩ := fits_iff.1 h
  exact ⟨h₁, rfl, hd h₁ List.mem_cons_self⟩

lemma Fits.isSolid {c : Char} (h : Fits Text.isDigit x) (hc : c ∈ x) : Text.isSolid c = true := by
  have hp := h.isPart hc
  simp only [Stamp.isPart, Bool.or_eq_true, beq_iff_eq] at hp
  rcases hp with hd | rfl | rfl
  · exact Text.isSolid_of_isDigit hd
  · decide
  · decide

lemma Fits.ofClass (h : Fits Text.isDigit x) : Text.OfClass Text.isSolid x := by
  obtain ⟨c, hc, -⟩ := h.exists_head
  exact ⟨fun hn => by simp [hn] at hc, fun c hc => h.isSolid hc⟩

lemma Fits.plain_isDigit (h : Fits Text.isPlainDigit x) : Fits Text.isDigit x :=
  h.mono fun _ _ => Text.isDigit_of_isPlainDigit

lemma exists_read (text : String) (h : Fits Text.isPlainDigit text.toList) :
    ∃ t, read text = .ok t := by
  cases ht : read text with
  | ok t => exact ⟨t, rfl⟩
  | error e => exact absurd h (read_eq_error_iff.1 ht).1

lemma prefers_shape (h : Fits Text.isDigit x) (r : List Char) : Prefers shape (x ++ r) [] r := by
  obtain ⟨h₁, h₂, m₁, m₂, s₁, s₂, f₁, f₂, f₃, rfl, hd⟩ := fits_iff.1 h
  have two {a b : Char} (ha : Text.isDigit a = true) (hb : Text.isDigit b = true) (r : List Char) :
      Prefers (one Text.isDigit ++ one Text.isDigit) (a :: b :: r) [] r :=
    (prefers_one ha (b :: r)).append (prefers_one hb r)
  simp only [List.forall_mem_cons] at hd
  obtain ⟨hh₁, hh₂, hm₁, hm₂, hs₁, hs₂, hf₁, hf₂, hf₃, -⟩ := hd
  exact (((((((two hh₁ hh₂ _).append (prefers_lit ":" _)).append (two hm₁ hm₂ _)).append
    (prefers_lit ":" _)).append (two hs₁ hs₂ _)).append (prefers_lit "." _)).append
      (two hf₁ hf₂ _)).append (prefers_one hf₃ r)

lemma matches_shape_iff :
    Matches shape s g r ↔ g = [] ∧ ∃ x, Fits Text.isDigit x ∧ s = x ++ r := by
  constructor
  · intro h
    obtain ⟨x, hs, hx⟩ := spells_shape _ _ _ h
    exact ⟨List.eq_nil_of_length_eq_zero (h.length_groups rfl), x, hx, hs⟩
  · rintro ⟨rfl, x, hx, rfl⟩
    exact (prefers_shape hx r).matches

/-! ### Stamps that are read -/

variable {a : Pattern}

lemma matches_group_shape_iff : Matches (group shape) s g r ↔
    ∃ x : String, Fits Text.isDigit x.toList ∧ s = x.toList ++ r ∧ g = [⟨x.toList ++ r, r⟩] := by
  simp only [matches_group_iff, matches_shape_iff]
  constructor
  · rintro ⟨_, ⟨rfl, x, hx, rfl⟩, rfl⟩
    exact ⟨.ofList x, by simpa, by simp, by simp⟩
  · rintro ⟨x, hx, rfl, rfl⟩
    exact ⟨[], ⟨rfl, _, hx, rfl⟩, rfl⟩

lemma matches_append_shape_iff : Matches (a ++ group shape) s g r ↔
    ∃ x : String, Fits Text.isDigit x.toList ∧
      ∃ h, Matches a s h (x.toList ++ r) ∧ g = h ++ [⟨x.toList ++ r, r⟩] := by
  simp only [matches_append_iff, matches_group_shape_iff]
  constructor
  · rintro ⟨_, h, _, ha, ⟨x, hx, rfl, rfl⟩, rfl⟩
    exact ⟨x, hx, h, ha, rfl⟩
  · rintro ⟨x, hx, h, ha, rfl⟩
    exact ⟨_, h, _, ha, ⟨x, hx, rfl, rfl⟩, rfl⟩

end ViewPoints.Stamp
