import ViewPoints.Proofs.Pattern.Captures
import ViewPoints.Stamp

/-!
The form of stamps. A text of this form is looked for in digits of any script, but it is read only
in plain digits; so what is found and cannot be read holds a digit that is not plain.
-/

namespace ViewPoints

/-! ### Plain text -/

namespace Text

/-- A text in plain characters, the first 128. -/
def Plain (s : List Char) : Prop := ∀ c ∈ s, c.toNat < 128

instance (s : List Char) : Decidable (Plain s) :=
  List.decidableBAll (fun c : Char => c.toNat < 128) s

/-- A digit of another script. -/
def isForeignDigit (c : Char) : Bool := isDigit c && !(c.toNat < 128)

lemma isForeignDigit_iff {c : Char} :
    isForeignDigit c = true ↔ isDigit c = true ∧ 128 ≤ c.toNat := by
  simp [isForeignDigit]

lemma isPlainDigit_of_isDigit {c : Char} (h : isDigit c = true) (hc : c.toNat < 128) :
    isPlainDigit c = true := by
  obtain ⟨z, hz, h₁, h₂⟩ := isDigit_iff.1 h
  -- the zeros of all other scripts are farther up
  have first : ∀ z ∈ digitZeros, z = 0x30 ∨ 128 ≤ z := by decide
  rcases first z hz with rfl | hz
  · exact isPlainDigit_iff.2 ⟨h₁, by omega⟩
  · omega

end Text

namespace Stamp

open Pattern

/-- A stamp with zeros for its digits. -/
def template : String := "00:00:00.000"

/-- The characters `z`, with a digit of a kind for each zero. -/
def Spelled (digit : Char → Bool) (z s : List Char) : Prop :=
  List.Forall₂ (fun z c => if z = '0' then digit c = true else c = z) z s

/-- A text of the form of a stamp, in digits of a kind. -/
def Fits (digit : Char → Bool) (s : List Char) : Prop := Spelled digit template.toList s

variable {digit digit' : Char → Bool} {s : List Char} {text : String}

lemma Fits.mono (h : Fits digit s) (hd : ∀ c ∈ s, digit c = true → digit' c = true) :
    Fits digit' s := by
  unfold Fits Spelled at h ⊢
  generalize template.toList = z at h ⊢
  induction h with
  | nil => exact .nil
  | cons hc _ ih =>
    refine .cons ?_ (ih fun c hm => hd c (List.mem_cons_of_mem _ hm))
    split
    next hz => exact hd _ List.mem_cons_self (by rwa [if_pos hz] at hc)
    next hz => rwa [if_neg hz] at hc

lemma template_eq :
    template.toList = ['0', '0', ':', '0', '0', ':', '0', '0', '.', '0', '0', '0'] := rfl

lemma fits_iff : Fits digit s ↔ ∃ h h' m m' x x' f f' f'',
    s = [h, h', ':', m, m', ':', x, x', '.', f, f', f''] ∧
      ∀ c ∈ [h, h', m, m', x, x', f, f', f''], digit c = true := by
  constructor
  · intro hs
    simp only [Fits, Spelled, template_eq, List.forall₂_cons_left_iff, List.forall₂_nil_left_iff] at hs
    simp at hs
    obtain ⟨h, hh, h', m, m', x, x', f, f', f'', hd, rfl⟩ := hs
    exact ⟨h, h', m, m', x, x', f, f', f'', rfl, by simp [hh, hd]⟩
  · rintro ⟨h, h', m, m', x, x', f, f', f'', rfl, hd⟩
    simpa [Fits, Spelled, template_eq] using hd

/-! ### What is read -/

lemma isSome_ofChars?_iff : (ofChars? s).isSome = true ↔ Fits Text.isPlainDigit s := by
  rw [fits_iff]
  constructor
  · intro hs
    unfold ofChars? at hs
    split at hs
    next h h' m m' x x' f f' f'' =>
      split at hs
      next hd => exact ⟨h, h', m, m', x, x', f, f', f'', rfl, List.all_eq_true.1 hd⟩
      next => simp at hs
    next => simp at hs
  · rintro ⟨h, h', m, m', x, x', f, f', f'', rfl, hd⟩
    rw [ofChars?, if_pos (List.all_eq_true.2 hd)]
    rfl

/-- A text is refused exactly when it has not the form of a stamp in plain digits, and the failure
names it. -/
theorem read_eq_error_iff {e : Failure} :
    read text = .error e ↔ ¬ Fits Text.isPlainDigit text.toList ∧ e = .malformedTime text := by
  rw [← isSome_ofChars?_iff, ← parse?]
  unfold read
  cases parse? text <;> simp [eq_comm]

/-! ### What is found -/

/-- Where `a` matches there stand the characters `z`, with digits of any script for zeros. -/
def Spells (a : Pattern) (z : List Char) : Prop :=
  ∀ s g r, Matches a s g r → ∃ u, s = u ++ r ∧ Spelled Text.isDigit z u

lemma spells_digit : Spells (one Text.isDigit) ['0'] := by
  intro s g r h
  obtain ⟨c, hc, -, rfl⟩ := matches_one_iff.1 h
  exact ⟨[c], rfl, .cons (by simpa using hc) .nil⟩

lemma spells_lit {w : String} (hw : '0' ∉ w.toList) : Spells (lit w) w.toList := by
  intro s g r h
  obtain ⟨-, rfl⟩ := matches_lit_iff.1 h
  refine ⟨w.toList, rfl, List.forall₂_same.2 fun c hc => ?_⟩
  have hne : c ≠ '0' := fun he => hw (he ▸ hc)
  rw [if_neg hne]

lemma Spells.append {a b : Pattern} {z z' : List Char} (ha : Spells a z) (hb : Spells b z') :
    Spells (a ++ b) (z ++ z') := by
  intro s g r h
  obtain ⟨t, _, _, hs, ht, -⟩ := matches_append_iff.1 h
  obtain ⟨u, rfl, hu⟩ := ha _ _ _ hs
  obtain ⟨v, rfl, hv⟩ := hb _ _ _ ht
  exact ⟨u ++ v, (List.append_assoc ..).symm, List.rel_append hu hv⟩

/-- What is found is a text of the form of a stamp. -/
lemma spells_shape : Spells shape template.toList := by
  have two : Spells (one Text.isDigit ++ one Text.isDigit) ['0', '0'] :=
    spells_digit.append spells_digit
  have colon : Spells (lit ":") [':'] := spells_lit (by decide)
  have point : Spells (lit ".") ['.'] := spells_lit (by decide)
  have minutes := ((two.append colon).append two).append colon
  exact (((minutes.append two).append point).append two).append spells_digit

/-- A text that was found and is refused holds a digit of another script. -/
theorem exists_foreignDigit (h : Fits Text.isDigit s) (hn : ¬ Fits Text.isPlainDigit s) :
    ∃ c ∈ s, Text.isForeignDigit c = true := by
  by_contra hc
  push Not at hc
  refine hn (h.mono fun c hs hd => Text.isPlainDigit_of_isDigit hd ?_)
  by_contra hp
  exact hc c hs (Text.isForeignDigit_iff.2 ⟨hd, by omega⟩)

/-- A stamp that stands in a text and cannot be read for a digit of another script. -/
structure Unreadable (w stamp : String) : Prop where
  mentioned : Text.mentions w stamp = true
  form : Fits Text.isDigit stamp.toList
  foreign : ∃ c ∈ stamp.toList, Text.isForeignDigit c = true

/-- A stamp that a pattern captures fails to be read only for its digits. -/
theorem unreadable_of_captured {w stamp : String} {e : Failure} (hc : Captured w stamp shape)
    (he : read stamp = .error e) : Unreadable w stamp ∧ e = .malformedTime stamp := by
  obtain ⟨hn, rfl⟩ := read_eq_error_iff.1 he
  obtain ⟨hm, g, r, hs⟩ := hc
  obtain ⟨u, hu, hf⟩ := spells_shape _ _ _ hs
  obtain rfl := List.append_cancel_right hu
  exact ⟨⟨hm, hf, exists_foreignDigit hf hn⟩, rfl⟩

end Stamp

end ViewPoints
