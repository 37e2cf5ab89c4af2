import ViewPoints.Proofs.Json.Grammar
import ViewPoints.Proofs.Text.Digits

/-!
The reader reads every text of JSON as the value that it stands for. So no text stands for two
values.
-/

namespace ViewPoints.Json

/-! ### Gaps -/

lemma skipGaps_append {u : List Char} (hu : Gap u) (s : List Char) :
    skipGaps (u ++ s) = skipGaps s :=
  List.dropWhile_append_of_pos hu

lemma skipGaps_cons {c : Char} (h : isGap c = false) (s : List Char) :
    skipGaps (c :: s) = c :: s :=
  List.dropWhile_cons_of_neg (by simp [h])

lemma skipGaps_skipGaps (s : List Char) : skipGaps (skipGaps s) = skipGaps s := by
  induction s with
  | nil => rfl
  | cons c s ih =>
    cases hc : isGap c with
    | false => rw [skipGaps_cons hc, skipGaps_cons hc]
    | true =>
      have hs : skipGaps (c :: s) = skipGaps s := List.dropWhile_cons_of_pos hc
      rw [hs, ih]

/-! ### Strings -/

/-- What stands in a string is read up to the closing quote. -/
lemma readChars_of_chars {s cs : List Char} (h : Chars s cs) (done rest : List Char) :
    readChars none done (s ++ '"' :: rest) = some (done.reverse ++ cs, rest) := by
  induction h generalizing done with
  | nil => simp [readChars]
  | @plain c s cs hq hb hc h ih =>
    have hn : ¬ c.toNat < 0x20 := by omega
    simp [readChars, hb, hn, ih]
  | @short letter c s cs he h ih =>
    simp only [shortEscapes, List.mem_cons, List.not_mem_nil, or_false, Prod.mk.injEq] at he
    rcases he with ⟨rfl, rfl⟩ | ⟨rfl, rfl⟩ | ⟨rfl, rfl⟩ | ⟨rfl, rfl⟩ | ⟨rfl, rfl⟩ | ⟨rfl, rfl⟩ |
      ⟨rfl, rfl⟩ | ⟨rfl, rfl⟩ <;>
    simp [readChars, unescape?, ih]
  | @unit a b c d n s cs hu hh hl h ih =>
    simp [readChars, hu, hh, hl, ih]
  | @pair a b c d a' b' c' d' n n' s cs hu hh hu' hl h ih =>
    simp [readChars, hu, hh, hu', hl, ih]

/-! ### Numbers -/

lemma ne_of_isPlainDigit {c d : Char} (hc : Text.isPlainDigit c = true)
    (hd : Text.isPlainDigit d = false) : c ≠ d := by
  rintro rfl
  simp [hc] at hd

lemma allDigits_of_digits {s : List Char} (h : Digits s) : allDigits s = true := by
  simp [allDigits, h.1, List.all_eq_true.2 h.2]

lemma isTail_of_power {s : List Char} {n : Int} (h : Power s n) : isTail s = true := by
  cases h with
  | none => rfl
  | @plain letter s hl h =>
    have hp : isPower s = allDigits s := by
      obtain ⟨hne, hs⟩ := h
      cases s with
      | nil => exact absurd rfl hne
      | cons c s =>
        have hc := hs c List.mem_cons_self
        have hm := ne_of_isPlainDigit hc (show Text.isPlainDigit '-' = false by rfl)
        have hp := ne_of_isPlainDigit hc (show Text.isPlainDigit '+' = false by rfl)
        simp [isPower, hm, hp]
    rcases hl with rfl | rfl <;> simp [isTail, hp, allDigits_of_digits h]
  | plus hl h => rcases hl with rfl | rfl <;> simp [isTail, isPower, allDigits_of_digits h]
  | minus hl h => rcases hl with rfl | rfl <;> simp [isTail, isPower, allDigits_of_digits h]

lemma isFraction_of_fraction {s f t : List Char} {n : Int} (h : Fraction s f) (ht : Power t n) :
    isFraction (s ++ t) = true := by
  have htail := isTail_of_power ht
  cases h with
  | none =>
    cases ht with
    | none => rfl
    | plain hl h => rcases hl with rfl | rfl <;> exact htail
    | plus hl h => rcases hl with rfl | rfl <;> exact htail
    | minus hl h => rcases hl with rfl | rfl <;> exact htail
  | point h =>
    have hs := Text.span_append h.2 ht.head?
    rw [List.cons_append, isFraction, hs]
    simp [h.1, htail]

lemma isMagnitude_of_magnitude {s : List Char} {q : ℚ} (h : Magnitude s q) :
    isMagnitude s = true := by
  cases h with
  | @mk whole point fraction tail power hw hf hp =>
    obtain ⟨hd, hz⟩ := hw
    have hs := Text.span_append hd.2 (hf.head? hp)
    have hz : whole.length = 1 ∨ whole.head? ≠ some '0' := by
      by_cases h0 : whole.head? = some '0'
      · exact .inl (by rw [hz h0]; rfl)
      · exact .inr h0
    rw [List.append_assoc, isMagnitude, hs]
    simpa [hd.1, isFraction_of_fraction hf hp] using hz

lemma isNumber_of_number {s : List Char} (h : Number s) : isNumber s = true := by
  cases h with
  | minus h => exact isMagnitude_of_magnitude h
  | plain h =>
    have hm := isMagnitude_of_magnitude h
    obtain ⟨c, t, rfl, hc⟩ := h.exists_cons
    have hc := ne_of_isPlainDigit hc (show Text.isPlainDigit '-' = false by rfl)
    simpa [isNumber, hc] using hm

lemma isNumberChar_of_magnitude {s : List Char} {q : ℚ} (h : Magnitude s q) :
    ∀ c ∈ s, isNumberChar c = true := by
  have hd {u : List Char} (hu : Digits u) : ∀ c ∈ u, isNumberChar c = true :=
    fun c hc => by simp [isNumberChar, hu.2 c hc]
  cases h with
  | @mk whole point fraction tail power hw hf hp =>
    have hpoint : ∀ c ∈ point, isNumberChar c = true := by
      cases hf with
      | none => exact List.forall_mem_nil _
      | point h => exact List.forall_mem_cons.2 ⟨rfl, hd h⟩
    have htail : ∀ c ∈ tail, isNumberChar c = true := by
      cases hp with
      | none => exact List.forall_mem_nil _
      | plain hl h => rcases hl with rfl | rfl <;> exact List.forall_mem_cons.2 ⟨rfl, hd h⟩
      | plus hl h =>
        rcases hl with rfl | rfl <;>
          exact List.forall_mem_cons.2 ⟨rfl, List.forall_mem_cons.2 ⟨rfl, hd h⟩⟩
      | minus hl h =>
        rcases hl with rfl | rfl <;>
          exact List.forall_mem_cons.2 ⟨rfl, List.forall_mem_cons.2 ⟨rfl, hd h⟩⟩
    exact List.forall_mem_append.2 ⟨List.forall_mem_append.2 ⟨hd hw.1, hpoint⟩, htail⟩

lemma isNumberChar_of_number {s : List Char} (h : Number s) : ∀ c ∈ s, isNumberChar c = true := by
  cases h with
  | plain h => exact isNumberChar_of_magnitude h
  | minus h => exact List.forall_mem_cons.2 ⟨rfl, isNumberChar_of_magnitude h⟩

/-- What may follow a number: nothing that could belong to it. -/
def Ends (s : List Char) : Prop := ∀ c ∈ s.head?, isNumberChar c = false

lemma readNumber_of_number {s rest : List Char} (h : Number s) (hr : Ends rest) :
    readNumber (s ++ rest) = some (num (.ofList s), rest) := by
  rw [readNumber, Text.span_append (isNumberChar_of_number h) hr]
  simp [isNumber_of_number h]

/-! ### Values -/

attribute [local simp] readValue readItems readMembers

lemma readValue_skipGaps (fuel : Nat) (s : List Char) :
    readValue fuel (skipGaps s) = readValue fuel s := by
  cases fuel with
  | zero => rfl
  | succ fuel => rw [readValue, readValue, skipGaps_skipGaps]

lemma readItems_skipGaps (fuel : Nat) (done : List Json) (s : List Char) :
    readItems fuel done (skipGaps s) = readItems fuel done s := by
  cases fuel with
  | zero => rfl
  | succ fuel => rw [readItems, readItems, readValue_skipGaps]

lemma readMembers_skipGaps (fuel : Nat) (done : List (String × Json)) (s : List Char) :
    readMembers fuel done (skipGaps s) = readMembers fuel done s := by
  cases fuel with
  | zero => rfl
  | succ fuel => rw [readMembers, readMembers, skipGaps_skipGaps]

/-- A number begins with a digit or a minus. -/
lemma Number.exists_cons {s : List Char} (h : Number s) :
    ∃ c t, s = c :: t ∧ isGap c = false ∧
      ∀ {d : Char}, Text.isPlainDigit d = false → d ≠ '-' → c ≠ d := by
  cases h with
  | minus h => exact ⟨'-', _, rfl, rfl, fun _ hd => hd.symm⟩
  | plain h =>
    obtain ⟨c, t, rfl, hc⟩ := h.exists_cons
    have hne {d : Char} (hd : Text.isPlainDigit d = false) : c ≠ d := ne_of_isPlainDigit hc hd
    refine ⟨c, t, rfl, ?_, fun hd _ => hne hd⟩
    simp [isGap, hne (d := ' ') rfl, hne (d := '\n') rfl, hne (d := '\r') rfl,
      hne (d := '\t') rfl]

/-- Behind its first gap a text does not begin with a character that ends an array or an object. -/
lemma Spells.begins {p : Part} {s : List Char} (h : Spells p s) :
    ∃ c t, c ≠ ']' ∧ c ≠ '}' ∧ ∀ rest, skipGaps (s ++ rest) = c :: (t ++ rest) := by
  have hcons {c : Char} (hc : isGap c = false) (t : List Char) (h₁ : c ≠ ']') (h₂ : c ≠ '}') :
      ∃ c' t', c' ≠ ']' ∧ c' ≠ '}' ∧ ∀ rest, skipGaps (c :: t ++ rest) = c' :: (t' ++ rest) :=
    ⟨c, t, h₁, h₂, fun rest => skipGaps_cons hc _⟩
  induction h with
  | null => exact hcons rfl _ (by decide) (by decide)
  | yes => exact hcons rfl _ (by decide) (by decide)
  | no => exact hcons rfl _ (by decide) (by decide)
  | num h =>
    obtain ⟨c, t, rfl, hg, hne⟩ := h.exists_cons
    exact hcons hg _ (hne rfl (by decide)) (hne rfl (by decide))
  | str h => exact hcons rfl _ (by decide) (by decide)
  | emptyArray hu => exact hcons rfl _ (by decide) (by decide)
  | array h ih => exact hcons rfl _ (by decide) (by decide)
  | emptyObject hu => exact hcons rfl _ (by decide) (by decide)
  | object h ih => exact hcons rfl _ (by decide) (by decide)
  | @spaced j u s v hu h hv ih =>
    obtain ⟨c, t, h₁, h₂, ht⟩ := ih
    refine ⟨c, t ++ v, h₁, h₂, fun rest => ?_⟩
    rw [List.append_assoc, List.append_assoc, skipGaps_append hu, ht, List.append_assoc]
  | lastItem h ih => exact ih
  | @item j l s t h ht ih iht =>
    obtain ⟨c, t', h₁, h₂, ht'⟩ := ih
    exact ⟨c, t' ++ ',' :: t, h₁, h₂, fun rest => by rw [List.append_assoc, ht', List.append_assoc]⟩
  | @member j u k cs v s hu hk hv h ih =>
    refine ⟨'"', k ++ '"' :: v ++ ':' :: s, by decide, by decide, fun rest => ?_⟩
    simp only [List.append_assoc, List.cons_append]
    rw [skipGaps_append hu, skipGaps_cons rfl]
  | lastMember h ih => exact ih
  | @consMember m l s t h ht ih iht =>
    obtain ⟨c, t', h₁, h₂, ht'⟩ := ih
    exact ⟨c, t' ++ ',' :: t, h₁, h₂, fun rest => by rw [List.append_assoc, ht', List.append_assoc]⟩

/-- What the reader makes of a text, whatever follows, if its fuel is enough. -/
def Reads : Part → List Char → Prop
  | .value j, s => ∀ fuel u rest, Gap u → s.length ≤ fuel → Ends rest →
    readValue fuel (u ++ s ++ rest) = some (j, rest)
  | .spaced j, s => ∀ fuel rest, s.length ≤ fuel → Ends rest →
    ∃ v, Gap v ∧ readValue fuel (s ++ rest) = some (j, v ++ rest)
  | .items l, s => ∀ fuel done rest, s.length < fuel →
    readItems fuel done (s ++ ']' :: rest) = some (arr (done.reverse ++ l), rest)
  | .member m, s => ∀ fuel done rest, s.length ≤ fuel →
    readMembers (fuel + 1) done (s ++ ',' :: rest) = readMembers fuel (m :: done) rest ∧
    readMembers (fuel + 1) done (s ++ '}' :: rest) = some (obj (m :: done).reverse, rest)
  | .members l, s => ∀ fuel done rest, s.length < fuel →
    readMembers fuel done (s ++ '}' :: rest) = some (obj (done.reverse ++ l), rest)

/-- A value is read behind a gap if it is read at once. -/
lemma reads_value {j : Json} {s : List Char} (hs : s ≠ []) (h : ∀ fuel rest,
    s.length ≤ fuel + 1 → Ends rest → readValue (fuel + 1) (s ++ rest) = some (j, rest)) :
    Reads (.value j) s := by
  intro fuel u rest hu hf hr
  have h0 := List.length_pos_of_ne_nil hs
  obtain ⟨fuel, rfl⟩ := Nat.exists_eq_succ_of_ne_zero (show fuel ≠ 0 by omega)
  rw [List.append_assoc, ← readValue_skipGaps, skipGaps_append hu, readValue_skipGaps, h _ _ hf hr]

lemma reads_num {s : List Char} (h : Number s) : Reads (.value (num (.ofList s))) s := by
  obtain ⟨c, t, hs, hg, hne⟩ := h.exists_cons
  refine reads_value (by simp [hs]) fun fuel rest _ hr => ?_
  rw [← readNumber_of_number h hr, hs, readValue, List.cons_append, skipGaps_cons hg]
  split
  next h => exact absurd (List.cons.inj h).1 (hne rfl (by decide))
  next h => exact absurd (List.cons.inj h).1 (hne rfl (by decide))
  next h => exact absurd (List.cons.inj h).1 (hne rfl (by decide))
  next h => exact absurd (List.cons.inj h).1 (hne rfl (by decide))
  next h => exact absurd (List.cons.inj h).1 (hne rfl (by decide))
  next h => exact absurd (List.cons.inj h).1 (hne rfl (by decide))
  next => rfl

lemma reads_str {s cs : List Char} (h : Chars s cs) :
    Reads (.value (str (.ofList cs))) ('"' :: s ++ ['"']) := by
  refine reads_value (by simp) fun fuel rest _ _ => ?_
  have hs := readChars_of_chars h [] rest
  rw [readValue, List.append_assoc, List.cons_append, skipGaps_cons rfl]
  change (readChars none [] (s ++ '"' :: rest)).map _ = _
  rw [hs]
  rfl

lemma reads_emptyArray {u : List Char} (hu : Gap u) :
    Reads (.value (arr [])) ('[' :: u ++ [']']) := by
  refine reads_value (by simp) fun fuel rest _ _ => ?_
  have hs : skipGaps (u ++ ']' :: rest) = ']' :: rest := by
    rw [skipGaps_append hu, skipGaps_cons rfl]
  rw [readValue, List.append_assoc, List.cons_append, skipGaps_cons rfl]
  simp [hs]

lemma reads_array {l : List Json} {s : List Char} (h : Spells (.items l) s)
    (hi : Reads (.items l) s) : Reads (.value (arr l)) ('[' :: s ++ [']']) := by
  refine reads_value (by simp) fun fuel rest hf _ => ?_
  obtain ⟨c, t, hc, -, hs⟩ := h.begins
  have hi := hi fuel [] rest (by simp at hf; omega)
  rw [← readItems_skipGaps, hs] at hi
  rw [readValue, List.append_assoc, List.cons_append, skipGaps_cons rfl]
  simp [hs, hc, hi]

lemma reads_emptyObject {u : List Char} (hu : Gap u) :
    Reads (.value (obj [])) ('{' :: u ++ ['}']) := by
  refine reads_value (by simp) fun fuel rest _ _ => ?_
  have hs : skipGaps (u ++ '}' :: rest) = '}' :: rest := by
    rw [skipGaps_append hu, skipGaps_cons rfl]
  rw [readValue, List.append_assoc, List.cons_append, skipGaps_cons rfl]
  simp [hs]

lemma reads_object {l : List (String × Json)} {s : List Char} (h : Spells (.members l) s)
    (hm : Reads (.members l) s) : Reads (.value (obj l)) ('{' :: s ++ ['}']) := by
  refine reads_value (by simp) fun fuel rest hf _ => ?_
  obtain ⟨c, t, -, hc, hs⟩ := h.begins
  have hm := hm fuel [] rest (by simp at hf; omega)
  rw [← readMembers_skipGaps, hs] at hm
  rw [readValue, List.append_assoc, List.cons_append, skipGaps_cons rfl]
  simp [hs, hc, hm]

lemma ends_of_gap {v s : List Char} (hv : Gap v) (hs : Ends s) : Ends (v ++ s) := by
  cases v with
  | nil => exact hs
  | cons c v =>
    have hc := hv c List.mem_cons_self
    simp only [isGap, Bool.or_eq_true, beq_iff_eq] at hc
    intro d hd
    obtain rfl : c = d := Option.some.inj hd
    rcases hc with ((rfl | rfl) | rfl) | rfl <;> rfl

lemma ends_cons {c : Char} (h : isNumberChar c = false) (s : List Char) : Ends (c :: s) := by
  intro d hd
  obtain rfl : c = d := Option.some.inj hd
  exact h

lemma reads_spaced {j : Json} {u s v : List Char} (hu : Gap u) (hj : Reads (.value j) s)
    (hv : Gap v) : Reads (.spaced j) (u ++ s ++ v) := by
  intro fuel rest hf hr
  refine ⟨v, hv, ?_⟩
  rw [List.append_assoc]
  exact hj fuel u (v ++ rest) hu (by simp at hf; omega) (ends_of_gap hv hr)

lemma reads_lastItem {j : Json} {s : List Char} (hj : Reads (.spaced j) s) :
    Reads (.items [j]) s := by
  intro fuel done rest hf
  obtain ⟨fuel, rfl⟩ := Nat.exists_eq_succ_of_ne_zero (show fuel ≠ 0 by omega)
  obtain ⟨v, hv, hs⟩ := hj fuel (']' :: rest) (by omega) (ends_cons rfl rest)
  rw [readItems, hs]
  simp [skipGaps_append hv, skipGaps_cons (show isGap ']' = false from rfl)]

lemma reads_item {j : Json} {l : List Json} {s t : List Char} (hj : Reads (.spaced j) s)
    (hl : Reads (.items l) t) : Reads (.items (j :: l)) (s ++ ',' :: t) := by
  intro fuel done rest hf
  simp only [List.length_append, List.length_cons] at hf
  obtain ⟨fuel, rfl⟩ := Nat.exists_eq_succ_of_ne_zero (show fuel ≠ 0 by omega)
  obtain ⟨v, hv, hs⟩ := hj fuel (',' :: (t ++ ']' :: rest)) (by omega) (ends_cons rfl _)
  have hl := hl fuel (j :: done) rest (by omega)
  rw [List.append_assoc, List.cons_append, readItems, hs]
  simp [skipGaps_append hv, skipGaps_cons (show isGap ',' = false from rfl), hl]

lemma reads_member {j : Json} {u k cs v s : List Char} (hu : Gap u) (hk : Chars k cs) (hv : Gap v)
    (hj : Reads (.spaced j) s) :
    Reads (.member (.ofList cs, j)) (u ++ '"' :: k ++ '"' :: v ++ ':' :: s) := by
  intro fuel done rest hf
  have hkey (t : List Char) := readChars_of_chars hk [] t
  have hcolon (t : List Char) : skipGaps (v ++ ':' :: t) = ':' :: t := by
    rw [skipGaps_append hv, skipGaps_cons rfl]
  have hvalue (c : Char) (hc : isNumberChar c = false) (hg : isGap c = false) :
      ∃ w, readValue fuel (s ++ c :: rest) = some (j, w ++ c :: rest) ∧
        skipGaps (w ++ c :: rest) = c :: rest := by
    obtain ⟨w, hw, hs⟩ := hj fuel (c :: rest) (by simp at hf; omega) (ends_cons hc rest)
    exact ⟨w, hs, by rw [skipGaps_append hw, skipGaps_cons hg]⟩
  simp only [List.append_assoc, List.cons_append]
  constructor
  · obtain ⟨w, hs, hrest⟩ := hvalue ',' rfl rfl
    rw [readMembers, skipGaps_append hu, skipGaps_cons rfl]
    simp [hkey, hcolon, hs, hrest]
  · obtain ⟨w, hs, hrest⟩ := hvalue '}' rfl rfl
    rw [readMembers, skipGaps_append hu, skipGaps_cons rfl]
    simp [hkey, hcolon, hs, hrest]

lemma reads_lastMember {m : String × Json} {s : List Char} (hm : Reads (.member m) s) :
    Reads (.members [m]) s := by
  intro fuel done rest hf
  obtain ⟨fuel, rfl⟩ := Nat.exists_eq_succ_of_ne_zero (show fuel ≠ 0 by omega)
  rw [(hm fuel done rest (by omega)).2, List.reverse_cons]

lemma reads_consMember {m : String × Json} {l : List (String × Json)} {s t : List Char}
    (hm : Reads (.member m) s) (hl : Reads (.members l) t) :
    Reads (.members (m :: l)) (s ++ ',' :: t) := by
  intro fuel done rest hf
  simp only [List.length_append, List.length_cons] at hf
  obtain ⟨fuel, rfl⟩ := Nat.exists_eq_succ_of_ne_zero (show fuel ≠ 0 by omega)
  have hl := hl fuel (m :: done) rest (by omega)
  rw [List.append_assoc, List.cons_append, (hm fuel done _ (by omega)).1, hl, List.reverse_cons,
    List.append_assoc, List.singleton_append]

theorem reads_of_spells {p : Part} {s : List Char} (h : Spells p s) : Reads p s := by
  induction h with
  | null => exact reads_value (by simp) fun _ _ _ _ => rfl
  | yes => exact reads_value (by simp) fun _ _ _ _ => rfl
  | no => exact reads_value (by simp) fun _ _ _ _ => rfl
  | num h => exact reads_num h
  | str h => exact reads_str h
  | emptyArray hu => exact reads_emptyArray hu
  | array h ih => exact reads_array h ih
  | emptyObject hu => exact reads_emptyObject hu
  | object h ih => exact reads_object h ih
  | spaced hu h hv ih => exact reads_spaced hu ih hv
  | lastItem h ih => exact reads_lastItem ih
  | item h ht ih iht => exact reads_item ih iht
  | member hu hk hv h ih => exact reads_member hu hk hv ih
  | lastMember h ih => exact reads_lastMember ih
  | consMember h ht ih iht => exact reads_consMember ih iht

/-- Every text of JSON is read, as what it stands for. -/
theorem parse?_of_denotes {text : String} {j : Json} (h : Denotes text j) :
    parse? text = some j := by
  have hend : Ends [] := fun c hc => by simp at hc
  have hlength : text.toList.length ≤ text.length + 1 := by
    rw [String.length_toList]
    omega
  obtain ⟨v, hv, hr⟩ := reads_of_spells h (text.length + 1) [] hlength hend
  rw [List.append_nil, List.append_nil] at hr
  have hs : skipGaps v = [] := by
    have := skipGaps_append hv []
    rwa [List.append_nil] at this
  rw [parse?, hr]
  simp [hs]

/-- No text stands for two values. -/
theorem eq_of_denotes {text : String} {i j : Json} (hi : Denotes text i) (hj : Denotes text j) :
    i = j :=
  Option.some.inj ((parse?_of_denotes hi).symm.trans (parse?_of_denotes hj))

end ViewPoints.Json
