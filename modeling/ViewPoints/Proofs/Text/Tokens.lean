import ViewPoints.Proofs.Pattern.Preference

/-!
Texts as tokens with blanks between them. How many blanks there are does not matter, nor whether a
text begins or ends with some.
-/

namespace ViewPoints.Text

/-- What stands between the blanks. -/
def tokens (s : List Char) : List (List Char) := (s.splitOnP isBlank).filter fun w => !w.isEmpty

variable {b w r s : List Char} {l : List (List Char)} {c : Char}

lemma tokens_cons_of_blank (hc : isBlank c = true) (r : List Char) : tokens (c :: r) = tokens r := by
  have h := List.splitOnP_append_cons_of_forall_mem (p := isBlank) (List.forall_mem_nil _) c hc r
  rw [List.nil_append] at h
  rw [tokens, h]
  rfl

lemma tokens_append_of_blank (hb : ∀ c ∈ b, isBlank c = true) (r : List Char) :
    tokens (b ++ r) = tokens r := by
  induction b with
  | nil => rfl
  | cons c b ih =>
    obtain ⟨hc, hb⟩ := List.forall_mem_cons.1 hb
    rw [List.cons_append, tokens_cons_of_blank hc, ih hb]

/-- A token goes on up to a blank or to the end. -/
lemma tokens_append (hw : OfClass isSolid w) (hr : ∀ c ∈ r.head?, isSolid c = false) :
    tokens (w ++ r) = w :: tokens r := by
  have hsolid : ∀ c ∈ w, isBlank c = false := fun c hc => isBlank_of_isSolid (hw.2 c hc)
  have hne : (!w.isEmpty) = true := by
    simpa using hw.1
  have hfilter (l : List (List Char)) :
      (w :: l).filter (fun w => !w.isEmpty) = w :: l.filter fun w => !w.isEmpty :=
    List.filter_cons_of_pos hne
  cases r with
  | nil =>
    rw [List.append_nil, tokens, List.splitOnP_eq_singleton hsolid, hfilter]
    rfl
  | cons c r =>
    have hc : isBlank c = true := by
      simpa [isSolid] using hr c rfl
    rw [tokens, List.splitOnP_append_cons_of_forall_mem hsolid c hc, hfilter,
      tokens_cons_of_blank hc]
    rfl

lemma exists_cut (p : Char → Bool) (s : List Char) :
    ∃ u v, (∀ c ∈ u, p c = true) ∧ (∀ c ∈ v.head?, p c = false) ∧ s = u ++ v := by
  induction s with
  | nil => exact ⟨[], [], List.forall_mem_nil _, by simp, rfl⟩
  | cons c s ih =>
    cases hc : p c with
    | true =>
      obtain ⟨u, v, hu, hv, rfl⟩ := ih
      exact ⟨c :: u, v, List.forall_mem_cons.2 ⟨hc, hu⟩, hv, rfl⟩
    | false => exact ⟨[], c :: s, List.forall_mem_nil _, by simpa using hc, rfl⟩

/-- The first token stands behind blanks, if there are any. -/
lemma exists_of_tokens (h : tokens s = w :: l) : ∃ b r, (∀ c ∈ b, isBlank c = true) ∧
    OfClass isSolid w ∧ (∀ c ∈ r.head?, isSolid c = false) ∧ s = b ++ (w ++ r) ∧
      tokens r = l := by
  obtain ⟨b, t, hb, ht, rfl⟩ := exists_cut isBlank s
  obtain ⟨v, r, hv, hr, rfl⟩ := exists_cut isSolid t
  rw [tokens_append_of_blank hb] at h
  by_cases hne : v = []
  · -- what stands behind the blanks is neither blank nor the beginning of a token
    subst hne
    cases r with
    | nil => cases h
    | cons c r =>
      have hsolid := hr c rfl
      rw [isSolid, ht c rfl] at hsolid
      cases hsolid
  · rw [tokens_append ⟨hne, hv⟩ hr] at h
    obtain ⟨rfl, hl⟩ := List.cons.inj h
    exact ⟨b, r, hb, ⟨hne, hv⟩, hr, rfl, hl⟩

/-- Blanks stand between two tokens. -/
lemma exists_of_tokens_append (hr : ∀ c ∈ r.head?, isSolid c = false) (h : tokens r = w :: l) :
    ∃ b t, OfClass isBlank b ∧ OfClass isSolid w ∧ (∀ c ∈ t.head?, isSolid c = false) ∧
      r = b ++ (w ++ t) ∧ tokens t = l := by
  obtain ⟨b, t, hb, hw, ht, rfl, hl⟩ := exists_of_tokens h
  refine ⟨b, t, ⟨?_, hb⟩, hw, ht, rfl, hl⟩
  rintro rfl
  obtain ⟨c, hc, hs⟩ := hw.exists_head
  have := hr c (by rw [List.nil_append, List.head?_append, hc]; rfl)
  rw [hs] at this
  cases this

end ViewPoints.Text
