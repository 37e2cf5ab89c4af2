import ViewPoints.Proofs.HelperFile.Facts
import ViewPoints.Proofs.HelperFile.Unfinished
import ViewPoints.Proofs.Text.Tokens

/-!
The headers of a helper file. A line that begins with `DEV` is a header exactly if its tokens are
those of one, and what stands behind the fourth token does not matter. A number is taken for the
headers and for no other line.
-/

namespace ViewPoints.HelperFile

open Pattern

variable {line number kind qualifier : String}

/-! ### The written form -/

/-- The form of a header: blanks between its parts, and the last word up to where it ends. -/
def WritesHeader (line number kind qualifier : String) : Prop :=
  Text.OfClass Text.isDigit number.toList ∧ Text.OfClass Text.isSolid kind.toList ∧
    Text.OfClass Text.isSolid qualifier.toList ∧ ∃ b c d r, Text.OfClass Text.isBlank b ∧
      Text.OfClass Text.isBlank c ∧ Text.OfClass Text.isBlank d ∧
        (∀ x ∈ r.head?, Text.isSolid x = false) ∧
          line.toList = "DEV".toList ++ (b ++ ("#".toList ++ (number.toList ++ (":".toList ++
            (c ++ (kind.toList ++ (d ++ (qualifier.toList ++ r))))))))

lemma WritesHeader.readFront (h : WritesHeader line number kind qualifier) :
    Header.phrase.readFront line = some [number, kind, qualifier] := by
  obtain ⟨hn, hk, hq, b, c, d, r, hb, hc, hd, hr, hline⟩ := h
  refine Reads.readFront_eq (r := r) ?_
  rw [hline]
  exact reads_lit "DEV" _ |>.blanks hb rfl |>.lit "#" |>.upTo hn |>.lit ":"
    |>.toSolid hc hk.exists_head |>.toBlank hk hd |>.toSolid hd hq.exists_head |>.group hq hr

/-- A match may end within the last word. The word as a whole is what is preferred. -/
lemma exists_writesHeader {l : List String} (h : Header.phrase.readFront line = some l) :
    ∃ number kind qualifier, WritesHeader line number kind qualifier := by
  obtain ⟨g, r, hm, -⟩ := exists_match_of_readFront h
  simp only [Header.phrase, digits, solids, blanks, matches_append_group_iff,
    matches_append_lit_iff, matches_append_many_iff, matches_lit_iff] at hm
  obtain ⟨q, hq, _, ⟨d, hd, k, hk, _, ⟨c, hc, n, hn, _, ⟨b, hb, rfl, hline⟩, rfl⟩, rfl⟩, rfl⟩ := hm
  obtain ⟨v, t, hv, ht, rfl⟩ := Text.exists_cut Text.isSolid r
  have hword : (String.ofList (q.toList ++ v)).toList = q.toList ++ v := String.toList_ofList
  refine ⟨n, k, .ofList (q.toList ++ v), hn, hk, ?_, b, c, d, t, hb, hc, hd, ht, ?_⟩
  · rw [hword]
    exact ⟨List.append_ne_nil_of_left_ne_nil hq.1 v, List.forall_mem_append.2 ⟨hq.2, hv⟩⟩
  · rw [hline, hword, List.append_assoc q.toList]

lemma readFront_phrase_eq_iff {l : List String} : Header.phrase.readFront line = some l ↔
    ∃ number kind qualifier, WritesHeader line number kind qualifier ∧
      l = [number, kind, qualifier] := by
  constructor
  · intro h
    obtain ⟨n, k, q, hw⟩ := exists_writesHeader h
    exact ⟨n, k, q, hw, Option.some.inj (h.symm.trans hw.readFront)⟩
  · rintro ⟨n, k, q, hw, rfl⟩
    exact hw.readFront

/-! ### Tokens -/

/-- The first four tokens of a line are those of a header. -/
def Titles (line number kind qualifier : String) : Prop :=
  Text.OfClass Text.isDigit number.toList ∧ ∃ rest, Text.tokens line.toList =
    "DEV".toList :: ("#".toList ++ (number.toList ++ ":".toList)) :: kind.toList ::
      qualifier.toList :: rest

/-- The second token of a header has no blank in it. -/
lemma ofClass_numbered (h : Text.OfClass Text.isDigit number.toList) :
    Text.OfClass Text.isSolid ("#".toList ++ (number.toList ++ ":".toList)) := by
  refine ⟨by simp, fun c hc => ?_⟩
  rcases List.mem_append.1 hc with hc | hc
  · rw [List.mem_singleton.1 hc]
    decide
  · rcases List.mem_append.1 hc with hc | hc
    · exact Text.isSolid_of_isDigit (h.2 c hc)
    · rw [List.mem_singleton.1 hc]
      decide

lemma WritesHeader.titles (h : WritesHeader line number kind qualifier) :
    Titles line number kind qualifier := by
  obtain ⟨hn, hk, hq, b, c, d, r, hb, hc, hd, hr, hline⟩ := h
  have hdev : Text.OfClass Text.isSolid "DEV".toList := by decide
  refine ⟨hn, Text.tokens r, ?_⟩
  have hsplit : line.toList = "DEV".toList ++ (b ++ (("#".toList ++ (number.toList ++
      ":".toList)) ++ (c ++ (kind.toList ++ (d ++ (qualifier.toList ++ r)))))) := by
    simp only [hline, List.append_assoc]
  rw [hsplit, Text.tokens_append hdev (isSolid_of_head hb), Text.tokens_append_of_blank hb.2,
    Text.tokens_append (ofClass_numbered hn) (isSolid_of_head hc),
    Text.tokens_append_of_blank hc.2, Text.tokens_append hk (isSolid_of_head hd),
    Text.tokens_append_of_blank hd.2, Text.tokens_append hq hr]

lemma Titles.writesHeader (h : Titles line number kind qualifier) (ho : opens line = true) :
    WritesHeader line number kind qualifier := by
  obtain ⟨hn, rest, ht⟩ := h
  obtain ⟨a, s, ha, -, hs, hline, ht₁⟩ := Text.exists_of_tokens ht
  obtain ⟨b, u, hb, -, hu, rfl, ht₂⟩ := Text.exists_of_tokens_append hs ht₁
  obtain ⟨c, v, hc, hk, hv, rfl, ht₃⟩ := Text.exists_of_tokens_append hu ht₂
  obtain ⟨d, r, hd, hq, hr, rfl, -⟩ := Text.exists_of_tokens_append hv ht₃
  -- no blanks stand before the first word, for the line begins with it
  have hnil : a = [] := by
    cases a with
    | nil => rfl
    | cons x a =>
      obtain ⟨t, ht⟩ := Text.startsWith_iff.1 ho
      rw [hline] at ht
      obtain ⟨rfl, -⟩ := List.cons.inj ht
      have hx := ha _ List.mem_cons_self
      exact absurd hx (by decide)
  refine ⟨hn, hk, hq, b, c, d, r, hb, hc, hd, hr, ?_⟩
  rw [hline, hnil]
  simp only [List.nil_append, List.append_assoc]

/-! ### Headers -/

theorem read?_eq_some_iff {id : ℕ} {h : Header} (ho : opens line = true) :
    Header.read? id line = some h ↔ h.id = id ∧ Titles line h.number h.kind h.qualifier := by
  obtain ⟨i, number, kind, qualifier⟩ := h
  constructor
  · intro hr
    unfold Header.read? at hr
    split at hr
    next n k q hl =>
      obtain ⟨rfl, rfl, rfl, rfl⟩ := Header.mk.inj (Option.some.inj hr)
      obtain ⟨n', k', q', hw, hl'⟩ := readFront_phrase_eq_iff.1 hl
      obtain ⟨rfl, rfl, rfl⟩ : n = n' ∧ k = k' ∧ q = q' := by simpa using hl'
      exact ⟨rfl, hw.titles⟩
    next => cases hr
  · rintro ⟨rfl, ht⟩
    rw [Header.read?, (ht.writesHeader ho).readFront]

lemma isHeader_iff (ho : opens line = true) :
    isHeader line = true ↔ ∃ number kind qualifier, Titles line number kind qualifier := by
  rw [← isSome_header_read? 0, Option.isSome_iff_exists]
  constructor
  · rintro ⟨h, hh⟩
    exact ⟨_, _, _, ((read?_eq_some_iff ho).1 hh).2⟩
  · rintro ⟨number, kind, qualifier, ht⟩
    exact ⟨⟨0, number, kind, qualifier⟩, (read?_eq_some_iff ho).2 ⟨rfl, ht⟩⟩

/-- Only four tokens make a header. -/
lemma Titles.congr {line' : String} (h : Titles line number kind qualifier)
    (ht : (Text.tokens line.toList).take 4 = (Text.tokens line'.toList).take 4) :
    Titles line' number kind qualifier := by
  obtain ⟨hn, rest, hrest⟩ := h
  refine ⟨hn, (Text.tokens line'.toList).drop 4, ?_⟩
  rw [hrest] at ht
  conv_lhs => rw [← List.take_append_drop 4 (Text.tokens line'.toList), ← ht]
  rfl

lemma read?_congr {line' : String} (ho : opens line = true) (ho' : opens line' = true)
    (ht : (Text.tokens line.toList).take 4 = (Text.tokens line'.toList).take 4) (id : ℕ) :
    Header.read? id line = Header.read? id line' := by
  refine Option.ext fun h => ?_
  rw [read?_eq_some_iff ho, read?_eq_some_iff ho']
  exact and_congr_right fun _ => ⟨fun hh => hh.congr ht, fun hh => hh.congr ht.symm⟩

/-! ### Numbers -/

namespace Scan

variable {t : Trackers} {s s' : Scan}

lemma headers_step (h : s.step t line = .ok s') :
    s'.headers = s.headers + if isHeader line = true then 1 else 0 := by
  rw [step_eq, map_eq_ok_iff] at h
  obtain ⟨m, hm, rfl⟩ := h
  have hheaders : m.headers = s.headers := by
    split_ifs at hm
    · exact headers_of_close hm
    · rw [Except.ok.inj hm]
  rw [headers_pass, hheaders, List.countP_singleton]

/-- A line that opens a block takes the next number, if it is a header. -/
lemma opened_step (ho : opens line = true) (h : s.step t line = .ok s') :
    s'.opened = some { header := Header.read? s.headers line, opening := line } := by
  rw [step, LineKind.of?_eq_some_iff.2 ho, map_eq_ok_iff] at h
  obtain ⟨m, hm, rfl⟩ := h
  rw [openBlock, headers_of_close hm]

end Scan

/-- A line that begins with `DEV` is a header exactly if its first four tokens are those of one. They
are all that is read of it, its key is made of the last two of them with one blank between them, and
the next number is taken for it. No other line takes a number. -/
theorem header_iff_tokens :
    (∀ line, opens line = true →
      (isHeader line = true ↔ ∃ number kind qualifier, Titles line number kind qualifier) ∧
      (∀ id h, Header.read? id line = some h ↔
        h.id = id ∧ Titles line h.number h.kind h.qualifier) ∧
      (∀ id number kind qualifier, Titles line number kind qualifier →
        (Header.read? id line).map Header.key = some (kind ++ " " ++ qualifier)) ∧
      ∀ id line', opens line' = true →
        (Text.tokens line.toList).take 4 = (Text.tokens line'.toList).take 4 →
          Header.read? id line = Header.read? id line') ∧
    (∀ t s s' line, Scan.step t s line = .ok s' →
      (∀ number kind qualifier, opens line = true → Titles line number kind qualifier →
        s'.headers = s.headers + 1 ∧ s'.opened =
          some { header := some ⟨s.headers, number, kind, qualifier⟩, opening := line }) ∧
      ((opens line = true → ∀ number kind qualifier, ¬ Titles line number kind qualifier) →
        s'.headers = s.headers)) ∧
    ∀ (t : Trackers) (lines : List String) (s : Scan), read t (lines.map .ok) = .ok s →
      s.headers = lines.countP isHeader := by
  refine ⟨fun line ho => ⟨isHeader_iff ho, fun _ _ => read?_eq_some_iff ho, ?_,
    fun id line' ho' ht => read?_congr ho ho' ht id⟩, fun t s s' line hs => ⟨?_, fun hn => ?_⟩,
    fun t lines s => headers_of_read⟩
  · intro id number kind qualifier ht
    have hr : Header.read? id line = some ⟨id, number, kind, qualifier⟩ :=
      (read?_eq_some_iff ho).2 ⟨rfl, ht⟩
    rw [hr]
    rfl
  · intro number kind qualifier ho ht
    have hr : Header.read? s.headers line = some ⟨s.headers, number, kind, qualifier⟩ :=
      (read?_eq_some_iff ho).2 ⟨rfl, ht⟩
    refine ⟨?_, by rw [Scan.opened_step ho hs, hr]⟩
    rw [Scan.headers_step hs, if_pos ((isHeader_iff ho).2 ⟨_, _, _, ht⟩)]
  · have hh : ¬ isHeader line = true := by
      intro hh
      have ho := opens_of_isHeader hh
      obtain ⟨number, kind, qualifier, ht⟩ := (isHeader_iff ho).1 hh
      exact hn ho number kind qualifier ht
    rw [Scan.headers_step hs, if_neg hh, Nat.add_zero]

/-- A number in a digit of another script, two blanks in a row, a blank that is wide, and a remark
behind the header. Without a blank before its number the next line is none. -/
theorem header_iff_tokens_blanks : ∃ a b c : Scan,
    Titles "DEV\u2003#٣:  Extra\ttest: near 7" "٣" "Extra" "test:" ∧
    (Header.read? 5 "DEV\u2003#٣:  Extra\ttest: near 7").map Header.key = some "Extra test:" ∧
    Header.read? 5 "DEV\u2003#٣:  Extra\ttest: near 7" =
      Header.read? 5 "DEV #٣: Extra test:" ∧
    Scan.step {} {} "DEV\u2003#٣:  Extra\ttest: near 7" = .ok a ∧ a.headers = 1 ∧
    Scan.step {} a "DEV#2: Extra test" = .ok b ∧ b.headers = 1 ∧
    read {} (["DEV\u2003#٣:  Extra\ttest: near 7", "DEV#2: Extra test"].map .ok) = .ok c ∧
      c.headers = 1 := by
  obtain ⟨hline, hstep, hread⟩ := header_iff_tokens
  have ht : Titles "DEV\u2003#٣:  Extra\ttest: near 7" "٣" "Extra" "test:" :=
    ⟨by decide +kernel, ["near".toList, "7".toList], by decide +kernel⟩
  have hn (number kind qualifier : String) :
      ¬ Titles "DEV#2: Extra test" number kind qualifier := by
    rintro ⟨-, rest, h⟩
    have hw : Text.tokens "DEV#2: Extra test".toList =
        ["DEV#2:".toList, "Extra".toList, "test".toList] := by decide +kernel
    rw [hw] at h
    exact absurd (List.cons.inj h).1 (by decide)
  have ho : opens "DEV\u2003#٣:  Extra\ttest: near 7" = true := by decide +kernel
  obtain ⟨-, -, hkey, hcongr⟩ := hline _ ho
  obtain ⟨⟨a, b⟩, hab, -⟩ := exists_ok_of_toOption (show ((Scan.step {} {}
    "DEV\u2003#٣:  Extra\ttest: near 7").bind fun a => (Scan.step {} a "DEV#2: Extra test").map
      fun b => (a, b)).toOption.map (fun _ => ()) = some () by decide +kernel)
  obtain ⟨a, ha, hmap⟩ := bind_eq_ok_iff.1 hab
  obtain ⟨b, hb, -⟩ := map_eq_ok_iff.1 hmap
  obtain ⟨c, hc, -⟩ := exists_ok_of_toOption (show (read {} (["DEV\u2003#٣:  Extra\ttest: near 7",
    "DEV#2: Extra test"].map .ok)).toOption.map (fun _ => ()) = some () by decide +kernel)
  have ha1 : a.headers = 1 := ((hstep _ _ _ _ ha).1 _ _ _ ho ht).1
  have hb1 : b.headers = 1 := ((hstep _ _ _ _ hb).2 fun _ => hn).trans ha1
  refine ⟨a, b, c, ht, hkey 5 _ _ _ ht, ?_, ha, ha1, hb, hb1, hc, (hread _ _ _ hc).trans ?_⟩
  · exact hcongr 5 _ (by decide +kernel) (by decide +kernel)
  · decide +kernel

end ViewPoints.HelperFile
