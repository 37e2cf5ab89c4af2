import ViewPoints.Proofs.Deviation.Mentions
import ViewPoints.Proofs.Deviation.Pairing
import ViewPoints.Proofs.Deviation.TimeSpan

/-!
That nothing in a view point is made up. Its clause, its times, the numbers of its tracks and its
codes all stand in the block, each next to what tells what it is, whatever the text of the block
is and however they were sorted and joined.
-/

namespace ViewPoints

/-- The text of a view point in contents ends with a clause of one line, about its quantity, that
stands behind a blank in the block; and its times stand there in square brackets. -/
structure Content.Traced (text : String) (kind : ContentKind) (v : ViewPoint) : Prop where
  clause : ∃ tracks clause blank, v.text = some (tracks ++ "\n" ++ clause) ∧ About kind clause ∧
    '\n' ∉ clause.toList ∧ Text.isBlank blank = true ∧
    Text.mentions text (.ofList [blank] ++ clause) = true
  timeOfDay : ∀ span ∈ v.filters.timeOfDay, ∀ x, span.minimum = some x ∨ span.maximum = some x →
    Text.mentions text ("[" ++ x ++ "]") = true

/-- The times, the numbers and the codes of the view point of a track that only its owner has stand
in the block, each behind or in front of the words that it is known by. -/
structure Unmatched.Traced (text : String) (v : ViewPoint) : Prop where
  timeOfDay : ∀ span ∈ v.filters.timeOfDay, ∀ x, span.minimum = some x ∨ span.maximum = some x →
    Text.mentions text (x ++ " UTC") = true
  trackNumbers : ∀ e ∈ v.filters.trackNumbers.entries, ∃ numbers,
    e.2 = String.intercalate "," numbers ∧ ∀ n ∈ numbers, Text.OfClass Text.isDigit n.toList ∧
      Text.mentions text ("#" ++ n ++ ".") = true
  mode3A : ∀ x ∈ v.filters.mode3A,
    Text.mentions text ("SSR mode 3/A code; value=0" ++ x) = true
  targetAddress : ∀ x ∈ v.filters.targetAddress,
    Text.mentions text ("aircraft address; value=0x" ++ x) = true

variable {t : Trackers} {b : Block} {v : ViewPoint} {h : Header} {text : String}

open Pattern

/-! ### Contents -/

namespace Content

variable {kind : ContentKind} {clause word : String}

lemma inField_newline : inField '\n' = false := by decide

lemma About.inLine (hc : About kind clause) : '\n' ∉ clause.toList := by
  have line {w : String} (hw : Text.OfClass Content.inLine w.toList) : '\n' ∉ w.toList :=
    hw.not_mem rfl
  cases hc with
  | reported _ hf hv he =>
    have hfield := hf.not_mem inField_newline
    simp [hfield, line hv, line he]
  | unexpected _ _ hv => simp [line hv]

lemma mentions_of_clause? (hc : clause? h text word = some (.ok (kind, clause))) :
    About kind clause ∧ ∃ blank, Text.isBlank blank = true ∧
      Text.mentions text (.ofList [blank] ++ clause) = true := by
  obtain ⟨shown, ⟨u, q, ht, ⟨blank, hb, rfl, -⟩, -⟩, ⟨rest, rfl⟩, habout⟩ := first_of_clause? hc
  exact ⟨habout, blank, hb, Text.mentions_iff.2 ⟨u, rest, by simp [ht]⟩⟩

lemma Spans.bracketed {span : TimeOfDay} {window : Option Float} (hs : Spans text span window)
    {x : String} (hx : span.minimum = .some x ∨ span.maximum = .some x) : Bracketed text x := by
  cases hs with
  | none => simp at hx
  | some ha hb =>
    rcases hx with hx | hx
    · exact Option.some.inj hx ▸ ha
    · exact Option.some.inj hx ▸ hb

lemma traced_of_outcome (hv : outcome t h text = .ok (.viewPoint v)) :
    ∃ kind, v.kind = .content kind ∧ Traced text kind v := by
  obtain ⟨s, kind, clause, word, -, hc, hv⟩ := viewPoint_of_outcome hv
  obtain ⟨habout, blank, hb, hm⟩ := mentions_of_clause? hc
  obtain ⟨time, span, window, -, hs, rfl⟩ := eq_of_viewPoint hv
  refine ⟨kind, rfl, ⟨_, clause, blank, rfl, habout, habout.inLine, hb, hm⟩, ?_⟩
  rintro _ ⟨⟩ x hx
  exact ((spans_of_timeSpan hs).bracketed hx).2

end Content

/-! ### Tracks that only one run has -/

namespace Unmatched

variable {owner : Side} {track part first last n x : String} {p : List Char} {d : Details}
  {f : Filters}

lemma Mentioned.mentions (hn : Mentioned text n p) :
    Text.mentions text ("#" ++ n ++ ".") = true := by
  obtain ⟨⟨u, hu⟩, -, r, rfl⟩ := hn
  exact Text.mentions_iff.2 ⟨u, r, by simp [← hu]⟩

/-- What the phrase of a track reads stands in the text. -/
lemma mentions_of_phrase (hr : (phrase owner).read text = some [track, part, first, last]) :
    (∃ p, Mentioned text track p) ∧ Text.mentions text (first ++ " UTC") = true ∧
      Text.mentions text (last ++ " UTC") = true := by
  obtain ⟨own, hown⟩ := exists_own hr
  obtain ⟨n, l, hn, hmention⟩ := hown.mentioned
  obtain ⟨rfl, -⟩ := List.cons.inj (Option.some.inj (hr.symm.trans hn))
  obtain ⟨g, hg, hl⟩ := Option.map_eq_some_iff.1 hr
  obtain ⟨u, s, r, ht, hm⟩ := leftmost_sound hg
  obtain ⟨_, _, _, _, a, b, -, hs, hl', -⟩ := matches_phrase hm
  obtain ⟨rfl, rfl, rfl, rfl⟩ : _ ∧ _ ∧ _ ∧ _ := by simpa using hl.symm.trans hl'
  refine ⟨⟨own, hmention⟩, Text.mentions_iff.2 ?_, Text.mentions_iff.2 ?_⟩
  · exact ⟨u ++ ((caption owner).toList ++ (track.toList ++ ('.' :: (part.toList ++ a)))),
      b ++ (last.toList ++ (" UTC".toList ++ r)), by simp [ht, hs]⟩
  · exact ⟨u ++ ((caption owner).toList ++ (track.toList ++ ('.' :: (part.toList ++ (a ++
      (first.toList ++ (" UTC".toList ++ b))))))), r, by simp [ht, hs]⟩

/-- A detail stands behind the word that it is known by. -/
lemma mentions_of_detail {w : String} {q : Char → Bool}
    (hx : detail (lit w ++ group (many q)) text = some x) : Text.mentions text (w ++ x) = true := by
  obtain ⟨l, hr, hhead⟩ := Option.bind_eq_some_iff.1 hx
  obtain ⟨g, hg, rfl⟩ := Option.map_eq_some_iff.1 hr
  obtain ⟨u, s, r, ht, hm⟩ := leftmost_sound hg
  obtain ⟨y, -, _, hlit, rfl⟩ := matches_append_group_iff.1 hm
  obtain ⟨rfl, rfl⟩ := matches_lit_iff.1 hlit
  obtain rfl : y = x := by simpa using hhead
  exact Text.mentions_iff.2 ⟨u, r, by simp [ht]⟩

/-- The candidates are tracks that the text mentions. -/
lemma exists_candidates (text : String) : ∃ numbers,
    candidates text = String.intercalate "," numbers ∧ ∀ n ∈ numbers, ∃ p, Mentioned text n p := by
  refine ⟨_, rfl, fun n hn => ?_⟩
  have hmem := List.mem_of_mem_drop (mem_keys_candidates.1 hn)
  obtain ⟨q, hq, hmention⟩ := mem_numbersIn_iff.1 hmem
  exact ⟨q, hq, hmention⟩

lemma mode3A_of_codeFilters (hf : f.mode3A = none) (hx : (codeFilters d f).mode3A = some x) :
    d.mode3A = some x := by
  unfold codeFilters at hx
  split at hx
  · exact hx
  · simp [hf] at hx

lemma address_of_codeFilters (hf : f.targetAddress = none)
    (hx : (codeFilters d f).targetAddress = some x) : d.address = some x := by
  unfold codeFilters at hx
  split at hx
  · exact hx
  · simp [hf] at hx

/-- The entries of the filters are the number of the track and those of its candidates. -/
lemma mem_trackFilters {level : Dubiousness} {e : String × String}
    (hf : f.trackNumbers = .empty)
    (he : e ∈ (trackFilters t owner text track level f).trackNumbers.entries) :
    e.2 = track ∨ e.2 = candidates text := by
  have own {e : String × String}
      (he : e ∈ (f.setTrackNumber (t.name owner) track).trackNumbers.entries) : e.2 = track := by
    rcases SortedMap.mem_put he with rfl | he
    · rfl
    · rw [hf] at he
      simp [SortedMap.empty] at he
  unfold trackFilters at he
  split at he
  · exact .inl (own he)
  · rcases SortedMap.mem_put he with rfl | he
    · exact .inr rfl
    · exact .inl (own he)

lemma traced_filled (hr : (phrase owner).read text = some [track, part, first, last]) :
    Traced text (filled t owner h text track part first last) := by
  obtain ⟨⟨own, hown⟩, hfirst, hlast⟩ := mentions_of_phrase hr
  constructor
  case timeOfDay =>
    intro span hspan x hx
    obtain rfl : ⟨some first, some last⟩ = span := by simpa [filled] using hspan
    rcases hx with ⟨⟨⟩⟩ | ⟨⟨⟩⟩
    · exact hfirst
    · exact hlast
  case trackNumbers =>
    intro e he
    rw [filled, trackNumbers_codeFilters] at he
    rcases mem_trackFilters rfl he with he | he
    · refine ⟨[track], by simpa using he, ?_⟩
      simpa using ⟨hown.mention.1, hown.mentions⟩
    · obtain ⟨numbers, hjoin, hnumbers⟩ := exists_candidates text
      refine ⟨numbers, he.trans hjoin, fun n hn => ?_⟩
      obtain ⟨p, hp⟩ := hnumbers n hn
      exact ⟨hp.mention.1, hp.mentions⟩
  case mode3A =>
    exact fun x hx => mentions_of_detail (mode3A_of_codeFilters (by simp) hx)
  case targetAddress =>
    exact fun x hx => mentions_of_detail (address_of_codeFilters (by simp) hx)

lemma traced_blank (owner : Side) (h : Header) (text : String) : Traced text (blank owner h) where
  timeOfDay := by simp [blank]
  trackNumbers := by simp [blank, SortedMap.empty]
  mode3A := by simp [blank]
  targetAddress := by simp [blank]

lemma traced_viewPoint (t : Trackers) (owner : Side) (h : Header) (text : String) :
    Traced text (viewPoint t owner h text) := by
  unfold viewPoint
  split
  next hr => exact traced_filled hr
  next => exact traced_blank owner h text

end Unmatched

/-! ### Blocks -/

/-- All that a view point shows of its block stands there. -/
theorem Block.traced_of_viewPoint (hv : b.outcome t = .ok (.viewPoint v)) :
    (∃ kind, v.kind = .content kind ∧ Content.Traced b.text kind v) ∨
      ∃ owner d, v.kind = .unmatched owner d ∧ Unmatched.Traced b.text v := by
  obtain ⟨h, -, ⟨owner, rfl⟩ | hv⟩ := viewPoint_cases hv
  · obtain ⟨d, hd⟩ := Unmatched.exists_kind t owner h b.text
    exact .inr ⟨owner, d, hd, Unmatched.traced_viewPoint t owner h b.text⟩
  · exact .inl (Content.traced_of_outcome hv)

/-- A block that mentions its candidates in another order than they are joined in, one of them
twice. -/
def candidatesBlock : Block :=
  .under 0 "1" "Extra" "test" ["Extra test track #7.1", "Time of start: 10:00:00.000 UTC",
    "Time of end: 10:00:05.000 UTC", "searching ... 2 candidates found #9.1 #12.2 #9.3",
    "SSR mode 3/A code; value=07000"]

theorem Block.traced_of_viewPoint_candidates : ∃ v,
    candidatesBlock.outcome {} = .ok (.viewPoint v) ∧
    v.filters.trackNumbers.entries = [("REF track_num", "12,9"), ("TST track_num", "7")] ∧
    v.filters.mode3A = some "7000" ∧
    ((∃ kind, v.kind = .content kind ∧ Content.Traced candidatesBlock.text kind v) ∨
      ∃ owner d, v.kind = .unmatched owner d ∧ Unmatched.Traced candidatesBlock.text v) := by
  have hout : (candidatesBlock.viewPoint? {}).map
      (fun v => (v.filters.trackNumbers.entries, v.filters.mode3A)) =
      some ([("REF track_num", "12,9"), ("TST track_num", "7")], some "7000") := by
    decide +kernel
  obtain ⟨v, hv, he⟩ := Block.exists_viewPoint hout
  obtain ⟨hn, hc⟩ := Prod.mk.inj he
  exact ⟨v, hv, hn, hc, traced_of_viewPoint hv⟩

end ViewPoints
