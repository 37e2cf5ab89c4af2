import ViewPoints.Proofs.Deviation.Contents
import ViewPoints.Proofs.Stamp.Order

/-!
The times of day of a deviation in contents. They run from the first bracketed stamp of the block
to the last in byte order, whatever the order is in which the stamps stand there and however often;
and where the stamps are ones that a clock shows, from the earliest to the latest.
-/

namespace ViewPoints.Content

variable {text : String} {span : TimeOfDay} {window : Option Float}

/-- All bracketed stamps of a text are read, and are ones that a clock shows. -/
def ShowsClock (text : String) : Prop :=
  ∀ x, Bracketed text x → ∃ m, Stamp.read x = .ok m ∧ m.OfClock

/-- The span of all bracketed stamps of a text, and its length. -/
structure SpansAll (text : String) (span : TimeOfDay) (window : Option Float) : Prop where
  spans : Spans text span window
  minimum_eq_none_iff : span.minimum = none ↔ ∀ x, ¬ Bracketed text x
  maximum_eq_none_iff : span.maximum = none ↔ ∀ x, ¬ Bracketed text x
  unordered : ∀ text', (∀ x, Bracketed text' x ↔ Bracketed text x) →
    timeSpan text' = .ok (span, window)
  chronological : ShowsClock text → ∀ a ∈ span.minimum, ∀ b ∈ span.maximum,
    ∃ p q, Stamp.read a = .ok p ∧ Stamp.read b = .ok q ∧
      ∀ x m, Bracketed text x → Stamp.read x = .ok m → p.millis ≤ m.millis ∧ m.millis ≤ q.millis
  window_nonneg : ShowsClock text → ∀ length ∈ window, 0 ≤ length
  measured : Measured span window

/-! ### The stamps as a set -/

/-- Only what stands in a list decides about its ends. -/
lemma span?_congr {l m : List String} (h : ∀ x, x ∈ l ↔ x ∈ m) : span? l = span? m := by
  cases l with
  | nil =>
    obtain rfl : m = [] := List.eq_nil_iff_forall_not_mem.2 fun x hx => by simpa using (h x).2 hx
    rfl
  | cons s l =>
    cases m with
    | nil => simpa using (h s).1 List.mem_cons_self
    | cons t m =>
      have hl : span? (s :: l) = some _ := rfl
      have hm : span? (t :: m) = some _ := rfl
      obtain ⟨hlf, hll⟩ := mem_of_span? hl
      obtain ⟨hmf, hml⟩ := mem_of_span? hm
      have first := Text.before_total (before_span? hm _ ((h _).1 hlf)).1
        (before_span? hl _ ((h _).2 hmf)).1
      have last := Text.before_total (before_span? hl _ ((h _).2 hml)).2
        (before_span? hm _ ((h _).1 hll)).2
      rw [hl, hm, first, last]

lemma timeSpan_congr {text' : String} (h : ∀ x, Bracketed text' x ↔ Bracketed text x) :
    timeSpan text' = timeSpan text := by
  have hs : span? (bracketed.readAll text') = span? (bracketed.readAll text) :=
    span?_congr fun x => by rw [mem_readAll_bracketed, mem_readAll_bracketed, h x]
  rw [timeSpan, hs, timeSpan]

/-! ### The ends of the span -/

lemma Spans.eq_none_iff (h : Spans text span window) :
    (span.minimum = .none ↔ ∀ x, ¬ Bracketed text x) ∧
      (span.maximum = .none ↔ ∀ x, ¬ Bracketed text x) := by
  cases h with
  | none h => exact ⟨iff_of_true rfl h, iff_of_true rfl h⟩
  | some ha =>
    have hn : ¬ ∀ x, ¬ Bracketed text x := fun h => h _ ha
    exact ⟨iff_of_false (by simp) hn, iff_of_false (by simp) hn⟩

/-- A stamp that is not before another in byte order is not earlier. -/
lemma ShowsClock.millis_le (h : ShowsClock text) {x y : String} {m n : Stamp}
    (hx : Bracketed text x) (hy : Bracketed text y) (hm : Stamp.read x = .ok m)
    (hn : Stamp.read y = .ok n) (hb : Text.before x y = false) : n.millis ≤ m.millis := by
  obtain ⟨m', hm', hmc⟩ := h x hx
  obtain ⟨n', hn', hnc⟩ := h y hy
  obtain rfl := Except.ok.inj (hm.symm.trans hm')
  obtain rfl := Except.ok.inj (hn.symm.trans hn')
  rw [← Bool.not_eq_true, Stamp.before_iff_millis hm hn hmc hnc] at hb
  omega

lemma Spans.chronological (h : Spans text span window) (hc : ShowsClock text) :
    ∀ a ∈ span.minimum, ∀ b ∈ span.maximum, ∃ p q, Stamp.read a = .ok p ∧ Stamp.read b = .ok q ∧
      ∀ x m, Bracketed text x → Stamp.read x = .ok m →
        p.millis ≤ m.millis ∧ m.millis ≤ q.millis := by
  cases h with
  | none => simp
  | some ha hb hfirst hlast hp hq =>
    rintro _ ⟨⟩ _ ⟨⟩
    refine ⟨_, _, hp, hq, fun x m hx hm => ⟨?_, ?_⟩⟩
    · exact hc.millis_le hx ha hm hp (hfirst x hx)
    · exact hc.millis_le hb hx hq hm (hlast x hx)

lemma Spans.window_nonneg (h : Spans text span window) (hc : ShowsClock text) :
    ∀ length ∈ window, 0 ≤ length := by
  cases h with
  | none => simp
  | some ha hb hfirst _ hp hq =>
    rintro _ ⟨⟩
    rw [(Stamp.inRange_of_read hp).difference_nonneg_iff (Stamp.inRange_of_read hq)]
    exact hc.millis_le hb ha hq hp (hfirst _ hb)

/-! ### View points -/

variable {t : Trackers} {b : Block} {v : ViewPoint} {kind : ContentKind}

/-- The times of day of a deviation in contents span all bracketed stamps of its block. -/
theorem spansAll_of_outcome (hv : b.outcome t = .ok (.viewPoint v)) (hk : v.kind = .content kind) :
    ∃ time span window, v.timing = some ⟨some time, window⟩ ∧ v.filters.timeOfDay = some span ∧
      SpansAll b.text span window := by
  obtain ⟨h, s, payload, word, -, -, hv⟩ := Block.contents_of_outcome hv hk
  obtain ⟨time, span, window, -, hs, rfl⟩ := eq_of_viewPoint hv
  have hspans := spans_of_timeSpan hs
  refine ⟨time.seconds, span, window, rfl, rfl, ?_⟩
  constructor
  case spans => exact hspans
  case minimum_eq_none_iff => exact hspans.eq_none_iff.1
  case maximum_eq_none_iff => exact hspans.eq_none_iff.2
  case unordered => exact fun text' h' => (timeSpan_congr h').trans hs
  case chronological => exact hspans.chronological
  case window_nonneg => exact hspans.window_nonneg
  case measured => exact hspans.measured

lemma showsClock_of_readAll (h : (bracketed.readAll text).all (fun x =>
    (Stamp.parse? x).any fun m => decide (m.minute < 60) && decide (m.second < 60)) = true) :
    ShowsClock text := by
  intro x hx
  have hm := List.all_eq_true.1 h x (mem_readAll_bracketed.2 hx)
  obtain ⟨m, hp, hm⟩ := (Option.any_eq_true _ _).1 hm
  rw [Bool.and_eq_true, decide_eq_true_eq, decide_eq_true_eq] at hm
  exact ⟨m, by rw [Stamp.read, hp], hm.1, hm.2⟩

/-- The stamps stand in no order, one of them twice, and the last is the end of the day. -/
theorem spansAll_of_outcome_endOfDay : ∃ b v, b = Block.under 0 "8" "Track" "contents"
      [contentLine ⟨"1", "1", "2", "1", "23:59:59.000"⟩ "reported rocd=1; expected 2",
        "[24:00:00.000] [23:59:58.500] [24:00:00.000]"] ∧
    b.outcome {} = .ok (.viewPoint v) ∧ v.kind = .content .climbRate ∧
    v.filters.timeOfDay = some ⟨some "23:59:58.500", some "24:00:00.000"⟩ ∧
    ShowsClock b.text ∧ ∃ time span window, v.timing = some ⟨some time, window⟩ ∧
      v.filters.timeOfDay = some span ∧ SpansAll b.text span window := by
  obtain ⟨b, hb⟩ : ∃ b, b = Block.under 0 "8" "Track" "contents"
      [contentLine ⟨"1", "1", "2", "1", "23:59:59.000"⟩ "reported rocd=1; expected 2",
        "[24:00:00.000] [23:59:58.500] [24:00:00.000]"] := ⟨_, rfl⟩
  -- what can be computed of the block, with one evaluation of its text
  have hcomputed : ((b.viewPoint? {}).map fun v => (v.kind, v.filters.timeOfDay)) =
        some (.content .climbRate, some ⟨some "23:59:58.500", some "24:00:00.000"⟩) ∧
      (bracketed.readAll b.text).all (fun x =>
        (Stamp.parse? x).any fun m => decide (m.minute < 60) && decide (m.second < 60)) = true := by
    rw [hb]
    decide +kernel
  obtain ⟨hout, hclock⟩ := hcomputed
  obtain ⟨v, hv, he⟩ := Block.exists_viewPoint hout
  obtain ⟨hk, hs⟩ := Prod.mk.inj he
  exact ⟨b, v, hb, hv, hk, hs, showsClock_of_readAll hclock, spansAll_of_outcome hv hk⟩

end ViewPoints.Content
