import ViewPoints.Proofs.Conversion.Passes
import ViewPoints.Proofs.Decimal.Floats
import ViewPoints.Proofs.HelperFile.Metadata
import ViewPoints.Proofs.Json.Numbers

/-!
What becomes of a clock offset. A line whose offset cannot be read is reported. But besides numbers
also words are read, and numbers beyond all floats; they are not reported and are shown as `null`.
-/

namespace ViewPoints

open Decimal (Numerical Readable isFinite_iff_numerical)
open HelperFile (begins StatesOffset)

/-! ### The document -/

/-- A member of the test run in the JSON form of a document. -/
def Document.testMember? (d : Document) (key : String) : Option Json :=
  match (d.toJson.field? "view_point_context").bind (Json.field? "datasets") with
  | some (.arr [_, test]) => test.field? key
  | _ => none

/-- What a text in a document is shown as: a number if it is one that is not beyond all floats, and
`null` if not. -/
structure Document.Shows (d : Document) (key token : String) : Prop where
  number : Numerical token.toList → ∃ literal, d.testMember? key = some (.num literal) ∧
    Json.Number literal.toList
  null : ¬ Numerical token.toList → d.testMember? key = some .null

lemma Document.testMember?_eq (d : Document) (key : String) :
    d.testMember? key = d.context.test.toJson.field? key := by
  obtain ⟨⟨version, aocVersion, startDate, timeNow, commonDuration, reference, test⟩, vs⟩ := d
  cases startDate <;> cases commonDuration <;> rfl

lemma Dataset.field?_timeOffset {d : Dataset} {o : TimeOffset} (h : d.timeOffset = some o) :
    d.toJson.field? "time_offset" = some (Json.ofOption Json.ofFloat o.mean) ∧
      d.toJson.field? "time_offset_stddev" = some (Json.ofOption Json.ofFloat o.deviation) := by
  obtain ⟨name, label, filename, timeOffset, sac, sic, timeStart, timeEnd, duration, i⟩ := d
  obtain rfl : timeOffset = some o := h
  exact ⟨rfl, rfl⟩

lemma Document.shows_of_float {d : Document} {key token : String} {x : Float}
    (h : Decimal.readFloat? token.toList = some x)
    (hj : d.testMember? key = some (Json.ofFloat x)) : d.Shows key token := by
  constructor
  case number =>
    intro hn
    obtain ⟨literal, hl, hnum⟩ := Json.exists_literal_of_isFinite ((isFinite_iff_numerical h).2 hn)
    exact ⟨literal, hl ▸ hj, hnum⟩
  case null =>
    intro hn
    rw [hj, Json.ofFloat_eq_null_iff.2 (by simpa using mt (isFinite_iff_numerical h).1 hn)]

/-! ### Lines -/

namespace HelperFile

variable {line m d : String}

lemma garbled_iff (h : StatesOffset line m d) :
    Garbled line ↔ ¬ (Readable m.toList ∧ Readable d.toList) := by
  have unreadable {s : List Char} : Decimal.readFloat? s = none ↔ ¬ Readable s := by
    rw [← Decimal.isSome_readFloat?_iff, Bool.not_eq_true, Option.isSome_eq_false_iff,
      Option.isNone_iff_eq_none]
  rw [not_and_or, ← unreadable, ← unreadable]
  constructor
  · rintro ⟨m', d', h', hn⟩
    obtain ⟨rfl, rfl⟩ := h.unique h'
    exact hn
  · exact fun hn => ⟨m, d, h, hn⟩

end HelperFile

namespace Conversion

variable {o : Options} {helper runLog : String} {c : Conversion}

/-- What becomes of a line with a clock offset: it is reported, or it sets the offset and the
deviation. -/
structure Told (t : Trackers) (c : Conversion) (line m d : String) : Prop where
  reported : Diagnostic.invalidTimeOffset line ∈ c.diagnostics ↔
    ¬ (Readable m.toList ∧ Readable d.toList)
  taken : Diagnostic.invalidTimeOffset line ∉ c.diagnostics → ∃ x y,
    (∀ s, HelperFile.Scan.step t s line = .ok { s with timeOffset := ⟨some x, some y⟩ }) ∧
    (Binary.isFinite x = true ↔ Numerical m.toList) ∧
    (Binary.isFinite y = true ↔ Numerical d.toList)

lemma exists_floats {m d : String} (h : Readable m.toList ∧ Readable d.toList) :
    ∃ x y, Decimal.readFloat? m.toList = some x ∧ Decimal.readFloat? d.toList = some y := by
  obtain ⟨x, hx⟩ := Option.isSome_iff_exists.1 (Decimal.isSome_readFloat?_iff.2 h.1)
  obtain ⟨y, hy⟩ := Option.isSome_iff_exists.1 (Decimal.isSome_readFloat?_iff.2 h.2)
  exact ⟨x, y, hx, hy⟩

/-- A line whose offset and deviation can both be read is not reported. What it says is shown as
numbers as far as it is numbers, and otherwise as `null`, where no other such line follows. -/
theorem told_of_ofTexts (h : ofTexts o helper runLog = .ok c) :
    (∀ line ∈ Text.lines helper, ∀ m d, begins .timeOffset line = true → StatesOffset line m d →
      Told o.trackers c line m d) ∧
    ∀ u line v m d, Text.lines helper = u ++ line :: v → begins .timeOffset line = true →
      StatesOffset line m d →
      (∀ l ∈ v, begins .timeOffset l = true → ∀ m' d', ¬ StatesOffset l m' d') →
      Diagnostic.invalidTimeOffset line ∉ c.diagnostics →
        c.document.Shows "time_offset" m ∧ c.document.Shows "time_offset_stddev" d := by
  obtain ⟨s, r, hs, -, rfl⟩ := ofLines_eq_ok_iff.1 h
  have hreported {line m d : String} (hl : line ∈ Text.lines helper)
      (hb : begins .timeOffset line = true) (hm : StatesOffset line m d) :
      Diagnostic.invalidTimeOffset line ∈ s.diagnostics ↔
        ¬ (Readable m.toList ∧ Readable d.toList) := by
    rw [HelperFile.invalidTimeOffset_mem_iff hs, ← HelperFile.garbled_iff hm]
    exact ⟨fun hg => hg.2.2, fun hg => ⟨hl, hb, hg⟩⟩
  constructor
  · intro line hl m d hb hm
    refine ⟨hreported hl hb hm, fun hn => ?_⟩
    obtain ⟨x, y, hx, hy⟩ := exists_floats (not_not.1 (mt (hreported hl hb hm).2 hn))
    refine ⟨x, y, fun s => ?_, isFinite_iff_numerical hx, isFinite_iff_numerical hy⟩
    rw [HelperFile.Scan.step, HelperFile.LineKind.of?_eq_some_iff.2 hb]
    dsimp only
    rw [HelperFile.Scan.readOffset, HelperFile.offset?_of_states hm, hx, hy]
  · intro u line v m d he hb hm hv hn
    have hl : line ∈ Text.lines helper := he ▸ List.mem_append_right u List.mem_cons_self
    obtain ⟨x, y, hx, hy⟩ := exists_floats (not_not.1 (mt (hreported hl hb hm).2 hn))
    rw [he] at hs
    have htime : (ofScans o s r).document.context.test.timeOffset = some ⟨some x, some y⟩ :=
      congrArg some (HelperFile.timeOffset_of_last hs hb hm hx hy hv)
    obtain ⟨hmean, hdeviation⟩ := Dataset.field?_timeOffset htime
    rw [← Document.testMember?_eq] at hmean hdeviation
    exact ⟨Document.shows_of_float hx hmean, Document.shows_of_float hy hdeviation⟩

/-- An offset that is no number is reported. A deviation beyond all floats is not, and it is shown as
`null` beside an offset that is a number. -/
theorem told_of_ofTexts_beyond : ∃ c,
    ofTexts {} "DT 1s secs (STD 0 secs)\nDT -.5 secs (STD 1e400 secs)\n" "" = .ok c ∧
    Told {} c "DT 1s secs (STD 0 secs)" "1s" "0" ∧
    Diagnostic.invalidTimeOffset "DT 1s secs (STD 0 secs)" ∈ c.diagnostics ∧
    Told {} c "DT -.5 secs (STD 1e400 secs)" "-.5" "1e400" ∧
    Diagnostic.invalidTimeOffset "DT -.5 secs (STD 1e400 secs)" ∉ c.diagnostics ∧
    (∃ literal, c.document.testMember? "time_offset" = some (.num literal) ∧
      Json.Number literal.toList) ∧
    c.document.testMember? "time_offset_stddev" = some .null := by
  have hlines : Text.lines "DT 1s secs (STD 0 secs)\nDT -.5 secs (STD 1e400 secs)\n" =
      ["DT 1s secs (STD 0 secs)"] ++ "DT -.5 secs (STD 1e400 secs)" :: [] := by decide +kernel
  have hfirst : StatesOffset "DT 1s secs (STD 0 secs)" "1s" "0" :=
    ⟨by decide, by decide, [' '], [' '], [' '], [' '], [' '], by decide, by decide⟩
  have hsecond : StatesOffset "DT -.5 secs (STD 1e400 secs)" "-.5" "1e400" :=
    ⟨by decide, by decide, [' '], [' '], [' '], [' '], [' '], by decide, by decide⟩
  obtain ⟨c, hc, hd⟩ := exists_ok_of_toOption (show (ofTexts {}
    "DT 1s secs (STD 0 secs)\nDT -.5 secs (STD 1e400 secs)\n" "").toOption.map
      Conversion.diagnostics = some #[.invalidTimeOffset "DT 1s secs (STD 0 secs)"] by
        decide +kernel)
  obtain ⟨htold, hshows⟩ := told_of_ofTexts hc
  rw [hlines] at htold hshows
  have hnot : Diagnostic.invalidTimeOffset "DT -.5 secs (STD 1e400 secs)" ∉ c.diagnostics := by
    simp [hd]
  obtain ⟨hmean, hdeviation⟩ := hshows _ _ [] _ _ rfl (by decide) hsecond (by simp) hnot
  have numerical {s : List Char} (finite : Bool)
      (h : (Decimal.readFloat? s).map Binary.isFinite = some finite) :
      Numerical s ↔ finite = true := by
    obtain ⟨x, hx, rfl⟩ := Option.map_eq_some_iff.1 h
    exact (isFinite_iff_numerical hx).symm
  refine ⟨c, hc, htold _ (by simp) _ _ (by decide) hfirst, by simp [hd],
    htold _ (by simp) _ _ (by decide) hsecond, hnot, hmean.number ?_, hdeviation.null ?_⟩
  · exact (numerical true (by decide +kernel)).2 rfl
  · exact fun h => Bool.noConfusion ((numerical false (by decide +kernel)).1 h)

/-- The word for what is no number is not reported, and the document does not show a number. -/
theorem not_reported_of_word : ∃ c,
    ofTexts {} "DT nan secs (STD 0.010 secs)\n" "" = .ok c ∧
    Text.lines "DT nan secs (STD 0.010 secs)\n" = ["DT nan secs (STD 0.010 secs)"] ∧
    begins .timeOffset "DT nan secs (STD 0.010 secs)" = true ∧
    StatesOffset "DT nan secs (STD 0.010 secs)" "nan" "0.010" ∧
    c.diagnostics = #[] ∧
    (∃ x, (c.document.context.test.timeOffset.bind TimeOffset.mean) = some x ∧
      Binary.isFinite x = false) ∧
    c.document.testMember? "time_offset" = some .null := by
  obtain ⟨c, hc, hd⟩ := exists_ok_of_toOption (show
    (ofTexts {} "DT nan secs (STD 0.010 secs)\n" "").toOption.map (fun c =>
      (c.diagnostics, c.document.context.test.timeOffset.bind fun o => o.mean.map Binary.isFinite)) =
        some (#[], some false) by decide +kernel)
  obtain ⟨hnone, htime⟩ := Prod.mk.inj hd
  obtain ⟨o, ho, hx⟩ := Option.bind_eq_some_iff.1 htime
  obtain ⟨x, hmean, hx⟩ := Option.map_eq_some_iff.1 hx
  refine ⟨c, hc, by decide +kernel, by decide, ?_, hnone, ⟨x, by rw [ho]; exact hmean, hx⟩, ?_⟩
  · exact ⟨by decide, by decide, [' '], [' '], [' '], [' '], [' '], by decide, by decide⟩
  · rw [Document.testMember?_eq, (Dataset.field?_timeOffset ho).1, hmean]
    exact congrArg some (Json.ofFloat_eq_null_iff.2 hx)

end Conversion

end ViewPoints
