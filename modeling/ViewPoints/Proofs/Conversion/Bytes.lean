import ViewPoints.Proofs.Conversion.Passes
import ViewPoints.Proofs.HelperFile.Failures
import ViewPoints.Proofs.RunLog.Failures
import ViewPoints.Proofs.Text.Encoding

/-!
Conversions of files. A file may be decoded before it is cut into lines or after. What fails first,
when the helper file is read line by line and then the run log, decides how the conversion fails.
-/

namespace ViewPoints.Conversion

variable {o : Options} {helper runLog : ByteArray}

/-- The lines of a file in UTF-8 are those of its text. -/
lemma fileLines_toUTF8 (s : String) : fileLines s.toUTF8 = (Text.lines s).map .ok := by
  rw [fileLines, Text.linesOfBytes_toUTF8, List.map_map]
  rfl

/-- A file all of whose lines can be read is in UTF-8. -/
lemma isSome_of_fileLines {b : ByteArray} {l : List String} (h : fileLines b = l.map .ok) :
    (String.fromUTF8? b).isSome = true := by
  have hr : (fileLines b).map Except.toOption = Text.linesOfBytes b := by
    rw [fileLines, List.map_map]
    refine (List.map_congr_left fun line _ => ?_).trans (List.map_id _)
    cases line <;> rfl
  have hl : Text.linesOfBytes b = l.map some := by
    rw [← hr, h, List.map_map]
    rfl
  obtain ⟨s, rfl, -⟩ := Text.exists_text_of_linesOfBytes hl
  rw [Text.fromUTF8?_toUTF8, Option.isSome_some]

/-- A conversion fails like the helper file, or else like the run log. -/
lemma failure?_ofLines (o : Options) (helper runLog : List (Except Failure String)) :
    failure? (ofLines o helper runLog) =
      (HelperFile.firstFailure? o.trackers helper).or
        (RunLog.firstFailure? o.trackers runLog) := by
  rw [ofLines_eq_bind, ← HelperFile.failure?_read]
  refine failure?_bind fun h _ => ?_
  rw [failure?_map, RunLog.failure?_read]

/-- A conversion of files in UTF-8 is the conversion of their texts. What other files make of a
conversion, and what a stamp does that cannot be read, is told by the place that fails first. -/
theorem fails_at_first (o : Options) (helper runLog : ByteArray) :
    (∀ h r, String.fromUTF8? helper = some h → String.fromUTF8? runLog = some r →
      ofBytes o helper runLog = ofTexts o h r) ∧
    (∀ c, ofBytes o helper runLog = .ok c →
      (String.fromUTF8? helper).isSome = true ∧ (String.fromUTF8? runLog).isSome = true) ∧
    failure? (ofBytes o helper runLog) =
      (HelperFile.firstFailure? o.trackers (fileLines helper)).or
        (RunLog.firstFailure? o.trackers (fileLines runLog)) := by
  refine ⟨fun h r hh hr => ?_, fun c hc => ?_, failure?_ofLines ..⟩
  · obtain rfl := Text.fromUTF8?_eq_some_iff.1 hh
    obtain rfl := Text.fromUTF8?_eq_some_iff.1 hr
    rw [ofBytes, fileLines_toUTF8, fileLines_toUTF8, ofTexts]
  · obtain ⟨u, v, hu, hv⟩ := exists_texts_of_ofLines hc
    exact ⟨isSome_of_fileLines hu, isSome_of_fileLines hv⟩

/-- A blank line ends the block before the line that cannot be read, and so the stamp with its
Arabic digit is met first. In the other helper file the block is still open there. -/
theorem fails_at_first_stamp : ∃ (block : String) (c : Conversion),
    failure? (ofBytes {} ((block ++ "\n").toUTF8 ++ ⟨#[0xFF]⟩) ⟨#[0xFF]⟩) =
      some (.malformedTime "1\u0661:00:00.000") ∧
    failure? (ofBytes {} (block.toUTF8 ++ ⟨#[0xFF]⟩) ⟨#[0xFF]⟩) = some .invalidText ∧
    failure? (ofBytes {} block.toUTF8 ⟨#[0xFF]⟩) = some (.malformedTime "1\u0661:00:00.000") ∧
    String.fromUTF8? "NOW\r\n".toUTF8 = some "NOW\r\n" ∧ String.fromUTF8? .empty = some "" ∧
    ofBytes {} "NOW\r\n".toUTF8 .empty = ofTexts {} "NOW\r\n" "" ∧
    ofBytes {} "NOW\r\n".toUTF8 .empty = .ok c ∧
    (String.fromUTF8? "NOW\r\n".toUTF8).isSome = true := by
  let block := "DEV #1: Track contents\n" ++ "Test track #1.1 (reference track #2.2) near " ++
    "1\u0661:00:00.000 UTC:\n" ++ " reported rocd=1; expected 2\n"
  have hn : String.fromUTF8? "NOW\r\n".toUTF8 = some "NOW\r\n" := Text.fromUTF8?_toUTF8 _
  have he : String.fromUTF8? .empty = some "" := Text.fromUTF8?_toUTF8 ""
  obtain ⟨c, hc, -⟩ := exists_ok_of_toOption (show (ofBytes {} "NOW\r\n".toUTF8
    .empty).toOption.map Conversion.diagnostics = some #[] by decide +kernel)
  obtain ⟨htexts, hutf8, -⟩ := fails_at_first {} "NOW\r\n".toUTF8 .empty
  obtain ⟨-, -, hended⟩ := fails_at_first {} ((block ++ "\n").toUTF8 ++ ⟨#[0xFF]⟩) ⟨#[0xFF]⟩
  obtain ⟨-, -, hopen⟩ := fails_at_first {} (block.toUTF8 ++ ⟨#[0xFF]⟩) ⟨#[0xFF]⟩
  obtain ⟨-, -, hflush⟩ := fails_at_first {} block.toUTF8 ⟨#[0xFF]⟩
  refine ⟨block, c, hended.trans ?_, hopen.trans ?_, hflush.trans ?_, hn, he,
    htexts _ _ hn he, hc, (hutf8 c hc).1⟩ <;> decide +kernel

end ViewPoints.Conversion
