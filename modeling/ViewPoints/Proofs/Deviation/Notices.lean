import ViewPoints.Proofs.Decimal.Floats
import ViewPoints.Proofs.Deviation.Blocks
import ViewPoints.Proofs.Deviation.Shape
import ViewPoints.Proofs.Json.Numbers
import ViewPoints.Proofs.RunLog.ShortTracks
import ViewPoints.Proofs.Stamp.Search
import ViewPoints.Proofs.Stamp.Seconds

/-!
What is read from a line of a run log that reports a short track. Which run the first track is of
is told by the first word only. The codes may be any text without the end of a bracket, also one
that reads like the rest of the line.
-/

namespace ViewPoints.ShortTrack

open Pattern

/-- A character of the number of seconds. -/
def inDiff (c : Char) : Bool := Text.isDigit c || c == '.'

/-- What a line reports: the short track, its counterpart, the codes, the start, and how much
shorter the track is. The words tell of which run a track is. -/
structure Notice where
  word : String
  track : String
  counterWord : String
  counterpart : String
  code : String
  address : String
  stamp : String
  diff : String

namespace Notice

/-- The line, but for blanks at its end. -/
def line (n : Notice) : String :=
  .join ["Deviation: Short ", n.word, " track #", n.track, " (", n.counterWord, " track #",
    n.counterpart, " [A:", n.code, "] [S:", n.address, "]) starting near ", n.stamp, " UTC (diff=",
    n.diff, " seconds)"]

/-- Words, and numbers in digits of any script. The stamp is in plain digits. -/
structure Formed (n : Notice) : Prop where
  word : Text.OfClass Text.isWord n.word.toList
  track : Text.OfClass Text.isDigit n.track.toList
  counterWord : Text.OfClass Text.isWord n.counterWord.toList
  counterpart : Text.OfClass Text.isDigit n.counterpart.toList
  code : Text.OfClass inBracket n.code.toList
  address : Text.OfClass inBracket n.address.toList
  stamp : Stamp.Fits Text.isPlainDigit n.stamp.toList
  diff : Text.OfClass inDiff n.diff.toList

/-- The run of the short track. -/
def side (n : Notice) : Side := if n.word = "tst" ∨ n.word = "test" then .test else .reference

/-- The codes that are shown, in front of the start: one in plain digits, and one in hexadecimal
digits. -/
def shown (n : Notice) : String :=
  (if ∀ c ∈ n.code.toList, Text.isPlainDigit c = true then "mA:" ++ n.code ++ " " else "") ++
    (if "0x".toList <+: n.address.toList then "mS:" ++ n.address ++ " " else "") ++
      n.stamp ++ " UTC"

end Notice

/-! ### The line -/

variable {n : Notice} {trailing : String}

lemma read_line (hn : n.Formed) (ht : ∀ c ∈ trailing.toList, Text.isBlank c = true) :
    phrase.read (n.line ++ trailing) = some [n.word, n.track, n.counterWord, n.counterpart, n.code,
      n.address, n.stamp, n.diff] := by
  have hend : Prefers (run Text.isBlank) (trailing.toList ++ []) [] [] :=
    prefers_run ht (by simp)
  have h := reads_lit "Short " _ |>.upTo hn.word |>.lit " track #" |>.upTo hn.track |>.lit " ("
    |>.upTo hn.counterWord |>.lit " track #" |>.upTo hn.counterpart |>.lit " [A:"
    |>.upTo hn.code |>.lit "] [S:" |>.upTo hn.address |>.lit "]) starting near "
    |>.upTo hn.stamp.plain_isDigit.ofClass |>.lit " UTC (diff="
    |>.group hn.diff (by rintro _ ⟨⟩; decide) |>.space rfl |>.lit "seconds)"
    |>.append hend.reads |>.textEnd
  refine h.read_eq (u := "Deviation: ".toList) (skips_of_avoids (by decide) _) ?_
  simp only [Notice.line, String.toList_append, String.toList_join, List.flatMap_cons,
    List.flatMap_nil, List.append_assoc, List.append_nil]
  rfl

lemma mentions_line (n : Notice) (trailing : String) :
    Text.mentions (n.line ++ trailing) "Deviation: Short" = true := by
  rw [Text.mentions_iff]
  refine ⟨[], ?_⟩
  simp only [Notice.line, String.toList_append, String.toList_join, List.flatMap_cons,
    List.append_assoc, List.nil_append]
  exact ⟨' ' :: _, rfl⟩

/-! ### The length of time -/

/-- The length of time that is read: the float nearest to a number. From `overflow` on that is an
infinity. -/
inductive Length (text : String) : Option Float → Prop
  | number {d : Decimal} {x : Float} (hd : Decimal.Numeral text.toList d)
    (hx : Binary.Rounded x false d.value) : Length text (some x)
  | none (h : ∀ d, ¬ Decimal.Numeral text.toList d) : Length text none

lemma isPlainLetter_of_inDiff {c : Char} (h : inDiff c = true) : Text.isPlainLetter c = false := by
  rw [inDiff, Bool.or_eq_true, beq_iff_eq] at h
  rcases h with h | rfl
  · by_cases hc : c.toNat < 128
    · have := Text.isPlainDigit_iff.1 (Text.isPlainDigit_of_isDigit h hc)
      simp [Text.isPlainLetter]
      omega
    · simp [Text.isPlainLetter]
      omega
  · decide

lemma length_readFloat? {text : String} (h : Text.OfClass inDiff text.toList) :
    Length text (Decimal.readFloat? text.toList) := by
  have hhead : ∀ c ∈ text.toList.head?, inDiff c = true := fun c hc => h.2 c (List.mem_of_mem_head? hc)
  have hread : Decimal.readFloat? text.toList = (Decimal.read? text.toList).map Decimal.toFloat := by
    rw [Decimal.readFloat?_eq, Decimal.readMagnitude?_eq]
    · exact fun c hc => isPlainLetter_of_inDiff (hhead c hc)
    · intro c hc
      constructor <;> rintro rfl <;> exact absurd (hhead _ hc) (by decide)
  rw [hread]
  cases hd : Decimal.read? text.toList with
  | some d => exact .number (Decimal.numeral_of_read? hd) (Decimal.rounded_toFloat d)
  | none =>
    refine .none fun d hn => ?_
    rw [Decimal.read?_of_numeral hn] at hd
    cases hd

/-- It is shown as `null` where it is no number, or one beyond all floats. -/
lemma Length.eq_null_iff {text : String} {window : Option Float} (h : Length text window) :
    Json.ofOption Json.ofFloat window = .null ↔
      ¬ ∃ d, Decimal.Numeral text.toList d ∧ d.value < Binary.overflow := by
  cases h with
  | none h => exact iff_of_true rfl fun ⟨d, hd, _⟩ => h d hd
  | @number d x hd hx =>
    change Json.ofFloat x = .null ↔ _
    rw [Json.ofFloat_eq_null_iff, ← Bool.not_eq_true, hx.isFinite_iff]
    refine not_congr ⟨fun hv => ⟨d, hd, hv⟩, ?_⟩
    rintro ⟨d', hd', hv⟩
    rwa [hd.unique hd']

/-! ### The view point -/

/-- What a line turns into. -/
structure Decodes (t : Trackers) (id : Nat) (n : Notice) (v : ViewPoint) : Prop where
  numbered : v.IsShortTrack id
  text : v.text = some (t.name n.side ++ " " ++ n.track ++ " to " ++ t.name n.side.opposite ++ " " ++
    n.counterpart ++ "\ndiff=" ++ n.diff ++ " seconds\n" ++ n.shown)
  timing : ∃ time window, Stamp.read n.stamp = .ok time ∧ time.InSeconds time.seconds ∧
    Length n.diff window ∧ v.timing = some ⟨some time.seconds, window⟩
  /-- The window is shown as a number where it is one that is not beyond all floats. -/
  window : v.toJson.field? "time_window" = some .null ↔
    ¬ ∃ d, Decimal.Numeral n.diff.toList d ∧ d.value < Binary.overflow
  first : v.filters.trackNumber (t.name n.side) = some n.track
  second : v.filters.trackNumber (t.name n.side.opposite) = some n.counterpart
  both : v.filters.KeyedBy [t.name n.side, t.name n.side.opposite]
  others : v.filters.timeOfDay = none ∧ v.filters.mode3A = none ∧ v.filters.targetAddress = none
  dbObjects : v.dbObjects = ["Tracker"]
  contextVariables : v.contextVariables = none

lemma sideOf_word (n : Notice) : sideOf n.word = n.side := by
  simp only [sideOf, Notice.side, Bool.or_eq_true, decide_eq_true_eq]

lemma intercalate_location (n : Notice) :
    String.intercalate " " (location n.code n.address n.stamp) = n.shown := by
  have ha : Text.startsWith "0x".toList n.address.toList = true ↔
      "0x".toList <+: n.address.toList := by
    rw [Text.startsWith_iff]
    exact exists_congr fun _ => eq_comm
  simp only [location, Notice.shown, ha, List.all_eq_true]
  refine String.toList_inj.1 ?_
  rw [String.toList_intercalate]
  split_ifs <;> simp [List.intercalate]

lemma decodes_of_read {t : Trackers} (hne : t.reference ≠ t.test) (id : Nat) {line : String}
    (hn : n.Formed) (hline : phrase.read line = some [n.word, n.track, n.counterWord, n.counterpart,
      n.code, n.address, n.stamp, n.diff]) :
    ∃ v, viewPoint t id line = .ok v ∧ Decodes t id n v := by
  obtain ⟨time, htime⟩ := Stamp.exists_read n.stamp hn.stamp
  have hname : t.name n.side ≠ t.name n.side.opposite := by
    cases n.side
    · exact hne
    · exact hne.symm
  have hlength := length_readFloat? hn.diff
  have hv : ∃ v, viewPoint t id line = .ok v := by
    unfold viewPoint
    rw [hline]
    simp only [htime]
    exact ⟨_, rfl⟩
  obtain ⟨v, hv⟩ := hv
  refine ⟨v, hv, ?_⟩
  have hbase := isShortTrack hv
  unfold viewPoint at hv
  rw [hline] at hv
  obtain ⟨time', htime', hv⟩ := bind_eq_ok_iff.1 hv
  obtain rfl := Except.ok.inj (htime.symm.trans htime')
  obtain rfl := Except.ok.inj hv
  constructor
  case numbered => exact hbase
  case text => simp only [sideOf_word, intercalate_location, String.append_assoc]
  case timing => exact ⟨time, _, htime, (Stamp.inRange_of_read htime).inSeconds, hlength, rfl⟩
  case window => exact Option.some_inj.trans hlength.eq_null_iff
  case first =>
    rw [sideOf_word]
    exact (Filters.trackNumber_setTrackNumber_of_ne _ _ hname).trans
      (Filters.trackNumber_setTrackNumber_self ..)
  case second =>
    rw [sideOf_word]
    exact Filters.trackNumber_setTrackNumber_self ..
  case both =>
    rw [sideOf_word]
    exact ((Filters.keyedBy_nil rfl).set _ _).set _ _
  case others => exact ⟨rfl, rfl, rfl⟩
  case dbObjects => rfl
  case contextVariables => rfl

/-- A line that reports a short track gives a view point that says what the line does, and a run
log that takes the line in has that view point. -/
theorem decodes_of_notice (t : Trackers) (hne : t.reference ≠ t.test) (id : Nat) (hn : n.Formed)
    (ht : ∀ c ∈ trailing.toList, Text.isBlank c = true) :
    ∃ v, viewPoint t id (n.line ++ trailing) = .ok v ∧ Decodes t id n v ∧
      ∀ first s s', first + s.shortTracks.size = id →
        RunLog.Scan.step t first s (n.line ++ trailing) = .ok s' →
        s'.shortTracks = s.shortTracks.push v := by
  obtain ⟨v, hv, hd⟩ := decodes_of_read hne id hn (read_line hn ht)
  refine ⟨v, hv, hd, fun first s s' hid hs => ?_⟩
  rcases (RunLog.Scan.taken_of_step hs).shortTracks with ⟨-, w, hw, hp⟩ | ⟨hm, -⟩
  · rw [hid, hv] at hw
    rw [hp, Except.ok.inj hw]
  · rw [mentions_line] at hm
    cases hm

/-- Both tracks are said to be of the test run, and the codes read like other parts of the line. -/
theorem decodes_of_notice_codes :
    Notice.Formed ⟨"tst", "5", "test", "9", "7 [S:0x1", "0x2 [A:7 (diff=3 seconds)", "11:22:33.444",
      ".5"⟩ ∧
    ∃ v, viewPoint {} 4 ("Deviation: Short tst track #5 (test track #9 [A:7 [S:0x1] " ++
        "[S:0x2 [A:7 (diff=3 seconds)]) starting near 11:22:33.444 UTC (diff=.5 seconds) \t") =
          .ok v ∧
      Decodes {} 4 ⟨"tst", "5", "test", "9", "7 [S:0x1", "0x2 [A:7 (diff=3 seconds)",
        "11:22:33.444", ".5"⟩ v := by
  have hn : Notice.Formed ⟨"tst", "5", "test", "9", "7 [S:0x1", "0x2 [A:7 (diff=3 seconds)",
      "11:22:33.444", ".5"⟩ :=
    ⟨by decide, by decide, by decide, by decide, by decide, by decide,
      Stamp.isSome_ofChars?_iff.1 (by decide), by decide⟩
  have ht : ∀ c ∈ " \t".toList, Text.isBlank c = true := List.all_eq_true.1 (by decide)
  obtain ⟨v, hv, hd, -⟩ := decodes_of_notice {} (by decide) 4 hn ht
  exact ⟨hn, v, hv, hd⟩

end ViewPoints.ShortTrack
