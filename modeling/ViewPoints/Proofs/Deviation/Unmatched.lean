import ViewPoints.Proofs.Deviation.Candidates
import ViewPoints.Proofs.Deviation.Shape
import ViewPoints.Proofs.Stamp.Search

/-!
What is read from a block about a track that only one run has, when it is written as such blocks
are: the track with its times, how many candidates there are, and a line for each of them with the
codes that are known of it. The numbers of the candidates are all kept, but of the codes only the
first of each kind.
-/

namespace ViewPoints.Unmatched

open Pattern

/-! ### Reports -/

/-- What a block says. -/
structure Report where
  number : String
  track : String
  part : String
  first : String
  last : String
  count : String
  candidates : List Candidate

/-- Type and qualifier of a header. -/
def heading : Side → String × String
  | .test => ("Extra", "test")
  | .reference => ("Missing", "reference")

namespace Report

def lines (owner : Side) (r : Report) : List String :=
  [.join ["  ", caption owner, r.track, ".", r.part],
    .join ["    Time of first update: ", r.first, " UTC"],
    .join ["    Time of last update: ", r.last, " UTC"],
    .join ["  searching ... ", r.count, " candidates found"]] ++ r.candidates.map Candidate.line

def block (owner : Side) (id : Nat) (r : Report) : Block :=
  .under id r.number (heading owner).1 (heading owner).2 (r.lines owner)

structure Formed (r : Report) : Prop where
  number : Text.OfClass Text.isDigit r.number.toList
  track : Text.OfClass Text.isDigit r.track.toList
  part : Text.OfClass Text.isDigit r.part.toList
  first : Stamp.Fits Text.isDigit r.first.toList
  last : Stamp.Fits Text.isDigit r.last.toList
  count : Text.OfClass Text.isSolid r.count.toList
  unhashed : '#' ∉ r.count.toList
  candidates : ∀ c ∈ r.candidates, c.Formed

end Report

/-! ### The text of a block -/

/-- What stands between the number of a block and the caption of its track. -/
def rubric : Side → String
  | .test => ": Extra test\n  "
  | .reference => ": Missing reference\n  "

/-- What stands before the count of the candidates. -/
def Report.lead (owner : Side) (r : Report) : List String :=
  ["DEV #", r.number, rubric owner, caption owner, r.track, ".", r.part,
    "\n    Time of first update: ", r.first, " UTC\n    Time of last update: ", r.last, " UTC\n  "]

variable {owner : Side} {id : Nat} {r : Report}

lemma toList_text (owner : Side) (id : Nat) (r : Report) :
    (r.block owner id).text.toList = (r.lead owner).flatMap String.toList ++
      ("searching ... ".toList ++ (r.count.toList ++ (" candidates found\n".toList ++
        r.candidates.flatMap Candidate.chars))) := by
  rw [Report.block, Block.toList_text_under, Report.lines]
  simp only [List.cons_append, List.nil_append, Block.toList_unlines_cons, toList_candidates,
    String.toList_join, List.flatMap_cons, List.flatMap_nil, Report.lead, List.append_assoc]
  cases owner <;> rfl

/-! ### The track and its times -/

lemma reads_time {w : String} {u : List Char}
    (hu : Text.OfClass (fun c => c != ':' && c != '\n') u)
    (hw : Stamp.Fits Text.isDigit w.toList) (t : List Char) :
    Reads time ("Time of ".toList ++ (u ++ (": ".toList ++ (w.toList ++ (" UTC".toList ++ t))))) [w]
      t := by
  have hcolon : ∀ c ∈ (": ".toList ++ (w.toList ++ (" UTC".toList ++ t))).head?,
      (c != ':' && c != '\n') = false := by
    rintro c ⟨⟩
    rfl
  exact reads_lit "Time of " _ |>.append (prefers_many hu hcolon).reads |>.lit ": "
    |>.upTo hw.ofClass |>.lit " UTC"

lemma read_phrase (hr : r.Formed) {text : String} (ht : text = (r.block owner id).text) :
    (phrase owner).read text = some [r.track, r.part, r.first, r.last] := by
  have hlead : avoids (phrase owner).opening
      ("DEV #".toList ++ (r.number.toList ++ (rubric owner).toList)) = true := by
    cases owner <;>
      exact avoids_append (by decide) (avoids_append (avoids_of_class (by decide) hr.number.2)
        (by decide))
  have hgap : Text.OfClass Text.isBlank "\n    ".toList := by decide
  have hfirst : Text.OfClass (fun c => c != ':' && c != '\n') "first update".toList :=
    (by decide)
  have hlast : Text.OfClass (fun c => c != ':' && c != '\n') "last update".toList :=
    (by decide)
  have h := reads_lit (caption owner) _ |>.upTo hr.track |>.lit "." |>.upTo (v := "\n    ") hr.part
    |>.blanks (x := 'T') hgap rfl |>.append (reads_time hfirst hr.first _)
    |>.blanks (x := 'T') hgap rfl |>.append (reads_time hlast hr.last ("\n  ".toList ++
      ("searching ... ".toList ++ (r.count.toList ++ (" candidates found\n".toList ++
        r.candidates.flatMap Candidate.chars)))))
  refine h.read_eq (skips_of_avoids hlead _) ?_
  rw [ht, toList_text, Report.lead]
  simp only [List.flatMap_cons, List.flatMap_nil, List.append_assoc]
  rfl

/-! ### The count of the candidates -/

/-- The parts of what stands before the count that are the same in all reports. -/
def leadWords (owner : Side) : List String :=
  ["DEV #", rubric owner, caption owner, ".", "\n    Time of first update: ",
    " UTC\n    Time of last update: ", " UTC\n  "]

lemma avoids_lead (hr : r.Formed) {w : String}
    (hl : ∀ v ∈ leadWords owner, avoids (lit w).opening v.toList = true)
    (hw : w.toList.head?.any (fun x => !Stamp.isPart x) = true := by decide) :
    avoids (lit w).opening ((r.lead owner).flatMap String.toList) = true := by
  have hdigits {u : String} (hu : Text.OfClass Text.isDigit u.toList) :
      avoids (lit w).opening u.toList = true :=
    avoids_word hw fun x hx => Stamp.isPart_of_isDigit (hu.2 x hx)
  have hstamp {u : String} (hu : Stamp.Fits Text.isDigit u.toList) :
      avoids (lit w).opening u.toList = true :=
    avoids_word hw fun x hx => hu.isPart hx
  simp only [leadWords, List.forall_mem_cons] at hl
  obtain ⟨hdev, hrubric, hcaption, hdot, hfirst, hlast, hend, -⟩ := hl
  refine avoids_flatMap ?_
  simp only [Report.lead, List.forall_mem_cons]
  exact ⟨hdev, hdigits hr.number, hrubric, hcaption, hdigits hr.track, hdot, hdigits hr.part,
    hfirst, hstamp hr.first, hlast, hstamp hr.last, hend, by simp⟩

lemma reads_candidateCount {count : String} (hc : Text.OfClass Text.isSolid count.toList)
    (t : List Char) :
    Reads candidateCount ("searching ...".toList ++ ([' '] ++ (count.toList ++
      ([' '] ++ ("candidates found\n".toList ++ t))))) [count] ('\n' :: t) := by
  have hspace {x : Char} {r : List Char} (hr : r.head? = some x) (hx : Text.isBlank x = false) :
      Reads blanks ([' '] ++ r) [] r :=
    (prefers_blanks (by decide) hr hx).reads
  have hblank : ∀ x ∈ ([' '] ++ ("candidates found\n".toList ++ t)).head?,
      Text.isSolid x = false := by
    rintro x ⟨⟩
    decide
  have hplural : Reads (optional (lit "s")) ("s found\n".toList ++ t) []
      (" found\n".toList ++ t) :=
    (Prefers.left (prefers_lit "s" _)).reads
  -- the sparing run ends in front of the first character that is not blank
  have hskip : Skips (group solids ++ (blanks ++ (lit "candidate" ++ (optional (lit "s") ++
      (blanks ++ lit "found"))))) [' ']
      (count.toList ++ ([' '] ++ ("candidates found\n".toList ++ t))) :=
    skips_of_avoids (by decide) _
  have hfound := (hspace rfl (by decide)).append (reads_lit "found" ('\n' :: t))
  have hcandidates := (reads_lit "candidate" _).append (hplural.append hfound)
  have hcount := (prefers_many hc hblank).reads_group.append
    ((hspace rfl (by decide)).append hcandidates)
  have h := (reads_lit "searching ..." _).append (hcount.spare (p := fun _ => true)
    (fun _ _ => rfl) hskip)
  exact h.assoc.assoc.assoc.assoc.assoc.assoc

lemma detail_candidateCount (hr : r.Formed) {text : String} (ht : text = (r.block owner id).text) :
    detail candidateCount text = some r.count := by
  have hlead : avoids candidateCount.opening ((r.lead owner).flatMap String.toList) = true := by
    cases owner <;> exact avoids_lead (w := "searching ...") hr (by decide)
  have hread : candidateCount.read text = some [r.count] := by
    refine (reads_candidateCount hr.count (r.candidates.flatMap Candidate.chars)).read_eq
      (skips_of_avoids hlead _) ?_
    rw [ht, toList_text]
    rfl
  rw [detail, hread]
  rfl

/-! ### Codes -/

variable {p : Char → Bool} {w : String}

/-- The first candidate that tells a code gives it. The count is passed over because it is followed
by a word that does not belong to the caption of the code. -/
lemma detail_code (hr : r.Formed) {text : String} (ht : text = (r.block owner id).text)
    {m n : List Char} {x : Char} (hw : w.toList = m ++ (' ' :: x :: n))
    (hl : ∀ v ∈ leadWords owner ++ ["searching ... ", " candidates found\n"],
      avoids (lit w).opening v.toList = true) {f : Candidate → Option String}
    (hf : ∀ c ∈ r.candidates, ∀ t, Offers (lit w ++ group (many p)) c.chars t (f c))
    (hm : m.all Text.isSolid = true := by decide) (hx : x ≠ 'c' := by decide)
    (hpart : w.toList.head?.any (fun x => !Stamp.isPart x) = true := by decide) :
    detail (lit w ++ group (many p)) text = r.candidates.findSome? f := by
  rw [List.forall_mem_append] at hl
  have hsearch : avoids (lit w).opening "searching ... ".toList = true := hl.2 _ (by simp)
  have hfound : avoids (lit w).opening " candidates found\n".toList = true := hl.2 _ (by simp)
  have hskip : Skips (lit w) ((r.lead owner).flatMap String.toList ++ ("searching ... ".toList ++
      (r.count.toList ++ " candidates found\n".toList))) (r.candidates.flatMap Candidate.chars) :=
    (skips_of_avoids (avoids_lead hr hl.1 hpart) _).append ((skips_of_avoids hsearch _).append
      ((skips_word hw (List.all_eq_true.1 hm) hr.count.2 hx _).append (skips_of_avoids hfound _)))
  have hfront := offers_none (hskip.seq (group (many p)))
  have hlines : Offers (lit w ++ group (many p)) (r.candidates.flatMap Candidate.chars) []
      (r.candidates.findSome? f) :=
    offers_flatMap hf
  have hopen : (lit w ++ group (many p)).opening ≠ [] := by
    change (w.toList.map fun c d => c == d) ++ _ ≠ []
    simp [hw]
  have hnil : firstGroup (lit w ++ group (many p)) [] = none := by
    rw [firstGroup, leftmost, atFront_nil hopen]
    rfl
  rw [Offers, Option.none_or] at hfront
  rw [Offers, List.append_nil, hnil, Option.or_none] at hlines
  rw [← hlines, ← hfront, detail, Pattern.read, ht, toList_text, firstGroup]
  simp only [List.append_assoc]

/-! ### The numbers of tracks -/

/-- The number of a block is not the number of a track. -/
lemma skips_number {n : String} (hn : Text.OfClass Text.isDigit n.toList) (t : List Char) :
    Skips mention ['#'] (n.toList ++ (':' :: t)) := by
  refine skips_singleton fun g r hm => ?_
  obtain ⟨m, hm, htail, -⟩ := matches_mention_iff.1 hm
  -- both texts are cut behind their digits
  obtain ⟨-, hrest⟩ := Text.cut_inj hn.2 hm.2 (by rintro _ ⟨⟩; decide) (by rintro _ ⟨⟩; decide)
    (List.cons.inj htail).2
  simp at hrest

lemma readAll_mention (hr : r.Formed) {text : String} (ht : text = (r.block owner id).text) :
    mention.readAll text = r.track :: r.candidates.map Candidate.track := by
  obtain ⟨x, hx, hcaption⟩ : ∃ x, '#' ∉ x ∧
      ∀ s, (rubric owner).toList ++ ((caption owner).toList ++ s) = ':' :: (x ++ ('#' :: s)) := by
    cases owner
    · exact ⟨" Missing reference\n  Missing reference track ".toList, by decide, fun _ => rfl⟩
    · exact ⟨" Extra test\n  Extra test track ".toList, by decide, fun _ => rfl⟩
  have hfront : '#' ∉ r.number.toList ++ (':' :: x) := by
    simp only [List.mem_append, List.mem_cons, not_or]
    exact ⟨hr.number.not_mem (by decide), by decide, hx⟩
  have hback : '#' ∉ r.part.toList ++ ("\n    Time of first update: ".toList ++ (r.first.toList ++
      (" UTC\n    Time of last update: ".toList ++ (r.last.toList ++ (" UTC\n  ".toList ++
        ("searching ... ".toList ++ (r.count.toList ++ " candidates found\n".toList))))))) := by
    have hstamp {w : String} (hw : Stamp.Fits Text.isDigit w.toList) : '#' ∉ w.toList :=
      fun h => absurd (hw.isPart h) (by decide)
    simp only [List.mem_append, not_or]
    exact ⟨hr.part.not_mem (by decide), by decide, hstamp hr.first, by decide, hstamp hr.last,
      by decide, by decide, hr.unhashed, by decide⟩
  have htext : text.toList = "DEV ".toList ++ (['#'] ++ ((r.number.toList ++ (':' :: x)) ++
      ('#' :: (r.track.toList ++ ('.' :: ((r.part.toList ++
        ("\n    Time of first update: ".toList ++ (r.first.toList ++
          (" UTC\n    Time of last update: ".toList ++ (r.last.toList ++ (" UTC\n  ".toList ++
            ("searching ... ".toList ++ (r.count.toList ++ " candidates found\n".toList)))))))) ++
              r.candidates.flatMap Candidate.chars)))))) := by
    rw [ht, toList_text, Report.lead]
    simp only [List.flatMap_cons, List.flatMap_nil, List.append_assoc, hcaption, List.cons_append]
    rfl
  have hnumbers : mention.readAll text = numbersIn text.toList := rfl
  rw [hnumbers, htext, numbersIn_skip (skips_unhashed (by decide) _), numbersIn_skip,
    numbersIn_skip (skips_unhashed hfront _), numbersIn_track hr.track hback,
    numbersIn_candidates hr.candidates]
  rw [List.append_assoc, List.cons_append]
  exact skips_number hr.number _

/-! ### What a block turns into -/

lemma candidates_eq (hr : r.Formed) {text : String} (ht : text = (r.block owner id).text) :
    ∃ numbers, Sorted numbers r.candidates ∧ candidates text = String.intercalate "," numbers := by
  refine ⟨_, ⟨List.pairwise_map.2 (SortedMap.sorted _), fun n => ?_⟩, rfl⟩
  have hmem : n ∈ (SortedMap.ofList (((mention.readAll text).drop 1).map fun n => (n, ()))).keys ↔
      n ∈ (((mention.readAll text).drop 1).map fun n => (n, ())).map Prod.fst :=
    SortedMap.mem_keys_ofList
  rw [SortedMap.keys] at hmem
  rw [hmem, readAll_mention hr ht]
  simp

namespace Report

/-- No candidate leaves no doubt that the track is unmatched. -/
def level (r : Report) : Dubiousness :=
  if r.count = "no" then .clear else if r.count = "1" then .single else .multiple

/-- What is said of the candidates: the first code of each kind. -/
def context (r : Report) : String :=
  String.intercalate "; " ([r.count ++ " candidates"] ++
    ((r.candidates.findSome? Candidate.mode3A).map ("mode 3/A:" ++ ·)).toList ++
    ((r.candidates.findSome? Candidate.address).map ("aircraft address:0x" ++ ·)).toList ++
    ((r.candidates.findSome? Candidate.modeC).map ("mode C:" ++ ·)).toList)

end Report

/-- What a block about a track that only its owner has turns into. -/
structure Decodes (t : Trackers) (owner : Side) (id : Nat) (r : Report) (v : ViewPoint) : Prop where
  id : v.id = id
  kind : v.kind = .unmatched owner r.level
  name : v.name = "DEV #" ++ r.number
  text : v.text = some (t.name owner ++ " " ++ r.track ++ ":(" ++ r.track ++ "." ++ r.part ++ ")" ++
    "\n" ++ r.context)
  timing : v.timing = none
  timeOfDay : v.filters.timeOfDay = some ⟨some r.first, some r.last⟩
  own : v.filters.trackNumber (t.name owner) = some r.track
  alone : r.count = "no" → v.filters.KeyedBy [t.name owner]
  opposite : r.count ≠ "no" → v.filters.KeyedBy [t.name owner, t.name owner.opposite] ∧
    ∃ numbers, Sorted numbers r.candidates ∧
      v.filters.trackNumber (t.name owner.opposite) = some (String.intercalate "," numbers)
  plain : r.count = "no" ∨ r.count = "1" → v.filters.mode3A = none ∧ v.filters.targetAddress = none
  codes : r.count ≠ "no" → r.count ≠ "1" →
    v.filters.mode3A = r.candidates.findSome? Candidate.mode3A ∧
      v.filters.targetAddress = r.candidates.findSome? Candidate.address
  dbObjects : v.dbObjects = ["Tracker"]
  deviations : v.deviations = [r.number]
  contextVariables : v.contextVariables = none

lemma read_details (hr : r.Formed) {text : String} (ht : text = (r.block owner id).text) :
    Details.read text = ⟨some r.count, r.candidates.findSome? Candidate.mode3A,
      r.candidates.findSome? Candidate.address, r.candidates.findSome? Candidate.modeC⟩ := by
  have hmode3A : detail mode3APhrase text = r.candidates.findSome? Candidate.mode3A := by
    cases owner <;> exact detail_code (w := "SSR mode 3/A code; value=0") (m := "SSR".toList) hr ht
      rfl (by decide) fun c hc => offers_mode3A (hr.candidates c hc)
  have haddress : detail addressPhrase text = r.candidates.findSome? Candidate.address := by
    cases owner <;> exact detail_code (w := "aircraft address; value=0x") (m := "aircraft".toList)
      hr ht rfl (by decide) fun c hc => offers_address (hr.candidates c hc)
  have hmodeC : detail modeCPhrase text = r.candidates.findSome? Candidate.modeC := by
    cases owner <;> exact detail_code (w := "SSR mode C code; value=") (m := "SSR".toList) hr ht
      rfl (by decide) fun c hc => offers_modeC (hr.candidates c hc)
  rw [Details.read, detail_candidateCount hr ht, hmode3A, haddress, hmodeC]

lemma level_eq_clear_iff : r.level = .clear ↔ r.count = "no" := by
  unfold Report.level
  split_ifs <;> simp_all

lemma level_eq_multiple_iff : r.level = .multiple ↔ r.count ≠ "no" ∧ r.count ≠ "1" := by
  unfold Report.level
  split_ifs <;> simp_all

lemma decodes_of_filled {t : Trackers} (hne : t.reference ≠ t.test) (hr : r.Formed) {text : String}
    (ht : text = (r.block owner id).text) {h : Header} (hid : h.id = id)
    (hnumber : h.number = r.number) :
    Decodes t owner id r (filled t owner h text r.track r.part r.first r.last) := by
  have hd := read_details hr ht
  have hlevel : (Details.read text).level = r.level := by rw [hd]; rfl
  have hshape := shaped_filled t owner h text r.track r.part r.first r.last
  rw [hlevel] at hshape
  have hfilters : (filled t owner h text r.track r.part r.first r.last).filters =
      codeFilters (Details.read text) (trackFilters t owner text r.track r.level
        { timeOfDay := some ⟨some r.first, some r.last⟩ }) := by
    rw [filled, hlevel]
  have hnumbers (name : String) :
      (filled t owner h text r.track r.part r.first r.last).filters.trackNumber name =
        (trackFilters t owner text r.track r.level
          { timeOfDay := some ⟨some r.first, some r.last⟩ }).trackNumber name := by
    rw [hfilters, Filters.trackNumber, trackNumbers_codeFilters, Filters.trackNumber]
  have htext : (filled t owner h text r.track r.part r.first r.last).text ≠ none := by
    simp [filled]
  constructor
  case id => exact hid
  case kind => exact congrArg (ViewPointKind.unmatched owner) hlevel
  case name => rw [← hnumber]; rfl
  case text =>
    simp only [filled, hd, Trackers.trackText, String.append_assoc]
    rfl
  case timing => rfl
  case timeOfDay => rw [hfilters, timeOfDay_codeFilters, timeOfDay_trackFilters]
  case own =>
    rw [hnumbers, trackFilters]
    split
    · exact Filters.trackNumber_setTrackNumber_self ..
    · have hother : t.name owner ≠ t.name owner.opposite := by
        cases owner
        · exact hne
        · exact hne.symm
      exact (Filters.trackNumber_setTrackNumber_of_ne _ _ hother).trans
        (Filters.trackNumber_setTrackNumber_self ..)
  case alone => exact fun hc => hshape.own htext (level_eq_clear_iff.2 hc)
  case opposite =>
    intro hc
    have hl : r.level ≠ .clear := mt level_eq_clear_iff.1 hc
    obtain ⟨numbers, hs, hn⟩ := candidates_eq hr ht
    refine ⟨hshape.both htext hl, numbers, hs, ?_⟩
    rw [hnumbers, trackFilters, if_neg hl, hn]
    exact Filters.trackNumber_setTrackNumber_self ..
  case plain =>
    intro hc
    have hl : (Details.read text).level ≠ .multiple := by
      rw [hlevel, Ne, level_eq_multiple_iff]
      tauto
    rw [hfilters, codeFilters, if_neg hl]
    exact ⟨mode3A_trackFilters, targetAddress_trackFilters⟩
  case codes =>
    intro hno hone
    have hl : (Details.read text).level = .multiple := by
      rw [hlevel, level_eq_multiple_iff]
      exact ⟨hno, hone⟩
    rw [hfilters, codeFilters, if_pos hl, hd]
    exact ⟨rfl, rfl⟩
  case dbObjects => rfl
  case deviations => rw [← hnumber]; rfl
  case contextVariables => rfl

/-- A block about a track that only its owner has, with any candidates for it in the other run,
turns into one view point. -/
theorem outcome_of_unmatched (t : Trackers) (hne : t.reference ≠ t.test) (owner : Side) (id : Nat)
    {r : Report} (hr : r.Formed) :
    ∃ v, (r.block owner id).outcome t = .ok (.viewPoint v) ∧ Decodes t owner id r v := by
  have hheader : (r.block owner id).header =
      some ⟨id, r.number, (heading owner).1, (heading owner).2⟩ := by
    cases owner <;>
      exact Header.read?_headerLine id hr.number (by decide) (by decide)
  have hkind : DeviationKind.ofBlock? ⟨id, r.number, (heading owner).1, (heading owner).2⟩
      (r.block owner id) = some (.unmatched owner) := by
    cases owner <;> exact DeviationKind.ofBlock?_eq rfl
  refine ⟨_, ?_, decodes_of_filled (h := ⟨id, r.number, (heading owner).1, (heading owner).2⟩)
    hne hr rfl rfl rfl⟩
  rw [Block.outcome, hheader]
  simp only [hkind]
  rw [viewPoint, read_phrase hr rfl]

/-- Of three candidates two are parts of one track, and each tells something else. -/
def Report.several : Report where
  number := "6"
  track := "7"
  part := "2"
  first := "10:14:59.500"
  last := "10:15:00.000"
  count := "3"
  candidates := [
    { side := .reference, track := "31", part := "1", modeC := some "350" },
    { side := .reference, track := "4", part := "1", mode3A := some "7000" },
    { side := .reference, track := "31", part := "2", mode3A := some "1234",
      address := some "3c65a1" }]

lemma Report.formed_several : Report.several.Formed := by
  have hstamp {w : String} (hw : (Stamp.ofChars? w.toList).isSome = true) :
      Stamp.Fits Text.isDigit w.toList :=
    (Stamp.isSome_ofChars?_iff.1 hw).plain_isDigit
  refine ⟨(by decide), (by decide), (by decide),
    hstamp (by decide), hstamp (by decide), (by decide), by decide, ?_⟩
  simp only [several, List.forall_mem_cons]
  refine ⟨?_, ?_, ?_, by simp⟩
  all_goals
    constructor
    case track => decide
    case part => decide
    case mode3A => rintro w ⟨⟩ <;> decide
    case address => rintro w ⟨⟩ <;> decide
    case modeC => rintro w ⟨⟩ <;> decide

theorem outcome_of_unmatched_several :
    Report.several.Formed ∧ ∃ v, (Report.several.block .test 0).outcome {} = .ok (.viewPoint v) ∧
      Decodes {} .test 0 .several v ∧
      v.text = some ("TST 7:(7.2)\n" ++
        "3 candidates; mode 3/A:7000; aircraft address:0x3c65a1; mode C:350") := by
  obtain ⟨v, hv, hd⟩ := outcome_of_unmatched {} (by decide) .test 0 Report.formed_several
  exact ⟨Report.formed_several, v, hv, hd, hd.text.trans (by decide)⟩

end ViewPoints.Unmatched
