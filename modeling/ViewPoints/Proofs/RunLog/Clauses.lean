import ViewPoints.Proofs.RunLog.Failures
import ViewPoints.Proofs.RunLog.Phrases

/-!
A line of a run log that tells both the window and the duration of a run. Each of the two phrases
is looked for on the whole line, not behind its marker, so that what is read is the first window on
the line and the first stamp between blanks. The start of a window is such a stamp.
-/

namespace ViewPoints.RunLog

open Pattern

/-! ### The two clauses -/

/-- What tells the window of a run. -/
def windowClause (start stop : String) : String :=
  "Time of Updates: " ++ start ++ " UTC ... " ++ stop ++ " UTC"

/-- What tells the duration of a run. -/
def durationClause (length : String) : String := "Duration: " ++ length

/-- No stamp stands in the text. -/
def Stampless (u : String) : Prop :=
  ∀ x : String, Stamp.Fits Text.isDigit x.toList → Text.mentions u x = false

/-- A word into which no stamp goes on and in which none begins. -/
def cuts (m : List Char) : Bool :=
  m.head?.any (fun c => !Stamp.isPart c) && m.all fun c => !Text.isDigit c

lemma cuts_iff {m : List Char} : cuts m = true ↔ ∃ c m', m = c :: m' ∧
    Stamp.isPart c = false ∧ ∀ d ∈ m, Text.isDigit d = false := by
  cases m with
  | nil => simp [cuts]
  | cons c m => simp [cuts]

/-- Where no stamp stands in front of such a word, the first stamp stands behind it. -/
lemma Stampless.length_le {u : String} (hu : Stampless u) {m rest p z q : List Char}
    (hz : Stamp.Fits Text.isDigit z) (he : u.toList ++ (m ++ rest) = p ++ (z ++ q))
    (hm : cuts m = true := by decide) : u.toList.length + m.length ≤ p.length := by
  obtain ⟨c, m', rfl, hc, hdigits⟩ := cuts_iff.1 hm
  have absent (p q : List Char) (h : u.toList = p ++ (z ++ q)) : False := by
    have hn := hu (.ofList z) (by simpa using hz)
    rw [Text.mentions_iff.2 ⟨p, q, by simpa using h⟩] at hn
    simp at hn
  rcases List.append_eq_append_iff.1 he with ⟨p', rfl, hp⟩ | ⟨u', hu', hp⟩
  · -- the stamp begins behind `u`
    rw [List.length_append, Nat.add_le_add_iff_left]
    rcases List.append_eq_append_iff.1 hp with ⟨p'', rfl, -⟩ | ⟨m'', hm'', hz'⟩
    · simp
    · -- its first digit would stand in the word
      cases m'' with
      | nil => simp [hm'']
      | cons d m'' =>
        obtain ⟨e, he, hd⟩ := hz.exists_head
        have hed : d = e := by
          have := congrArg List.head? hz'
          rw [List.head?_append, he] at this
          simpa using this.symm
        have hdm : d ∈ c :: m' := by rw [hm'']; simp
        rw [← hed, hdigits d hdm] at hd
        simp at hd
  · -- the stamp begins in `u` and would have to end there
    rcases List.append_eq_append_iff.1 hp with ⟨u'', rfl, hq⟩ | ⟨z', hz', hq⟩
    · exact (absent p u'' hu').elim
    · cases z' with
      | nil => exact (absent p [] (by simpa [hz'] using hu')).elim
      | cons d z' =>
        obtain rfl : c = d := (List.cons.inj hq).1
        rw [hz.isPart (by rw [hz']; simp)] at hc
        simp at hc

/-! ### What is read first -/

variable {t : Trackers} {first : Nat} {s : Scan} {side : Side} {line a b d : String}
  {p q r : Stamp}

lemma windowAt_of_fits {r : List Char} (ha : Stamp.Fits Text.isDigit a.toList)
    (hb : Stamp.Fits Text.isDigit b.toList) :
    WindowAt (a.toList ++ (" UTC ... ".toList ++ (b.toList ++ (" UTC".toList ++ r)))) (a, b) := by
  have hblank : Text.isBlank ' ' = true := by decide
  have hspace : Text.OfClass Text.isBlank [' '] := ⟨List.cons_ne_nil _ _, by simpa using hblank⟩
  exact ⟨[' '], [' '], [' '], [' '], r, rfl, ha, hb, by simpa using hspace⟩

lemma windowClause_eq (a b : String) (u v : List Char) :
    u ++ (windowClause a b).toList ++ v = u ++ "Time of Updates: ".toList ++
      (a.toList ++ (" UTC ... ".toList ++ (b.toList ++ (" UTC".toList ++ v)))) := by
  unfold windowClause
  rw [String.toList_append, String.toList_append, String.toList_append, String.toList_append]
  simp only [List.append_assoc]

/-- Behind a front without stamps the clause of the window is what is read of the window. -/
lemma first_window {u v : String} (hu : Stampless u) (hl : line = u ++ windowClause a b ++ v)
    (ha : Stamp.Fits Text.isDigit a.toList) (hb : Stamp.Fits Text.isDigit b.toList) :
    First WindowAt line.toList (a, b) := by
  refine ⟨u.toList ++ "Time of Updates: ".toList, a.toList ++ (" UTC ... ".toList ++
    (b.toList ++ (" UTC".toList ++ v.toList))), ?_, windowAt_of_fits ha hb, ?_⟩
  · rw [hl, String.toList_append, String.toList_append, windowClause_eq]
  · rintro x w he hw y ⟨b₁, b₂, b₃, b₄, z, hz, hy, -, -⟩
    have hx : u.toList ++ ("Time of Updates: ".toList ++ (a.toList ++ (" UTC ... ".toList ++
        (b.toList ++ (" UTC".toList ++ v.toList))))) = x ++ (w ++ (a.toList ++
          (" UTC ... ".toList ++ (b.toList ++ (" UTC".toList ++ v.toList))))) := by
      rw [← List.append_assoc, he, List.append_assoc]
    rw [hz] at hx
    have hle := hu.length_le hy hx
    rw [← List.length_append, he, List.length_append] at hle
    exact hw (List.eq_nil_of_length_eq_zero (by omega))

/-- There the start of the window is what is read of the duration. -/
lemma first_start {u v : String} (hu : Stampless u) (hl : line = u ++ windowClause a b ++ v)
    (ha : Stamp.Fits Text.isDigit a.toList) : First FreeAt line.toList a := by
  refine ⟨u.toList ++ "Time of Updates:".toList, ' ' :: (a.toList ++ (" UTC ... ".toList ++
    (b.toList ++ (" UTC".toList ++ v.toList)))), ?_, ?_, ?_⟩
  · rw [hl, String.toList_append, String.toList_append, windowClause_eq, List.append_assoc,
      List.append_assoc]
    rfl
  · refine ⟨' ', _, rfl, by decide, ha, fun c hc => ?_⟩
    obtain rfl : ' ' = c := Option.some.inj hc
    decide
  · rintro x w he hw y ⟨c, z, hz, -, hy, -⟩
    have hz' : u.toList ++ ("Time of Updates: ".toList ++ (a.toList ++ (" UTC ... ".toList ++
        (b.toList ++ (" UTC".toList ++ v.toList))))) = x ++ [c] ++ (y.toList ++ z) := by
      have h := congrArg (x ++ ·) hz
      rw [← List.append_assoc, ← he] at h
      simpa using h
    have hle := hu.length_le hy hz'
    have hlen := congrArg List.length he
    have hword : "Time of Updates: ".toList.length = "Time of Updates:".toList.length + 1 := rfl
    rw [List.length_append, List.length_append] at hlen
    rw [List.length_append, List.length_singleton] at hle
    exact hw (List.eq_nil_of_length_eq_zero (by omega))

lemma first_duration {u v : String} (hu : Stampless u) (hl : line = u ++ durationClause d ++ v)
    (hd : Stamp.Fits Text.isDigit d.toList) (hv : ∀ c ∈ v.toList.head?, Text.isBlank c = true) :
    First FreeAt line.toList d := by
  refine ⟨u.toList ++ "Duration:".toList, ' ' :: (d.toList ++ v.toList), ?_, ?_, ?_⟩
  · simp [hl, durationClause]
  · exact ⟨' ', _, rfl, by decide, hd, hv⟩
  · rintro x w he hw y ⟨c, z, hz, -, hy, -⟩
    have hz' : u.toList ++ ("Duration: ".toList ++ (d.toList ++ v.toList)) =
        x ++ [c] ++ (y.toList ++ z) := by
      have h := congrArg (x ++ ·) hz
      rw [← List.append_assoc, ← he] at h
      simpa using h
    have hle := hu.length_le hy hz'
    have hlen := congrArg List.length he
    have hword : "Duration: ".toList.length = "Duration:".toList.length + 1 := rfl
    rw [List.length_append, List.length_append] at hlen
    rw [List.length_append, List.length_singleton] at hle
    exact hw (List.eq_nil_of_length_eq_zero (by omega))

/-- No window begins in front of a clause of another one, as between its stamps there would stand
what it has no room for. -/
lemma not_windowAt_before {v : String} {z rest : List Char} (hv : Stampless v)
    (hz : Stamp.Fits Text.isDigit z) {y : String × String}
    (hy : WindowAt (z ++ (v.toList ++ ("Time of Updates: ".toList ++ rest))) y) : False := by
  obtain ⟨b₁, b₂, b₃, b₄, q, hs, hy₁, hy₂, hb⟩ := hy
  obtain ⟨-, hq⟩ := List.append_inj hs (hz.length_eq.trans hy₁.length_eq.symm)
  obtain ⟨m, hm⟩ : ∃ m, m = b₁ ++ ("UTC".toList ++ (b₂ ++ ("...".toList ++ b₃))) := ⟨_, rfl⟩
  have hq' : v.toList ++ ("Time of Updates: ".toList ++ rest) =
      m ++ (y.2.toList ++ (b₄ ++ ("UTC".toList ++ q))) := by
    rw [hq, hm]
    simp only [List.append_assoc]
  have hle := hv.length_le (m := "Time of Updates: ".toList) hy₂ hq'
  rw [← List.length_append] at hle
  have hprefix : v.toList ++ "Time of Updates: ".toList <+: m :=
    List.prefix_of_prefix_length_le ⟨rest, (List.append_assoc ..).trans hq'⟩ (List.prefix_append ..)
      hle
  have hi : 'i' ∈ m := hprefix.subset (List.mem_append_right _ (by decide))
  simp only [List.forall_mem_cons] at hb
  obtain ⟨hb₁, hb₂, hb₃, -⟩ := hb
  have hblank {b : List Char} (hb : Text.OfClass Text.isBlank b) : 'i' ∉ b := fun hi =>
    absurd (hb.2 _ hi) (by decide)
  have hword : 'i' ∉ "UTC".toList ∧ 'i' ∉ "...".toList := by decide
  simp only [hm, List.mem_append, hblank hb₁, hblank hb₂, hblank hb₃, hword.1, hword.2,
    or_self] at hi

lemma first_window_behind {u v w : String} {c : Char} (hu : Stampless u) (hv : Stampless v)
    (hl : line = u ++ durationClause d ++ v ++ windowClause a b ++ w)
    (hc : v.toList.head? = some c) (hblank : Text.isBlank c = true)
    (ha : Stamp.Fits Text.isDigit a.toList) (hb : Stamp.Fits Text.isDigit b.toList)
    (hd : Stamp.Fits Text.isDigit d.toList) : First WindowAt line.toList (a, b) := by
  obtain ⟨rest, hrest⟩ : ∃ rest, rest = a.toList ++ (" UTC ... ".toList ++
    (b.toList ++ (" UTC".toList ++ w.toList))) := ⟨_, rfl⟩
  refine ⟨u.toList ++ ("Duration: ".toList ++ (d.toList ++ (v.toList ++
    "Time of Updates: ".toList))), rest, ?_, hrest ▸ windowAt_of_fits ha hb, ?_⟩
  · rw [hl, String.toList_append, String.toList_append, windowClause_eq, hrest, durationClause]
    rw [String.toList_append, String.toList_append, String.toList_append]
    simp only [List.append_assoc]
  · rintro x y he hne stamps hy
    have hat := hy
    obtain ⟨_, _, _, _, q, hs, hz, -, -⟩ := hy
    -- a stamp begins behind the marker of the duration
    have hx : u.toList ++ ("Duration: ".toList ++ (d.toList ++ (v.toList ++
        ("Time of Updates: ".toList ++ rest)))) = x ++ (y ++ rest) := by
      rw [← List.append_assoc x, ← he]
      simp only [List.append_assoc]
    rw [hs] at hx
    have hle := hu.length_le hz hx
    rw [← List.length_append] at hle
    obtain ⟨x', rfl⟩ : u.toList ++ "Duration: ".toList <+: x :=
      List.prefix_of_prefix_length_le ⟨_, List.append_assoc ..⟩ ⟨y, he.symm⟩ hle
    rw [← List.append_assoc, List.append_assoc (u.toList ++ _)] at he
    replace he := List.append_cancel_left he
    rcases List.append_eq_append_iff.1 he with ⟨x'', rfl, hy⟩ | ⟨d', hd', rfl⟩
    · -- it begins behind the duration, and so behind the marker of the window
      have hx'' : v.toList ++ ("Time of Updates: ".toList ++ rest) = x'' ++ (y ++ rest) := by
        rw [← List.append_assoc, hy, List.append_assoc]
      rw [hs] at hx''
      have hle' := hv.length_le hz hx''
      rw [← List.length_append, hy, List.length_append] at hle'
      exact hne (List.eq_nil_of_length_eq_zero (by omega))
    · cases x' with
      | nil =>
        obtain rfl : d.toList = d' := hd'
        simp only [List.append_assoc] at hat
        exact not_windowAt_before hv hd hat
      | cons e x' =>
        -- it begins in the duration, and so it goes on with the blank
        have hlen := congrArg List.length hd'
        rw [hd.length_eq, List.length_append, List.length_cons] at hlen
        have hlen' := hz.length_eq
        obtain ⟨v', hv'⟩ : ∃ v', v.toList = c :: v' := List.head?_eq_some_iff.1 hc
        have hpre : d' ++ [c] <+: stamps.1.toList := by
          refine List.prefix_of_prefix_length_le ⟨v' ++ "Time of Updates: ".toList ++ rest, ?_⟩
            ⟨_, hs.symm⟩ ?_
          · rw [hv']
            simp
          · rw [List.length_append, List.length_singleton]
            omega
        have hsolid :=
          hz.isSolid (hpre.subset (List.mem_append_right _ (List.mem_singleton_self c)))
        rw [Text.isSolid, hblank] at hsolid
        simp at hsolid

/-! ### Lines with one clause -/

lemma mentions_of_windowClause {u v : String} (hl : line = u ++ windowClause a b ++ v) :
    Text.mentions line "Time of Updates:" = true := by
  refine Text.mentions_iff.2 ⟨u.toList, ' ' :: (a.toList ++ (" UTC ... ".toList ++
    (b.toList ++ (" UTC".toList ++ v.toList)))), ?_⟩
  rw [hl, String.toList_append, String.toList_append, windowClause_eq, List.append_assoc]
  rfl

lemma mentions_of_durationClause {u v : String} (hl : line = u ++ durationClause d ++ v) :
    Text.mentions line "Duration:" = true := by
  refine Text.mentions_iff.2 ⟨u.toList, ' ' :: (d.toList ++ v.toList), ?_⟩
  rw [hl, durationClause, String.toList_append, String.toList_append, String.toList_append,
    List.append_assoc, List.append_assoc]
  rfl

/-- The words by which a line has any other effect. -/
def otherWords : List String :=
  Phase.titles.map Prod.fst ++ ["Server Identification:", "Deviation: Short"]

/-- A line on which there is no title, no identity and no short track. -/
def Plain (line : String) : Prop := ∀ w ∈ otherWords, Text.mentions line w = false

lemma opening_ne_nil {w : String} {p : Char → Bool} (hw : w.toList.head?.any p = true) :
    (lit w).opening ≠ [] := by
  rw [lit, opening, ne_eq, List.map_eq_nil_iff]
  rintro hnil
  simp [hnil] at hw

lemma mentions_windowClause (ha : Stamp.Fits Text.isDigit a.toList)
    (hb : Stamp.Fits Text.isDigit b.toList) {w : String}
    (hw : w.toList.head?.any (fun c => !Stamp.isPart c) = true)
    (hl : ∀ l ∈ ["Time of Updates: ", " UTC ... ", " UTC"],
      avoids (lit w).opening l.toList = true) : Text.mentions (windowClause a b) w = false := by
  simp only [List.forall_mem_cons] at hl
  obtain ⟨h₁, h₂, h₃, -⟩ := hl
  refine mentions_eq_false (opening_ne_nil hw) ?_
  have he := windowClause_eq a b [] []
  rw [List.nil_append, List.append_nil, List.nil_append, List.append_nil] at he
  rw [he]
  exact avoids_append h₁ (avoids_append (avoids_word hw fun _ hc => ha.isPart hc) (avoids_append h₂
    (avoids_append (avoids_word hw fun _ hc => hb.isPart hc) h₃)))

lemma mentions_durationClause (hd : Stamp.Fits Text.isDigit d.toList) {w : String}
    (hw : w.toList.head?.any (fun c => !Stamp.isPart c) = true)
    (hl : avoids (lit w).opening "Duration: ".toList = true) :
    Text.mentions (durationClause d) w = false := by
  refine mentions_eq_false (opening_ne_nil hw) ?_
  rw [durationClause, String.toList_append]
  exact avoids_append hl (avoids_word hw fun _ hc => hd.isPart hc)

lemma plain_windowClause (ha : Stamp.Fits Text.isDigit a.toList)
    (hb : Stamp.Fits Text.isDigit b.toList) : Plain (windowClause a b) := by
  have hwords : ∀ w ∈ otherWords, w.toList.head?.any (fun c => !Stamp.isPart c) = true ∧
      ∀ l ∈ ["Time of Updates: ", " UTC ... ", " UTC"],
        avoids (lit w).opening l.toList = true := by decide
  exact fun w hw => mentions_windowClause ha hb (hwords w hw).1 (hwords w hw).2

lemma plain_durationClause (hd : Stamp.Fits Text.isDigit d.toList) : Plain (durationClause d) := by
  have hwords : ∀ w ∈ otherWords, w.toList.head?.any (fun c => !Stamp.isPart c) = true ∧
      avoids (lit w).opening "Duration: ".toList = true := by decide
  exact fun w hw => mentions_durationClause hd (hwords w hw).1 (hwords w hw).2

lemma Plain.enter (h : Plain line) (s : Scan) : s.enter line = s := by
  have hn : Phase.ofLine? line = none := by
    unfold Phase.ofLine?
    rw [List.filter_eq_nil_iff.2]
    · rfl
    · intro e he
      rw [h e.1 (List.mem_append_left _ (List.mem_map_of_mem he))]
      exact Bool.false_ne_true
  rw [Scan.enter, hn]

/-! ### The step of a line with both clauses -/

/-- The window and the duration of a run are told. -/
def Scan.takeBoth (s : Scan) (side : Side) (w : Window) (d : Float) : Scan :=
  (s.setWindow side w).update side fun r => { r with duration := some d }

lemma Scan.recording_takeBoth (s : Scan) (side : Side) (w : Window) (d : Float) :
    (s.takeBoth side w d).recording side =
      { s.recording side with window := some w, duration := some d } := by
  cases side <;> rfl

lemma step_eq_of_silent (hi : Text.mentions line "Server Identification:" = false)
    (hs : Text.mentions line "Deviation: Short" = false) (t : Trackers) (first : Nat) (s : Scan) :
    s.step t first line =
      ((s.enter line).readWindow line).bind fun s => s.readDuration line := by
  unfold Scan.step Scan.readIdentity Scan.readShortTrack
  simp only [hi, hs, Bool.false_eq_true, if_false]
  cases (s.enter line).readWindow line with
  | error e => rfl
  | ok s => cases h : s.readDuration line <;> simp [h, bind, Except.bind]

lemma readWindow_of_first {w : String × String} (hs : s.phase = .loading side)
    (hm : Text.mentions line "Time of Updates:" = true) (hw : First WindowAt line.toList w) :
    s.readWindow line = (Stamp.read w.1).bind fun p => (Stamp.read w.2).map fun q =>
      s.setWindow side (.between p q) := by
  unfold Scan.readWindow
  rw [if_pos hm, hs, window_eq_some_iff.2 hw]
  rfl

lemma readDuration_of_first {x : String} (hs : s.phase = .loading side)
    (hm : Text.mentions line "Duration:" = true) (hx : First FreeAt line.toList x) :
    s.readDuration line = (Stamp.read x).map fun r =>
      s.update side fun c => { c with duration := some r.seconds } := by
  unfold Scan.readDuration
  rw [if_pos hm, hs, duration_eq_some_iff.2 hx]
  rfl

lemma fits_of_read {x : String} {p : Stamp} (h : Stamp.read x = .ok p) :
    Stamp.Fits Text.isDigit x.toList := by
  by_contra hn
  have he := Stamp.read_eq_error_iff.2 ⟨fun hx => hn hx.plain_isDigit, rfl⟩
  rw [h] at he
  simp at he

/-- Two stamps that tell the same time. -/
def SameTime (x y : String) : Prop :=
  ∃ p q, Stamp.read x = .ok p ∧ Stamp.read y = .ok q ∧ p.millis = q.millis

lemma sameTime_iff {x y : String} (hq : Stamp.read y = .ok q) :
    SameTime x y ↔ ∃ p, Stamp.read x = .ok p ∧ p.seconds = q.seconds := by
  constructor
  · rintro ⟨p, q', hp, hq', he⟩
    obtain rfl := Except.ok.inj (hq.symm.trans hq')
    exact ⟨p, hp, (Stamp.inRange_of_read hp).seconds_congr (Stamp.inRange_of_read hq) he⟩
  · rintro ⟨p, hp, he⟩
    exact ⟨p, q, hp, hq,
      (Stamp.inRange_of_read hp).millis_eq_of_seconds (Stamp.inRange_of_read hq) he⟩

/-- A line with the clause of the window and that of the duration, in any order, on which there is
no identity and no short track. -/
structure Combines (line a b d : String) : Prop where
  window : ∃ u v, line = u ++ windowClause a b ++ v
  duration : ∃ u v, line = u ++ durationClause d ++ v ∧
    ∀ c ∈ v.toList.head?, Text.isBlank c = true
  noIdentity : Text.mentions line "Server Identification:" = false
  noShortTrack : Text.mentions line "Deviation: Short" = false

/-- What the line is read as: the first window on it, and the first stamp between blanks. -/
lemma Combines.step_eq (h : Combines line a b d) (hs : s.phase.after line = .loading side)
    {w : String × String} {x : String} (hw : First WindowAt line.toList w)
    (hx : First FreeAt line.toList x) :
    s.step t first line = (Stamp.read w.1).bind fun p => (Stamp.read w.2).bind fun q =>
      (Stamp.read x).map fun r => (s.enter line).takeBoth side (.between p q) r.seconds := by
  obtain ⟨u, v, hl⟩ := h.window
  obtain ⟨u', v', hl', -⟩ := h.duration
  have hp : (s.enter line).phase = .loading side := by rw [Scan.enter_eq, hs]
  rw [step_eq_of_silent h.noIdentity h.noShortTrack,
    readWindow_of_first hp (mentions_of_windowClause hl) hw, bind_bind]
  refine bind_congr_ok fun p _ => ?_
  rw [map_bind]
  refine bind_congr_ok fun q _ => ?_
  have hp' : ((s.enter line).setWindow side (.between p q)).phase = .loading side := by
    rw [← hp]
    exact Scan.phase_update _ _ _
  rw [readDuration_of_first hp' (mentions_of_durationClause hl') hx]
  rfl

lemma Combines.exists_first (h : Combines line a b d) (ha : Stamp.Fits Text.isDigit a.toList)
    (hb : Stamp.Fits Text.isDigit b.toList) (hd : Stamp.Fits Text.isDigit d.toList) :
    (∃ w, First WindowAt line.toList w) ∧ ∃ x, First FreeAt line.toList x := by
  constructor
  · obtain ⟨u, v, hl⟩ := h.window
    refine finds_window.exists_first (u := u.toList ++ "Time of Updates: ".toList) ?_
      (windowAt_of_fits (r := v.toList) ha hb)
    rw [hl, String.toList_append, String.toList_append, windowClause_eq]
  · obtain ⟨u, v, hl, hv⟩ := h.duration
    refine finds_duration.exists_first (u := u.toList ++ "Duration:".toList)
      (t := ' ' :: (d.toList ++ v.toList)) ?_ ⟨' ', _, rfl, by decide, hd, hv⟩
    rw [hl, durationClause, String.toList_append, String.toList_append, String.toList_append]
    simp

lemma stampless_of_length {u : String} (hu : u.toList.length < 12 := by decide) : Stampless u := by
  intro x hx
  rw [← Bool.not_eq_true, Text.mentions_iff]
  rintro ⟨v, r, he⟩
  have hlen := congrArg List.length he
  rw [List.length_append, List.length_append, hx.length_eq] at hlen
  omega

/-- What both clauses tell when each stands on a line of its own. -/
lemma run_clauses (hs : s.phase = .loading side) (ha : Stamp.read a = .ok p)
    (hb : Stamp.read b = .ok q) (hd : Stamp.read d = .ok r) :
    s.run t first ([windowClause a b, durationClause d].map .ok) =
      .ok (s.takeBoth side (.between p q) r.seconds) := by
  have hfa := fits_of_read ha
  have hfb := fits_of_read hb
  have hfd := fits_of_read hd
  have hwindow : s.step t first (windowClause a b) = .ok (s.setWindow side (.between p q)) := by
    have hplain := plain_windowClause hfa hfb
    have hl : windowClause a b = "" ++ windowClause a b ++ "" := by simp
    have hm : Text.mentions (windowClause a b) "Duration:" = false :=
      mentions_windowClause hfa hfb (by decide) (by decide)
    rw [step_eq_of_silent (hplain _ (by decide)) (hplain _ (by decide)), hplain.enter,
      readWindow_of_first hs (mentions_of_windowClause hl)
        (first_window stampless_of_length hl hfa hfb), ha, hb]
    exact if_neg (by simp [hm])
  have hduration {s : Scan} (hs : s.phase = .loading side) :
      s.step t first (durationClause d) =
        .ok (s.update side fun c => { c with duration := some r.seconds }) := by
    have hplain := plain_durationClause hfd
    have hl : durationClause d = "" ++ durationClause d ++ "" := by simp
    have hm : Text.mentions (durationClause d) "Time of Updates:" = false :=
      mentions_durationClause hfd (by decide) (by decide)
    have hw : s.readWindow (durationClause d) = .ok s := if_neg (by simp [hm])
    rw [step_eq_of_silent (hplain _ (by decide)) (hplain _ (by decide)), hplain.enter, hw, ok_bind,
      readDuration_of_first hs (mentions_of_durationClause hl)
        (first_duration stampless_of_length hl hfd (by simp)), hd]
    rfl
  have hs' : (s.setWindow side (.between p q)).phase = .loading side := by
    rw [← hs]
    exact Scan.phase_update _ _ _
  change (s.step t first (windowClause a b)).bind (fun s =>
    (s.step t first (durationClause d)).bind .ok) = _
  rw [hwindow, ok_bind, hduration hs']
  rfl

/-- With the clauses of the window and of the duration on one line, the window and the duration of
the run are told as they are on two lines exactly if the first window on the line tells the times
of the one clause, and the first stamp between blanks that of the other. With the clause of the
window in front, this stamp is the start of the window; with the clause of the duration in front,
it is the duration. -/
theorem Scan.step_combined (t : Trackers) (first : Nat) (s : Scan)
    (hs : s.phase.after line = .loading side) (h : Combines line a b d) (ha : Stamp.read a = .ok p)
    (hb : Stamp.read b = .ok q) (hd : Stamp.read d = .ok r) :
    let told := (s.enter line).takeBoth side (.between p q) r.seconds
    told.recording side =
        { s.recording side with window := some (.between p q), duration := some r.seconds } ∧
    (s.enter line).run t first ([windowClause a b, durationClause d].map .ok) = .ok told ∧
    (s.step t first line = .ok told ↔
      (∃ w, First WindowAt line.toList w ∧ SameTime w.1 a ∧ SameTime w.2 b) ∧
        ∃ x, First FreeAt line.toList x ∧ SameTime x d) ∧
    (∀ u v, line = u ++ windowClause a b ++ v → Stampless u →
      s.step t first line = .ok ((s.enter line).takeBoth side (.between p q) p.seconds) ∧
        (s.step t first line = .ok told ↔ SameTime a d)) ∧
    ∀ u v w, line = u ++ durationClause d ++ v ++ windowClause a b ++ w → Stampless u →
      Stampless v → (∃ c, v.toList.head? = some c ∧ Text.isBlank c = true) →
        s.step t first line = .ok told := by
  intro told
  have hfa := fits_of_read ha
  have hfb := fits_of_read hb
  have hfd := fits_of_read hd
  have htold (p' q' r' : Stamp)
      (he : (s.enter line).takeBoth side (.between p' q') r'.seconds = told) :
      p'.seconds = p.seconds ∧ q'.seconds = q.seconds ∧ r'.seconds = r.seconds := by
    have hrec := congrArg (fun m => Scan.recording m side) he
    simp only [told, Scan.recording_takeBoth, Recording.mk.injEq, Option.some.injEq,
      Window.between, Window.mk.injEq] at hrec
    exact ⟨hrec.2.1.1, hrec.2.1.2, hrec.2.2⟩
  refine ⟨?recording, ?run, ?exact, ?windowFirst, ?durationFirst⟩
  case recording =>
    have hr : (s.enter line).recording side = s.recording side := by
      rw [Scan.enter_eq]
      cases side <;> rfl
    rw [Scan.recording_takeBoth, hr]
  case run =>
    exact run_clauses (by rw [Scan.enter_eq, hs]) ha hb hd
  case exact =>
    constructor
    · intro hstep
      obtain ⟨⟨w, hw⟩, x, hx⟩ := h.exists_first hfa hfb hfd
      rw [h.step_eq hs hw hx, bind_eq_ok_iff] at hstep
      obtain ⟨p', hp', hstep⟩ := hstep
      obtain ⟨q', hq', hstep⟩ := bind_eq_ok_iff.1 hstep
      obtain ⟨r', hr', hstep⟩ := map_eq_ok_iff.1 hstep
      obtain ⟨ep, eq, er⟩ := htold p' q' r' hstep
      exact ⟨⟨w, hw, (sameTime_iff ha).2 ⟨p', hp', ep⟩, (sameTime_iff hb).2 ⟨q', hq', eq⟩⟩,
        x, hx, (sameTime_iff hd).2 ⟨r', hr', er⟩⟩
    · rintro ⟨⟨w, hw, hwa, hwb⟩, x, hx, hxd⟩
      obtain ⟨p', hp', ep⟩ := (sameTime_iff ha).1 hwa
      obtain ⟨q', hq', eq⟩ := (sameTime_iff hb).1 hwb
      obtain ⟨r', hr', er⟩ := (sameTime_iff hd).1 hxd
      rw [h.step_eq hs hw hx, hp', hq', hr', ok_bind, ok_bind, ok_map, Window.between, ep, eq, er]
      rfl
  case windowFirst =>
    intro u v hl hu
    have hstep : s.step t first line =
        .ok ((s.enter line).takeBoth side (.between p q) p.seconds) := by
      rw [h.step_eq hs (first_window hu hl hfa hfb) (first_start hu hl hfa), ha, hb]
      rfl
    refine ⟨hstep, ?_⟩
    rw [hstep, Except.ok.injEq, sameTime_iff hd]
    constructor
    · exact fun he => ⟨p, ha, (htold p q p he).2.2⟩
    · rintro ⟨p', hp', he⟩
      obtain rfl := Except.ok.inj (ha.symm.trans hp')
      rw [he]
  case durationFirst =>
    rintro u v w hl hu hv ⟨c, hc, hblank⟩
    have hl' : line = u ++ durationClause d ++ (v ++ windowClause a b ++ w) := by
      rw [hl]
      simp only [String.append_assoc]
    have hd' : ∀ e ∈ (v ++ windowClause a b ++ w).toList.head?, Text.isBlank e = true := by
      rw [String.toList_append, String.toList_append, List.head?_append, List.head?_append, hc]
      rintro e ⟨⟩
      exact hblank
    rw [h.step_eq hs (first_window_behind hu hv hl hc hblank hfa hfb hfd)
      (first_duration hu hl' hfd hd'), ha, hb, hd]
    rfl

/-- The duration is told first. -/
theorem Scan.step_combined_durationFirst :
    Combines "Duration: 01:00:00.000 Time of Updates: 10:00:00.000 UTC ... 11:00:00.000 UTC"
      "10:00:00.000" "11:00:00.000" "01:00:00.000" ∧
    ({ phase := .loading .test } : Scan).step {} 0
        "Duration: 01:00:00.000 Time of Updates: 10:00:00.000 UTC ... 11:00:00.000 UTC" =
      .ok (Scan.takeBoth { phase := .loading .test } .test
        (.between ⟨10, 0, 0, 0⟩ ⟨11, 0, 0, 0⟩) (Stamp.seconds ⟨1, 0, 0, 0⟩)) := by
  have h : Combines "Duration: 01:00:00.000 Time of Updates: 10:00:00.000 UTC ... 11:00:00.000 UTC"
      "10:00:00.000" "11:00:00.000" "01:00:00.000" :=
    ⟨⟨"Duration: 01:00:00.000 ", "", by decide⟩,
      ⟨"", " Time of Updates: 10:00:00.000 UTC ... 11:00:00.000 UTC", by decide,
        by rintro c ⟨⟩; decide⟩,
      by decide +kernel, by decide +kernel⟩
  refine ⟨h, ?_⟩
  have hp : Stamp.read "10:00:00.000" = .ok ⟨10, 0, 0, 0⟩ := by decide
  have hq : Stamp.read "11:00:00.000" = .ok ⟨11, 0, 0, 0⟩ := by decide
  have hr : Stamp.read "01:00:00.000" = .ok ⟨1, 0, 0, 0⟩ := by decide
  have hs : ({ phase := .loading .test } : Scan).phase.after
      "Duration: 01:00:00.000 Time of Updates: 10:00:00.000 UTC ... 11:00:00.000 UTC" =
    .loading .test := by decide
  obtain ⟨-, -, -, -, hstep⟩ := Scan.step_combined {} 0 { phase := .loading .test } hs h hp hq hr
  exact hstep "" " " "" (by decide) stampless_of_length
    stampless_of_length ⟨' ', by decide, by decide⟩

/-- The window is told first, and its start is taken for the duration. -/
theorem Scan.step_combined_windowFirst :
    Combines "Time of Updates: 10:00:00.000 UTC ... 11:00:00.000 UTC Duration: 01:00:00.000 "
      "10:00:00.000" "11:00:00.000" "01:00:00.000" ∧
    Stamp.read "01:00:00.000" = .ok ⟨1, 0, 0, 0⟩ ∧ Stamp.seconds ⟨1, 0, 0, 0⟩ = 3600 ∧
    ∃ s, ({ phase := .loading .test } : Scan).step {} 0
        "Time of Updates: 10:00:00.000 UTC ... 11:00:00.000 UTC Duration: 01:00:00.000 " = .ok s ∧
      s.test.window = some ⟨36000, 39600⟩ ∧ s.test.duration = some 36000 ∧
      s.test.duration ≠ some 3600 := by
  obtain ⟨s, hs, ht⟩ := exists_ok_of_toOption (show
    (({ phase := .loading .test } : Scan).step {} 0
      "Time of Updates: 10:00:00.000 UTC ... 11:00:00.000 UTC Duration: 01:00:00.000 ").toOption.map
        (fun s => (s.test.window, s.test.duration)) = some (some ⟨36000, 39600⟩, some 36000) by
      decide +kernel)
  obtain ⟨hw, hd⟩ := Prod.mk.inj ht
  refine ⟨⟨⟨"", " Duration: 01:00:00.000 ", by decide⟩,
    ⟨"Time of Updates: 10:00:00.000 UTC ... 11:00:00.000 UTC ", " ", by decide,
      by rintro c ⟨⟩; decide⟩,
    by decide +kernel, by decide +kernel⟩, by decide, by decide +kernel, s, hs, hw, hd, ?_⟩
  rw [hd]
  decide +kernel

end ViewPoints.RunLog
