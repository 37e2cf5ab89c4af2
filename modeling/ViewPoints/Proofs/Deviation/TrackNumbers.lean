import ViewPoints.Proofs.Deviation.Shape

/-!
The numbers of tracks that a view point keeps. Each tracker has its number under its name, so that
two trackers of one name have only one number between them, the one that was put last.
-/

namespace ViewPoints

/-- What belongs to one side, and what to the other. -/
def bySide (side : Side) (own other : String) : Side → String :=
  fun s => if s = side then own else other

/-- The number for each side is found under the name of its tracker. -/
def ViewPoint.Keeps (t : Trackers) (numbers : Side → String) (v : ViewPoint) : Prop :=
  ∀ side, v.filters.trackNumber (t.name side) = some (numbers side)

/-- Names tell numbers apart if there are two names, or only one number. -/
def Trackers.TellApart (t : Trackers) (numbers : Side → String) : Prop :=
  t.reference ≠ t.test ∨ numbers .reference = numbers .test

/-- A view point about tracks of both runs: in contents, of a short track that could be made out,
or of a track that only one run has, with candidates in the other. -/
def ViewPoint.OfBoth (v : ViewPoint) : Prop :=
  match v.kind with
  | .content _ => True
  | .shortTrack => v.text ≠ none
  | .unmatched _ d => d ≠ .clear

/-! ### What the texts state -/

/-- The numbers of the two tracks that a preamble names. -/
def Content.trackNumbers? (text : String) : Option (Side → String) :=
  match preamble.read text with
  | some [testTrack, _, referenceTrack, _, _, _] => some (bySide .reference referenceTrack testTrack)
  | _ => none

/-- The numbers of a short track and of its counterpart. -/
def ShortTrack.trackNumbers? (line : String) : Option (Side → String) :=
  match phrase.read line with
  | some [side, track, _, counterpart, _, _, _, _] => some (bySide (sideOf side) track counterpart)
  | _ => none

/-- The number of a track that only its owner has, and those of its candidates. -/
def Unmatched.trackNumbers? (owner : Side) (text : String) : Option (Side → String) :=
  match (phrase owner).read text with
  | some [track, _, _, _] => some (bySide owner track (candidates text))
  | _ => none

/-- The numbers that the text of a view point of this kind states. -/
def ViewPointKind.trackNumbers? : ViewPointKind → String → Option (Side → String)
  | content _ => Content.trackNumbers?
  | shortTrack => ShortTrack.trackNumbers?
  | unmatched owner _ => Unmatched.trackNumbers? owner

/-! ### What is kept of it -/

variable {t : Trackers} {v : ViewPoint}

/-- Of two numbers under one name only the second is kept. -/
lemma Filters.trackNumber_pair_iff (f : Filters) (a b x y : String) :
    ((f.setTrackNumber a x).setTrackNumber b y).trackNumber a = some x ∧
      ((f.setTrackNumber a x).setTrackNumber b y).trackNumber b = some y ↔ a ≠ b ∨ x = y := by
  by_cases h : a = b
  · subst h
    simp [eq_comm]
  · simp [h, trackNumber_setTrackNumber_of_ne _ y h]

lemma Side.forall_iff (side : Side) {p : Side → Prop} :
    (∀ s, p s) ↔ p side ∧ p side.opposite := by
  refine ⟨fun h => ⟨h _, h _⟩, fun ⟨h, h'⟩ s => ?_⟩
  cases side <;> cases s <;> assumption

@[simp] lemma bySide_self (side : Side) (own other : String) : bySide side own other side = own :=
  if_pos rfl

@[simp] lemma bySide_opposite (side : Side) (own other : String) :
    bySide side own other side.opposite = other := by
  cases side <;> rfl

lemma Trackers.tellApart_iff (side : Side) {numbers : Side → String} :
    t.TellApart numbers ↔
      t.name side ≠ t.name side.opposite ∨ numbers side = numbers side.opposite := by
  cases side
  · exact Iff.rfl
  · exact or_congr ne_comm eq_comm

/-- A view point with a number for each side keeps both where the trackers tell them apart. -/
lemma ViewPoint.keeps_iff {f : Filters} {side : Side} {x y : String}
    (hf : v.filters.trackNumbers = ((f.setTrackNumber (t.name side) x).setTrackNumber
      (t.name side.opposite) y).trackNumbers) :
    v.Keeps t (bySide side x y) ↔ t.TellApart (bySide side x y) := by
  have hn (name : String) : v.filters.trackNumber name =
      ((f.setTrackNumber (t.name side) x).setTrackNumber
        (t.name side.opposite) y).trackNumber name := by
    rw [Filters.trackNumber, hf, Filters.trackNumber]
  rw [Keeps, Side.forall_iff side, Trackers.tellApart_iff side, hn, hn, bySide_self,
    bySide_opposite]
  exact Filters.trackNumber_pair_iff ..

namespace Content

variable {h : Header} {text : String}

lemma keeps_of_outcome (hv : outcome t h text = .ok (.viewPoint v)) :
    ∃ numbers, v.kind.trackNumbers? text = some numbers ∧
      (v.Keeps t numbers ↔ t.TellApart numbers) := by
  obtain ⟨s, kind, payload, word, hp, -, hv⟩ := viewPoint_of_outcome hv
  obtain ⟨time, span, window, -, -, rfl⟩ := eq_of_viewPoint hv
  refine ⟨bySide .reference s.referenceTrack s.testTrack, ?_, ?_⟩
  · simp only [ViewPointKind.trackNumbers?, trackNumbers?, hp]
  · exact ViewPoint.keeps_iff (f := { timeOfDay := some span }) rfl

end Content

namespace ShortTrack

variable {id : Nat} {line : String}

/-- A short track can be made out where the line states both numbers. -/
lemma text_ne_none_iff (hv : viewPoint t id line = .ok v) :
    v.text ≠ none ↔ ∃ numbers, trackNumbers? line = some numbers := by
  unfold viewPoint at hv
  split at hv
  next hp =>
    obtain ⟨time, -, hv⟩ := bind_eq_ok_iff.1 hv
    obtain rfl := Except.ok.inj hv
    exact iff_of_true (by simp) ⟨_, by rw [trackNumbers?, hp]⟩
  next hp =>
    obtain rfl := Except.ok.inj hv
    refine iff_of_false (fun h => h rfl) fun ⟨numbers, hn⟩ => ?_
    unfold trackNumbers? at hn
    split at hn
    next hl => exact hp _ _ _ _ _ _ _ _ hl
    next => simp at hn

lemma keeps_of_viewPoint {numbers : Side → String} (hv : viewPoint t id line = .ok v)
    (hn : trackNumbers? line = some numbers) : v.Keeps t numbers ↔ t.TellApart numbers := by
  unfold viewPoint at hv
  unfold trackNumbers? at hn
  split at hn
  next side track _ counterpart _ _ stamp _ hp =>
    obtain rfl := Option.some.inj hn
    rw [hp] at hv
    obtain ⟨time, -, hv⟩ := bind_eq_ok_iff.1 hv
    obtain rfl := Except.ok.inj hv
    exact ViewPoint.keeps_iff (f := {}) rfl
  next => simp at hn

end ShortTrack

lemma Unmatched.keeps_of_ofBoth {owner : Side} {h : Header} {text : String}
    (hb : (viewPoint t owner h text).OfBoth) :
    ∃ numbers, (viewPoint t owner h text).kind.trackNumbers? text = some numbers ∧
      ((viewPoint t owner h text).Keeps t numbers ↔ t.TellApart numbers) := by
  unfold viewPoint at hb ⊢
  split at hb
  next track part first last hp =>
    have hl : (Details.read text).level ≠ .clear := hb
    refine ⟨bySide owner track (candidates text), ?_, ?_⟩
    · simp only [filled, ViewPointKind.trackNumbers?, trackNumbers?, hp]
    · refine ViewPoint.keeps_iff (f := { timeOfDay := some ⟨some first, some last⟩ }) ?_
      simp only [filled, trackNumbers_codeFilters, trackFilters, if_neg hl]
  next => exact absurd rfl hb

/-- The view point of a block that is about tracks of both runs keeps the numbers that the block
states where the names of the trackers tell them apart. -/
theorem Block.keeps_of_outcome {b : Block} (hv : b.outcome t = .ok (.viewPoint v))
    (hb : v.OfBoth) :
    ∃ numbers, v.kind.trackNumbers? b.text = some numbers ∧
      (v.Keeps t numbers ↔ t.TellApart numbers) := by
  obtain ⟨h, -, ⟨owner, rfl⟩ | hv⟩ := viewPoint_cases hv
  · exact Unmatched.keeps_of_ofBoth hb
  · exact Content.keeps_of_outcome hv

end ViewPoints
