import ViewPoints.Deviation.ShortTrack
import ViewPoints.Document.Rendering
import ViewPoints.Proofs.Deviation.Outcomes

/-!
The shape of view points: which fields are there and which of them hold a value, by the kind of
the view point. A view point that could not be filled in has all that depends on its text empty.
-/

namespace ViewPoints

/-- The names of the members of an object. -/
def Json.keys : Json → List String
  | obj members => members.map Prod.fst
  | _ => []

namespace ViewPointKind

/-- What stands before the number in a name. -/
def title : ViewPointKind → String
  | content kind => kind.abbreviation ++ " DEV #"
  | _ => "DEV #"

/-- The database variables that are worth showing beside the deviation. -/
def contextVariables : ViewPointKind → Option (SortedMap (List String))
  | content kind => kind.contextVariables.map fun v => .single v.1 v.2
  | _ => none

/-- A track that only one run has is at no one time. -/
def isTimed : ViewPointKind → Bool
  | unmatched _ _ => false
  | _ => true

end ViewPointKind

/-- There is a number for the tracker of each name, and for no other. -/
def Filters.KeyedBy (f : Filters) (names : List String) : Prop :=
  ∀ key, key ∈ f.trackNumbers.keys ↔ key ∈ names.map Filters.trackKey

/-- The view point of a track that only its owner has. Either the text tells which track it is, and
then the times and the track are there, or nothing is. -/
structure Unmatched.Shaped (t : Trackers) (owner : Side) (d : Dubiousness) (v : ViewPoint) :
    Prop where
  timing : v.timing = none
  timeOfDay : ∃ span, v.filters.timeOfDay = some span ∧
    (span.minimum = none ↔ v.text = none) ∧ (span.maximum = none ↔ v.text = none)
  untracked : v.filters.trackNumbers.keys = [] ↔ v.text = none
  clear : v.text = none → d = .clear
  own : v.text ≠ none → d = .clear → v.filters.KeyedBy [t.name owner]
  both : v.text ≠ none → d ≠ .clear → v.filters.KeyedBy [t.name owner, t.name owner.opposite]
  codes : v.filters.mode3A ≠ none ∨ v.filters.targetAddress ≠ none → d = .multiple

/-- The view point of a deviation in the contents of two tracks. Only the bracketed stamps may be
missing. -/
structure Content.Shaped (t : Trackers) (v : ViewPoint) : Prop where
  text : v.text ≠ none
  timing : ∃ time window span, v.timing = some ⟨some time, window⟩ ∧
    v.filters.timeOfDay = some span ∧
    (span.minimum = none ↔ window = none) ∧ (span.maximum = none ↔ window = none)
  both : v.filters.KeyedBy [t.reference, t.test]
  codes : v.filters.mode3A = none ∧ v.filters.targetAddress = none

/-- The view point of a short track. Either the line tells which tracks it is about, and then the
time and both tracks are there, or nothing is. -/
structure ShortTrack.Shaped (t : Trackers) (v : ViewPoint) : Prop where
  timing : ∃ timing, v.timing = some timing ∧ (timing.time = none ↔ v.text = none) ∧
    (v.text = none → timing.window = none)
  timeOfDay : v.filters.timeOfDay = none
  untracked : v.filters.trackNumbers.keys = [] ↔ v.text = none
  both : v.text ≠ none → v.filters.KeyedBy [t.reference, t.test]
  codes : v.filters.mode3A = none ∧ v.filters.targetAddress = none

/-- The shape of a view point, and the members of its JSON form that are not left out. -/
structure ViewPoint.Shaped (t : Trackers) (v : ViewPoint) : Prop where
  dbObjects : v.dbObjects = ["Tracker"]
  named : ∃ number, v.deviations = [number] ∧ v.name = v.kind.title ++ number
  contextVariables : v.contextVariables = v.kind.contextVariables
  keys : v.toJson.keys = ["id", "type", "name", "text"] ++
    (if v.kind.isTimed then ["time", "time_window"] else []) ++
    ["db_objects", "filters", "deviations"] ++
    (if v.kind.contextVariables = none then [] else ["context_variables"])
  filterKeys : v.filters.toJson.keys =
    (if v.kind = .shortTrack then [] else ["Time of Day"]) ++ ["Tracker Track Number"] ++
    (if v.filters.mode3A = none then [] else ["Mode 3/A Codes"]) ++
    (if v.filters.targetAddress = none then [] else ["Target Address"])
  unmatched : ∀ owner d, v.kind = .unmatched owner d → Unmatched.Shaped t owner d v
  content : ∀ kind, v.kind = .content kind → Content.Shaped t v
  shortTrack : v.kind = .shortTrack → ShortTrack.Shaped t v

/-! ### Members -/

lemma Json.keys_optional {α : Type} (key : String) (f : α → Json) (a? : Option α) :
    (optional key f a?).map Prod.fst = if a? = none then [] else [key] := by
  cases a? <;> rfl

lemma Timing.keys_members (timing : Option Timing) :
    (membersOf Timing.members timing).map Prod.fst =
      if timing = none then [] else ["time", "time_window"] := by
  cases timing <;> rfl

lemma ViewPoint.keys_toJson (v : ViewPoint) :
    v.toJson.keys = ["id", "type", "name", "text"] ++
      (if v.timing = none then [] else ["time", "time_window"]) ++
      ["db_objects", "filters", "deviations"] ++
      (if v.contextVariables = none then [] else ["context_variables"]) := by
  simp only [toJson, Json.keys, List.map_append, Timing.keys_members, Json.keys_optional]
  rfl

lemma Filters.keys_toJson (f : Filters) :
    f.toJson.keys = (if f.timeOfDay = none then [] else ["Time of Day"]) ++
      ["Tracker Track Number"] ++ (if f.mode3A = none then [] else ["Mode 3/A Codes"]) ++
      (if f.targetAddress = none then [] else ["Target Address"]) := by
  simp only [toJson, Json.keys, List.map_append, Json.keys_optional]
  rfl

/-! ### Track numbers -/

namespace Filters

variable {f : Filters} {names : List String}

lemma keyedBy_nil (h : f.trackNumbers = .empty) : f.KeyedBy [] := by
  intro key
  simp [h]

lemma KeyedBy.set (h : f.KeyedBy names) (name value : String) :
    (f.setTrackNumber name value).KeyedBy (names ++ [name]) := by
  intro key
  rw [setTrackNumber, SortedMap.mem_keys_insert, h key]
  simp [or_comm]

lemma KeyedBy.swap {a b : String} (h : f.KeyedBy [a, b]) : f.KeyedBy [b, a] := by
  intro key
  rw [h key]
  simp [or_comm]

lemma KeyedBy.ne_nil {a : String} (h : f.KeyedBy (a :: names)) : f.trackNumbers.keys ≠ [] := by
  have hm : trackKey a ∈ f.trackNumbers.keys := (h _).2 (by simp)
  exact List.ne_nil_of_mem hm

lemma KeyedBy.of_sides {t : Trackers} {side : Side}
    (h : f.KeyedBy [t.name side, t.name side.opposite]) : f.KeyedBy [t.reference, t.test] := by
  cases side
  · exact h
  · exact h.swap

end Filters

/-! ### Tracks that only one run has -/

namespace Unmatched

variable {t : Trackers} {owner : Side} {text track : String} {level : Dubiousness} {d : Details}
  {f : Filters}

@[simp] lemma timeOfDay_codeFilters : (codeFilters d f).timeOfDay = f.timeOfDay := by
  unfold codeFilters
  split <;> rfl

@[simp] lemma trackNumbers_codeFilters : (codeFilters d f).trackNumbers = f.trackNumbers := by
  unfold codeFilters
  split <;> rfl

/-- Codes are shown only of several candidates. -/
lemma multiple_of_codeFilters (hf : f.mode3A = none) (hf' : f.targetAddress = none)
    (h : (codeFilters d f).mode3A ≠ none ∨ (codeFilters d f).targetAddress ≠ none) :
    d.level = .multiple := by
  by_contra hd
  simp [codeFilters, hd, hf, hf'] at h

@[simp] lemma timeOfDay_trackFilters :
    (trackFilters t owner text track level f).timeOfDay = f.timeOfDay := by
  unfold trackFilters
  split <;> rfl

@[simp] lemma mode3A_trackFilters :
    (trackFilters t owner text track level f).mode3A = f.mode3A := by
  unfold trackFilters
  split <;> rfl

@[simp] lemma targetAddress_trackFilters :
    (trackFilters t owner text track level f).targetAddress = f.targetAddress := by
  unfold trackFilters
  split <;> rfl

lemma keyedBy_trackFilters_clear (hf : f.trackNumbers = .empty) :
    (trackFilters t owner text track .clear f).KeyedBy [t.name owner] := by
  rw [trackFilters, if_pos rfl]
  exact (Filters.keyedBy_nil hf).set (t.name owner) track

lemma keyedBy_trackFilters (hf : f.trackNumbers = .empty) (hl : level ≠ .clear) :
    (trackFilters t owner text track level f).KeyedBy
      [t.name owner, t.name owner.opposite] := by
  rw [trackFilters, if_neg hl]
  exact ((Filters.keyedBy_nil hf).set (t.name owner) track).set (t.name owner.opposite) _

lemma shaped_filled (t : Trackers) (owner : Side) (h : Header)
    (text track part first last : String) :
    Shaped t owner (Details.read text).level (filled t owner h text track part first last) := by
  have hk {names : List String} (hn : (trackFilters t owner text track (Details.read text).level
      { timeOfDay := some ⟨some first, some last⟩ }).KeyedBy names) :
      (filled t owner h text track part first last).filters.KeyedBy names := by
    intro key
    rw [filled, trackNumbers_codeFilters]
    exact hn key
  have ht : (filled t owner h text track part first last).text ≠ none := by simp [filled]
  have hl : (filled t owner h text track part first last).filters.trackNumbers.keys ≠ [] := by
    by_cases hd : (Details.read text).level = .clear
    · exact (hk (hd ▸ keyedBy_trackFilters_clear rfl)).ne_nil
    · exact (hk (keyedBy_trackFilters rfl hd)).ne_nil
  constructor
  case timing => rfl
  case timeOfDay => exact ⟨⟨some first, some last⟩, by simp [filled], by simp [ht], by simp [ht]⟩
  case untracked => exact iff_of_false hl ht
  case clear => exact fun h => absurd h ht
  case own => exact fun _ hd => hk (hd ▸ keyedBy_trackFilters_clear rfl)
  case both => exact fun _ hd => hk (keyedBy_trackFilters rfl hd)
  case codes => exact multiple_of_codeFilters (by simp) (by simp)

lemma shaped_blank (t : Trackers) (owner : Side) (h : Header) :
    Shaped t owner .clear (blank owner h) where
  timing := rfl
  timeOfDay := ⟨{}, rfl, by simp [blank]⟩
  untracked := by simp [blank]
  clear _ := rfl
  own ht := absurd rfl ht
  both ht := absurd rfl ht
  codes := by simp [blank]

/-- A track that only one run has is shaped by its owner, and by its candidates. -/
lemma shaped_of_unmatched {v : ViewPoint} (hk : v.kind = .unmatched owner level)
    (ho : v.dbObjects = ["Tracker"]) (hc : v.contextVariables = none)
    (hn : ∃ number, v.deviations = [number] ∧ v.name = "DEV #" ++ number)
    (hs : Shaped t owner level v) : v.Shaped t := by
  obtain ⟨span, ht, -⟩ := hs.timeOfDay
  constructor
  case dbObjects => exact ho
  case named => rwa [hk]
  case contextVariables => rw [hc, hk]; rfl
  case keys => rw [ViewPoint.keys_toJson, hs.timing, hc, hk]; rfl
  case filterKeys => rw [Filters.keys_toJson, ht, hk]; rfl
  case unmatched =>
    intro owner' level' hk'
    obtain ⟨rfl, rfl⟩ := ViewPointKind.unmatched.inj (hk.symm.trans hk')
    exact hs
  case content => intro kind hk'; simp [hk] at hk'
  case shortTrack => intro hk'; simp [hk] at hk'

theorem shaped_viewPoint (t : Trackers) (owner : Side) (h : Header) (text : String) :
    (viewPoint t owner h text).Shaped t := by
  unfold viewPoint
  split
  next => exact shaped_of_unmatched rfl rfl rfl ⟨h.number, rfl, rfl⟩ (shaped_filled ..)
  next => exact shaped_of_unmatched rfl rfl rfl ⟨h.number, rfl, rfl⟩ (shaped_blank ..)

end Unmatched

/-! ### Contents -/

namespace Content

variable {t : Trackers} {h : Header} {text : String} {v : ViewPoint}

/-- The window and both of its ends are there, or none of them. -/
lemma timeSpan_cases {span : TimeOfDay} {window : Option Float}
    (hs : timeSpan text = .ok (span, window)) :
    (span.minimum = none ↔ window = none) ∧ (span.maximum = none ↔ window = none) := by
  unfold timeSpan at hs
  split at hs
  next =>
    obtain ⟨rfl, rfl⟩ := Prod.mk.inj (Except.ok.inj hs)
    simp
  next first last _ =>
    obtain ⟨length, -, he⟩ := map_eq_ok_iff.1 hs
    obtain ⟨rfl, rfl⟩ := Prod.mk.inj he
    simp

theorem shaped_of_viewPoint {s : Subject} {kind : ContentKind} {payload : String}
    (hv : viewPoint t h text s kind payload = .ok v) : v.Shaped t := by
  obtain ⟨time, span, window, -, hs, rfl⟩ := eq_of_viewPoint hv
  constructor
  case dbObjects => rfl
  case named => exact ⟨h.number, rfl, rfl⟩
  case contextVariables => rfl
  case keys => rw [ViewPoint.keys_toJson]; rfl
  case filterKeys => rw [Filters.keys_toJson]; rfl
  case unmatched => intro owner d hk; simp at hk
  case shortTrack => intro hk; simp at hk
  case content =>
    intro _ _
    constructor
    case text => simp
    case timing => exact ⟨time.seconds, window, span, rfl, rfl, timeSpan_cases hs⟩
    case both =>
      exact ((Filters.keyedBy_nil rfl).set t.reference s.referenceTrack).set t.test s.testTrack
    case codes => exact ⟨rfl, rfl⟩

lemma shaped_of_outcome (hv : outcome t h text = .ok (.viewPoint v)) : v.Shaped t := by
  obtain ⟨s, kind, payload, word, -, -, hv⟩ := viewPoint_of_outcome hv
  exact shaped_of_viewPoint hv

end Content

/-! ### Short tracks -/

namespace ShortTrack

variable {t : Trackers} {id : Nat} {line : String} {v : ViewPoint}

lemma shaped_of_shortTrack (hk : v.kind = .shortTrack) (ho : v.dbObjects = ["Tracker"])
    (hc : v.contextVariables = none)
    (hn : ∃ number, v.deviations = [number] ∧ v.name = "DEV #" ++ number)
    (hs : Shaped t v) : v.Shaped t := by
  obtain ⟨timing, ht, -⟩ := hs.timing
  constructor
  case dbObjects => exact ho
  case named => rwa [hk]
  case contextVariables => rw [hc, hk]; rfl
  case keys => rw [ViewPoint.keys_toJson, ht, hc, hk]; rfl
  case filterKeys => rw [Filters.keys_toJson, hs.timeOfDay, hk]; rfl
  case unmatched => intro owner d hk'; simp [hk] at hk'
  case content => intro kind hk'; simp [hk] at hk'
  case shortTrack => exact fun _ => hs

lemma shaped_blank (t : Trackers) (id : Nat) : Shaped t (blank id) where
  timing := ⟨{}, rfl, by simp [blank], by simp⟩
  timeOfDay := rfl
  untracked := by simp [blank]
  both ht := absurd rfl ht
  codes := ⟨rfl, rfl⟩

theorem shaped_of_viewPoint (hv : viewPoint t id line = .ok v) : v.Shaped t := by
  unfold viewPoint at hv
  split at hv
  next side track _ counterpart code address stamp diff _ =>
    obtain ⟨time, -, hv⟩ := bind_eq_ok_iff.1 hv
    obtain rfl := Except.ok.inj hv
    refine shaped_of_shortTrack rfl rfl rfl ⟨_, rfl, rfl⟩ ?_
    have hb : ((({} : Filters).setTrackNumber (t.name (sideOf side)) track).setTrackNumber
        (t.name (sideOf side).opposite) counterpart).KeyedBy
          [t.name (sideOf side), t.name (sideOf side).opposite] :=
      ((Filters.keyedBy_nil rfl).set _ track).set _ counterpart
    constructor
    case timing => exact ⟨_, rfl, by simp, by simp⟩
    case timeOfDay => rfl
    case untracked => exact iff_of_false hb.ne_nil (by simp)
    case both => exact fun _ => hb.of_sides
    case codes => exact ⟨rfl, rfl⟩
  next =>
    obtain rfl := Except.ok.inj hv
    exact shaped_of_shortTrack rfl rfl rfl ⟨_, rfl, rfl⟩ (shaped_blank t id)

end ShortTrack

/-! ### Blocks -/

theorem Block.shaped_of_outcome {t : Trackers} {b : Block} {v : ViewPoint}
    (hv : b.outcome t = .ok (.viewPoint v)) : v.Shaped t := by
  obtain ⟨h, -, ⟨owner, rfl⟩ | hv⟩ := viewPoint_cases hv
  · exact Unmatched.shaped_viewPoint t owner h b.text
  · exact Content.shaped_of_outcome hv

end ViewPoints
