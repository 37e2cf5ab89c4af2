import ViewPoints.Proofs.Deviation.Shape
import ViewPoints.Proofs.Document.Format
import ViewPoints.Proofs.Json.Printing
import ViewPoints.Proofs.Json.Reading
import ViewPoints.Proofs.SortedMap

/-!
The text of a document. When its floats are finite it is a text of JSON, of one tree only, and the
document is read back from that tree. So different documents have different texts.
-/

namespace ViewPoints

/-! ### Floats -/

def TimeOffset.floats (o : TimeOffset) : List Float := o.mean.toList ++ o.deviation.toList

def Dataset.floats (d : Dataset) : List Float :=
  d.timeOffset.toList.flatMap TimeOffset.floats ++ d.timeStart.toList ++ d.timeEnd.toList ++
    d.duration.toList

def Context.floats (c : Context) : List Float :=
  c.commonDuration.toList ++ c.reference.floats ++ c.test.floats

def ViewPoint.floats (v : ViewPoint) : List Float :=
  v.timing.toList.flatMap fun t => t.time.toList ++ t.window.toList

def Document.floats (d : Document) : List Float :=
  d.context.floats ++ d.viewPoints.toList.flatMap ViewPoint.floats

/-- JSON has numbers for all floats of the document. -/
def Document.Finite (d : Document) : Prop := ∀ x ∈ d.floats, Binary.isFinite x = true

instance (d : Document) : Decidable d.Finite :=
  inferInstanceAs (Decidable (∀ x ∈ d.floats, Binary.isFinite x = true))

/-! ### Values -/

namespace Json

variable {α : Type} {f : α → Json}

@[simp] lemma wellFormed_ofNat (n : Nat) : (ofNat n).WellFormed := .num (number_repr n)

lemma wellFormed_ofFloat {x : Float} (h : Binary.isFinite x = true) : (ofFloat x).WellFormed := by
  obtain ⟨literal, hx, hn⟩ := exists_literal_of_isFinite h
  exact hx ▸ .num hn

lemma wellFormed_ofOption {a? : Option α} (h : ∀ a ∈ a?, (f a).WellFormed) :
    (ofOption f a?).WellFormed := by
  cases a? with
  | none => exact .null
  | some a => exact h a rfl

lemma wellFormed_optional {key : String} {a? : Option α} (h : ∀ a ∈ a?, (f a).WellFormed) :
    ∀ m ∈ optional key f a?, m.2.WellFormed := by
  cases a? with
  | none => exact List.forall_mem_nil _
  | some a => exact List.forall_mem_singleton.2 (h a rfl)

lemma wellFormed_membersOf {f : α → List (String × Json)} {a? : Option α}
    (h : ∀ a ∈ a?, ∀ m ∈ f a, m.2.WellFormed) : ∀ m ∈ membersOf f a?, m.2.WellFormed := by
  cases a? with
  | none => exact List.forall_mem_nil _
  | some a => exact h a rfl

lemma wellFormed_items {l : List α} (h : ∀ a ∈ l, (f a).WellFormed) :
    (arr (l.map f)).WellFormed :=
  .arr (List.forall_mem_map.2 h)

lemma wellFormed_ofMap {m : SortedMap α} (h : ∀ e ∈ m.entries, (f e.2).WellFormed) :
    (ofMap f m).WellFormed := by
  refine .obj ?_ (List.forall_mem_map.2 h)
  rw [List.map_map]
  exact m.nodup_keys

@[simp] lemma wellFormed_ofStrings (l : List String) : (ofStrings l).WellFormed :=
  wellFormed_items fun s _ => .str s

lemma wellFormed_floats {x? : Option Float} (h : ∀ x ∈ x?, Binary.isFinite x = true) :
    (ofOption ofFloat x?).WellFormed :=
  wellFormed_ofOption fun x hx => wellFormed_ofFloat (h x hx)

@[simp] lemma wellFormed_str (s : String) : (str s).WellFormed := .str s

@[simp] lemma wellFormed_string (s? : Option String) : (ofOption str s?).WellFormed :=
  wellFormed_ofOption fun s _ => .str s

@[simp] lemma wellFormed_byte (n? : Option UInt8) : (ofOption ofByte n?).WellFormed :=
  wellFormed_ofOption fun n _ => wellFormed_ofNat n.toNat

end Json

/-! ### Trees -/

open Json

lemma TimeOffset.wellFormed_members {o : TimeOffset}
    (h : ∀ x ∈ o.floats, Binary.isFinite x = true) : ∀ m ∈ o.members, m.2.WellFormed := by
  simp only [floats, List.forall_mem_append, Option.mem_toList] at h
  simp [members, wellFormed_floats h.1, wellFormed_floats h.2]

lemma SensorIdentity.wellFormed_overrideMembers (i : SensorIdentity) :
    ∀ m ∈ i.overrideMembers, m.2.WellFormed := by
  simp [overrideMembers, ofByte]

lemma Timing.wellFormed_members {t : Timing} (ht : ∀ x ∈ t.time, Binary.isFinite x = true)
    (hw : ∀ x ∈ t.window, Binary.isFinite x = true) : ∀ m ∈ t.members, m.2.WellFormed := by
  simp [members, wellFormed_floats ht, wellFormed_floats hw]

lemma Dataset.wellFormed_toJson {d : Dataset} (h : ∀ x ∈ d.floats, Binary.isFinite x = true) :
    d.toJson.WellFormed := by
  simp only [floats, List.forall_mem_append, List.forall_mem_flatMap, Option.mem_toList] at h
  obtain ⟨⟨⟨ho, hs⟩, he⟩, hd⟩ := h
  refine .obj ?_ ?_
  · obtain ⟨name, label, filename, timeOffset, sac, sic, timeStart, timeEnd, duration, o⟩ := d
    cases timeOffset <;> cases o <;>
      simp [membersOf, TimeOffset.members, SensorIdentity.overrideMembers]
  · have hto := wellFormed_membersOf fun o h => TimeOffset.wellFormed_members (ho o h)
    have hso : ∀ m ∈ membersOf SensorIdentity.overrideMembers d.sensorOverride, m.2.WellFormed :=
      wellFormed_membersOf fun i _ => i.wellFormed_overrideMembers
    simp only [List.forall_mem_append]
    refine ⟨⟨⟨by simp, hto⟩, ?_⟩, hso⟩
    simp [wellFormed_floats hs, wellFormed_floats he, wellFormed_floats hd]

lemma Context.wellFormed_toJson {c : Context} (h : ∀ x ∈ c.floats, Binary.isFinite x = true) :
    c.toJson.WellFormed := by
  simp only [floats, List.forall_mem_append, Option.mem_toList] at h
  obtain ⟨⟨hd, hr⟩, ht⟩ := h
  refine .obj ?_ ?_
  · simp only [List.map_append, keys_optional]
    split <;> split <;> simp
  · have hs : ∀ m ∈ optional "start_date" str c.startDate, m.2.WellFormed :=
      wellFormed_optional fun s _ => .str s
    have hd : ∀ m ∈ optional "common_time_duration" ofFloat c.commonDuration, m.2.WellFormed :=
      wellFormed_optional fun x hx => wellFormed_ofFloat (hd x hx)
    have hds : (arr [c.reference.toJson, c.test.toJson]).WellFormed :=
      .arr (by simp [Dataset.wellFormed_toJson hr, Dataset.wellFormed_toJson ht])
    simp only [List.forall_mem_append]
    exact ⟨⟨⟨⟨by simp, hs⟩, by simp⟩, hd⟩, by simpa using hds⟩

lemma TimeOfDay.wellFormed_toJson (t : TimeOfDay) : t.toJson.WellFormed :=
  .obj (by simp) (by simp)

lemma Filters.wellFormed_toJson (f : Filters) : f.toJson.WellFormed := by
  have hv (key s : String) : (obj [(key, str s)]).WellFormed := .obj (by simp) (by simp)
  refine .obj ?_ ?_
  · have hk := keys_toJson f
    rw [toJson, Json.keys] at hk
    rw [hk]
    split <;> split <;> split <;> simp
  · simp only [List.forall_mem_append]
    refine ⟨⟨⟨?_, ?_⟩, ?_⟩, ?_⟩
    · exact wellFormed_optional fun t _ => t.wellFormed_toJson
    · simpa using wellFormed_ofMap fun e _ => .str e.2
    · exact wellFormed_optional fun s _ => hv _ s
    · exact wellFormed_optional fun s _ => hv _ s

lemma ViewPoint.wellFormed_toJson {v : ViewPoint} (h : ∀ x ∈ v.floats, Binary.isFinite x = true) :
    v.toJson.WellFormed := by
  simp only [floats, List.forall_mem_append, List.forall_mem_flatMap, Option.mem_toList] at h
  refine .obj ?_ ?_
  · have hk := keys_toJson v
    rw [toJson, Json.keys] at hk
    rw [hk]
    split <;> split <;> simp
  · simp only [List.forall_mem_append]
    refine ⟨⟨⟨?_, ?_⟩, ?_⟩, ?_⟩
    · simp
    · exact wellFormed_membersOf fun t ht => Timing.wellFormed_members (h t ht).1 (h t ht).2
    · simp [v.filters.wellFormed_toJson]
    · exact wellFormed_optional fun m _ => wellFormed_ofMap fun e _ => wellFormed_ofStrings e.2

/-- The tree of a document can be written: no object in it has two members of one name. -/
theorem Document.wellFormed_toJson {d : Document} (h : d.Finite) : d.toJson.WellFormed := by
  obtain ⟨hc, hv⟩ := List.forall_mem_append.1 h
  have hvs : (arr (d.viewPoints.toList.map ViewPoint.toJson)).WellFormed :=
    wellFormed_items fun v hm => v.wellFormed_toJson (List.forall_mem_flatMap.1 hv v hm)
  exact .obj (by simp) (by simp [Context.wellFormed_toJson hc, hvs])

/-! ### Members -/

lemma Dataset.encoded_toJson {d : Dataset} (h : ∀ x ∈ d.floats, Binary.isFinite x = true) :
    d.Encoded d.toJson := by
  simp only [floats, List.forall_mem_append, List.forall_mem_flatMap, Option.mem_toList] at h
  obtain ⟨⟨⟨ho, hs⟩, he⟩, hd⟩ := h
  obtain ⟨name, label, filename, timeOffset, sac, sic, timeStart, timeEnd, duration, o⟩ := d
  -- which members stand before a key depends on the parts that are there
  constructor
  case name => exact holds_of_field (by rfl) fun s _ => written_str s
  case label => exact holds_of_field (by rfl) fun s _ => written_str s
  case filename => exact holds_of_field (by rfl) fun s _ => written_str s
  case timeOffset =>
    exact holds_float (by cases timeOffset <;> cases o <;> rfl) <|
      Option.forall_mem_map.2 fun o hto x hx => ho o hto x (by simp_all [TimeOffset.floats])
  case offsetDeviation =>
    exact holds_float (by cases timeOffset <;> cases o <;> rfl) <|
      Option.forall_mem_map.2 fun o hto x hx => ho o hto x (by simp_all [TimeOffset.floats])
  case sac =>
    exact holds_of_field (by cases timeOffset <;> cases o <;> rfl) fun n _ => written_byte n
  case sic =>
    exact holds_of_field (by cases timeOffset <;> cases o <;> rfl) fun n _ => written_byte n
  case timeStart =>
    exact holds_float (by cases timeOffset <;> cases o <;> rfl) (by simpa using hs)
  case timeEnd =>
    exact holds_float (by cases timeOffset <;> cases o <;> rfl) (by simpa using he)
  case duration =>
    exact holds_float (by cases timeOffset <;> cases o <;> rfl) (by simpa using hd)
  case sacOverride =>
    exact holds_of_field (by cases timeOffset <;> cases o <;> rfl) fun n _ => written_byte n
  case sicOverride =>
    exact holds_of_field (by cases timeOffset <;> cases o <;> rfl) fun n _ => written_byte n

lemma Context.encoded_toJson {c : Context} (h : ∀ x ∈ c.floats, Binary.isFinite x = true) :
    c.Encoded c.toJson := by
  simp only [floats, List.forall_mem_append, Option.mem_toList] at h
  obtain ⟨⟨hd, hr⟩, ht⟩ := h
  obtain ⟨version, aocVersion, startDate, timeNow, commonDuration, reference, test⟩ := c
  constructor
  case version => exact holds_of_field (by rfl) fun s _ => written_str s
  case aocVersion => exact holds_of_field (by rfl) fun s _ => written_str s
  case startDate =>
    exact holds_of_field (by cases startDate <;> cases commonDuration <;> rfl) fun s _ =>
      written_str s
  case timeNow =>
    exact holds_of_field (by cases startDate <;> rfl) fun s _ => written_str s
  case commonDuration =>
    exact holds_float (by cases startDate <;> cases commonDuration <;> rfl) <|
      Option.forall_mem_map.2 fun x hx => by simpa using hd x hx
  case datasets =>
    refine holds_of_field (f := fun l => arr (l.map Dataset.toJson))
      (by cases startDate <;> cases commonDuration <;> rfl) fun l hl => ?_
    obtain rfl := Option.some.inj (Option.some.inj hl)
    refine written_items _ fun d hm => ?_
    rcases List.mem_pair.1 hm with rfl | rfl
    · exact Dataset.encoded_toJson hr
    · exact Dataset.encoded_toJson ht

lemma TimeOfDay.encoded_toJson (t : TimeOfDay) : t.Encoded t.toJson where
  minimum := holds_of_field (by rfl) fun s _ => written_str s
  maximum := holds_of_field (by rfl) fun s _ => written_str s

lemma written_textUnder (key s : String) :
    Written (fun s => obj [(key, str s)]) (TextUnder key) s :=
  ⟨nofun, holds_of_field (by simp [field?, ofOption]) fun s _ => written_str s⟩

lemma Filters.encoded_toJson (f : Filters) : f.Encoded f.toJson := by
  obtain ⟨timeOfDay, trackNumbers, mode3A, targetAddress⟩ := f
  constructor
  case timeOfDay =>
    exact holds_of_field (f := TimeOfDay.toJson)
      (by cases timeOfDay <;> cases mode3A <;> cases targetAddress <;> rfl)
      fun t _ => ⟨nofun, t.encoded_toJson⟩
  case trackNumbers =>
    exact holds_of_field (by cases timeOfDay <;> rfl) fun m _ => written_map m fun _ _ => rfl
  case mode3A =>
    exact holds_of_field (by cases timeOfDay <;> cases mode3A <;> cases targetAddress <;> rfl)
      fun s _ => written_textUnder _ s
  case targetAddress =>
    exact holds_of_field (by cases timeOfDay <;> cases mode3A <;> cases targetAddress <;> rfl)
      fun s _ => written_textUnder _ s

lemma ViewPoint.encoded_toJson {v : ViewPoint} (h : ∀ x ∈ v.floats, Binary.isFinite x = true) :
    v.Encoded v.toJson := by
  simp only [floats, List.forall_mem_append, List.forall_mem_flatMap, Option.mem_toList] at h
  obtain ⟨id, kind, name, text, timing, dbObjects, filters, deviations, shown⟩ := v
  constructor
  case id => exact holds_of_field (by rfl) fun n _ => written_nat n
  case kind => exact holds_of_field (f := fun k => str k.label) (by rfl) fun k _ => ⟨nofun, rfl⟩
  case name => exact holds_of_field (by rfl) fun s _ => written_str s
  case text => exact holds_of_field (by rfl) fun s _ => written_str s
  case time =>
    exact holds_float (by cases timing <;> cases shown <;> rfl) <|
      Option.forall_mem_map.2 fun t ht => (h t ht).1
  case window =>
    exact holds_float (by cases timing <;> cases shown <;> rfl) <|
      Option.forall_mem_map.2 fun t ht => (h t ht).2
  case dbObjects =>
    exact holds_of_field (by cases timing <;> rfl) fun l _ => written_strings l
  case filters =>
    exact holds_of_field (f := Filters.toJson) (by cases timing <;> rfl) fun f _ =>
      ⟨nofun, f.encoded_toJson⟩
  case deviations =>
    exact holds_of_field (by cases timing <;> rfl) fun l _ => written_strings l
  case contextVariables =>
    exact holds_of_field (by cases timing <;> cases shown <;> rfl) fun m _ =>
      written_map m fun e _ => (written_strings e.2).holds

theorem Document.encoded_toJson {d : Document} (h : d.Finite) : d.Encoded d.toJson := by
  obtain ⟨hc, hv⟩ := List.forall_mem_append.1 h
  constructor
  case context =>
    refine holds_of_field (f := Context.toJson) (by rfl) fun c he => ?_
    obtain rfl := Option.some.inj (Option.some.inj he)
    exact ⟨nofun, Context.encoded_toJson hc⟩
  case viewPoints =>
    refine holds_of_field (f := fun l => arr (l.map ViewPoint.toJson)) (by rfl) fun l hl => ?_
    obtain rfl := Option.some.inj (Option.some.inj hl)
    exact written_items _ fun v hm => v.encoded_toJson (List.forall_mem_flatMap.1 hv v hm)

/-! ### Texts -/

namespace Document

variable {d d' : Document}

/-- The text of a document stands for its tree and for no other. -/
lemma denotes_pretty_iff (h : d.Finite) {j : Json} : Denotes d.pretty j ↔ j = d.toJson := by
  have hd : Denotes d.pretty d.toJson := denotes_pretty (wellFormed_toJson h)
  constructor
  · exact fun hj => eq_of_denotes hj hd
  · rintro rfl
    exact hd

/-- A document on one line is read like one on many lines. -/
theorem parse?_compact (h : d.Finite) : parse? d.toJson.compact = parse? d.pretty := by
  rw [parse?_of_denotes (denotes_compact (wellFormed_toJson h)),
    parse?_of_denotes ((denotes_pretty_iff h).2 rfl)]

lemma ofJson?_toJson (h : d.Finite) : ofJson? d.toJson = some d :=
  recovers_document (encoded_toJson h)

lemma eq_of_pretty_eq (h : d.Finite) (h' : d'.Finite) (hp : d'.pretty = d.pretty) : d' = d := by
  have hd : Denotes d'.pretty d.toJson := by
    rw [hp]
    exact (denotes_pretty_iff h).2 rfl
  have hj : d.toJson = d'.toJson := (denotes_pretty_iff h').1 hd
  have he := ofJson?_toJson h
  rw [hj, ofJson?_toJson h'] at he
  exact Option.some.inj he

/-- The text of a document with finite floats is a text of JSON, of one tree only. No object of the
tree has a key twice, its members are there, `null` or missing as the format has it, and the
document is read back from it. So different documents have different texts. -/
theorem pretty_faithful (h : d.Finite) :
    (∃ j, (∀ i, Denotes d.pretty i ↔ i = j) ∧ parse? d.pretty = some j ∧ j.WellFormed ∧
      d.Encoded j ∧ ofJson? j = some d) ∧
    ∀ d' : Document, d'.Finite → d'.pretty = d.pretty → d' = d := by
  constructor
  · exact ⟨d.toJson, fun i => denotes_pretty_iff h, parse?_of_denotes ((denotes_pretty_iff h).2 rfl),
      wellFormed_toJson h, encoded_toJson h, ofJson?_toJson h⟩
  · exact fun d' h' hp => eq_of_pretty_eq h h' hp

/-- A document whose names have to be escaped or are beyond the first plane, with a part that is
there and empty. -/
theorem pretty_faithful_escaped : ∃ d : Document,
    d.context.reference.label = "\"\\\n" ∧ d.context.test.label = "\x01𝄞" ∧
    d.context.commonDuration = some 0.1 ∧ d.viewPoints.map (·.timing) = #[some {}] ∧ d.Finite ∧
    ∃ j, parse? d.pretty = some j ∧ ofJson? j = some d := by
  let d : Document := {
    context := { Context.blank "\"\\\n" "\x01𝄞" none with commonDuration := some 0.1 }
    viewPoints := #[{ id := 0, kind := .shortTrack, name := "", timing := some {}, deviations := [] }]
  }
  have h : d.Finite := by decide +kernel
  obtain ⟨j, -, hp, -, -, hj⟩ := (pretty_faithful h).1
  exact ⟨d, rfl, rfl, rfl, by simp [d], h, j, hp, hj⟩

end Document

end ViewPoints
