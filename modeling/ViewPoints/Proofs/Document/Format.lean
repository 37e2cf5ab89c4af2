import ViewPoints.Proofs.Json.Members

/-!
The tree of a document, by the keys of its objects, and how a document is read back from it.
-/

namespace ViewPoints

open Json (As AsFloat Items Entries Recovers ofByte ofNat string? nat? byte? float? list? map?)

/-! ### Kinds -/

def ViewPointKind.all : List ViewPointKind :=
  [.clear, .single, .multiple].flatMap (fun d => [.unmatched .reference d, .unmatched .test d]) ++
  .shortTrack ::
  [.modeOfFlight, .climbRate, .modeC, .position, .velocity, .wgs, .acceleration, .baroAltitude,
    .geomAltitude, .heading, .status, .mode3A, .mode2].map .content

def ViewPointKind.ofLabel? (label : String) : Option ViewPointKind :=
  all.find? fun kind => kind.label == label

/-- No two kinds have one label. -/
lemma ViewPointKind.ofLabel?_label (kind : ViewPointKind) : ofLabel? kind.label = some kind := by
  cases kind with
  | unmatched owner d => cases owner <;> cases d <;> decide +kernel
  | shortTrack => decide +kernel
  | content kind => cases kind <;> decide +kernel

/-! ### The tree of a document -/

/-- The times of the offset are missing when it is, and `null` when they are unknown. -/
structure Dataset.Encoded (d : Dataset) (j : Json) : Prop where
  name : j.Holds "name" (As .str) (some (some d.name))
  label : j.Holds "ds_name" (As .str) (some (some d.label))
  filename : j.Holds "filename" (As .str) (some d.filename)
  timeOffset : j.Holds "time_offset" AsFloat (d.timeOffset.map (·.mean))
  offsetDeviation : j.Holds "time_offset_stddev" AsFloat (d.timeOffset.map (·.deviation))
  sac : j.Holds "ds_sac" (As ofByte) (some d.sac)
  sic : j.Holds "ds_sic" (As ofByte) (some d.sic)
  timeStart : j.Holds "time_start" AsFloat (some d.timeStart)
  timeEnd : j.Holds "time_end" AsFloat (some d.timeEnd)
  duration : j.Holds "duration" AsFloat (some d.duration)
  sacOverride : j.Holds "ds_sac_override" (As ofByte) ((d.sensorOverride.map (·.sac)).map some)
  sicOverride : j.Holds "ds_sic_override" (As ofByte) ((d.sensorOverride.map (·.sic)).map some)

structure Context.Encoded (c : Context) (j : Json) : Prop where
  version : j.Holds "version" (As .str) (some (some c.version))
  aocVersion : j.Holds "aoc_version" (As .str) (some c.aocVersion)
  startDate : j.Holds "start_date" (As .str) (c.startDate.map some)
  timeNow : j.Holds "time_now" (As .str) (some c.timeNow)
  commonDuration : j.Holds "common_time_duration" AsFloat (c.commonDuration.map some)
  datasets : j.Holds "datasets" (Items Dataset.Encoded) (some (some [c.reference, c.test]))

structure TimeOfDay.Encoded (t : TimeOfDay) (j : Json) : Prop where
  minimum : j.Holds "Time of Day Minimum" (As .str) (some t.minimum)
  maximum : j.Holds "Time of Day Maximum" (As .str) (some t.maximum)

/-- An object with a text under one key. -/
def Json.TextUnder (key : String) (s : String) (j : Json) : Prop :=
  j.Holds key (As .str) (some (some s))

open Json (TextUnder)

structure Filters.Encoded (f : Filters) (j : Json) : Prop where
  timeOfDay : j.Holds "Time of Day" TimeOfDay.Encoded (f.timeOfDay.map some)
  trackNumbers : j.Holds "Tracker Track Number" (Entries (As .str)) (some (some f.trackNumbers))
  mode3A : j.Holds "Mode 3/A Codes" (TextUnder "Mode 3/A Codes Values") (f.mode3A.map some)
  targetAddress :
    j.Holds "Target Address" (TextUnder "Target Address Values") (f.targetAddress.map some)

structure ViewPoint.Encoded (v : ViewPoint) (j : Json) : Prop where
  id : j.Holds "id" (As ofNat) (some (some v.id))
  kind : j.Holds "type" (As fun kind => .str kind.label) (some (some v.kind))
  name : j.Holds "name" (As .str) (some (some v.name))
  text : j.Holds "text" (As .str) (some v.text)
  time : j.Holds "time" AsFloat (v.timing.map (·.time))
  window : j.Holds "time_window" AsFloat (v.timing.map (·.window))
  dbObjects : j.Holds "db_objects" (Items (As .str)) (some (some v.dbObjects))
  filters : j.Holds "filters" Filters.Encoded (some (some v.filters))
  deviations : j.Holds "deviations" (Items (As .str)) (some (some v.deviations))
  contextVariables :
    j.Holds "context_variables" (Entries (Items (As .str))) (v.contextVariables.map some)

structure Document.Encoded (d : Document) (j : Json) : Prop where
  context : j.Holds "view_point_context" Context.Encoded (some (some d.context))
  viewPoints : j.Holds "view_points" (Items ViewPoint.Encoded) (some (some d.viewPoints.toList))

/-! ### Reading -/

noncomputable def Dataset.ofJson? (j : Json) : Option Dataset := do
  let name ← j.required? string? "name"
  let label ← j.required? string? "ds_name"
  let filename ← j.nullable? string? "filename"
  let mean ← j.member? float? "time_offset"
  let deviation ← j.member? float? "time_offset_stddev"
  let timeOffset ← Json.both? TimeOffset.mk mean deviation
  let sac ← j.nullable? byte? "ds_sac"
  let sic ← j.nullable? byte? "ds_sic"
  let timeStart ← j.nullable? float? "time_start"
  let timeEnd ← j.nullable? float? "time_end"
  let duration ← j.nullable? float? "duration"
  let sacOverride ← j.optional? byte? "ds_sac_override"
  let sicOverride ← j.optional? byte? "ds_sic_override"
  let sensorOverride ← Json.both? SensorIdentity.mk sacOverride sicOverride
  return ⟨name, label, filename, timeOffset, sac, sic, timeStart, timeEnd, duration,
    sensorOverride⟩

noncomputable def Context.ofJson? (j : Json) : Option Context := do
  let version ← j.required? string? "version"
  let aocVersion ← j.nullable? string? "aoc_version"
  let startDate ← j.optional? string? "start_date"
  let timeNow ← j.nullable? string? "time_now"
  let commonDuration ← j.optional? float? "common_time_duration"
  let [reference, test] ← j.required? (list? Dataset.ofJson?) "datasets" | none
  return ⟨version, aocVersion, startDate, timeNow, commonDuration, reference, test⟩

def TimeOfDay.ofJson? (j : Json) : Option TimeOfDay := do
  let minimum ← j.nullable? string? "Time of Day Minimum"
  let maximum ← j.nullable? string? "Time of Day Maximum"
  return ⟨minimum, maximum⟩

def Filters.ofJson? (j : Json) : Option Filters := do
  let timeOfDay ← j.optional? TimeOfDay.ofJson? "Time of Day"
  let trackNumbers ← j.required? (map? string?) "Tracker Track Number"
  let mode3A ← j.optional? (Json.required? string? "Mode 3/A Codes Values") "Mode 3/A Codes"
  let targetAddress ← j.optional? (Json.required? string? "Target Address Values") "Target Address"
  return ⟨timeOfDay, trackNumbers, mode3A, targetAddress⟩

noncomputable def ViewPoint.ofJson? (j : Json) : Option ViewPoint := do
  let id ← j.required? nat? "id"
  let kind ← j.required? (fun i => (string? i).bind ViewPointKind.ofLabel?) "type"
  let name ← j.required? string? "name"
  let text ← j.nullable? string? "text"
  let time ← j.member? float? "time"
  let window ← j.member? float? "time_window"
  let timing ← Json.both? Timing.mk time window
  let dbObjects ← j.required? (list? string?) "db_objects"
  let filters ← j.required? Filters.ofJson? "filters"
  let deviations ← j.required? (list? string?) "deviations"
  let contextVariables ← j.optional? (map? (list? string?)) "context_variables"
  return ⟨id, kind, name, text, timing, dbObjects, filters, deviations, contextVariables⟩

noncomputable def Document.ofJson? (j : Json) : Option Document := do
  let context ← j.required? Context.ofJson? "view_point_context"
  let viewPoints ← j.required? (list? ViewPoint.ofJson?) "view_points"
  return ⟨context, viewPoints.toArray⟩

open Json (recovers_string recovers_nat recovers_byte recovers_float recovers_list recovers_map)

lemma recovers_dataset : Recovers Dataset.ofJson? Dataset.Encoded := by
  intro d j h
  simp [Dataset.ofJson?, h.name.required? recovers_string, h.label.required? recovers_string,
    h.filename.nullable? recovers_string, h.timeOffset.member? recovers_float,
    h.offsetDeviation.member? recovers_float, h.sac.nullable? recovers_byte,
    h.sic.nullable? recovers_byte, h.timeStart.nullable? recovers_float,
    h.timeEnd.nullable? recovers_float, h.duration.nullable? recovers_float,
    h.sacOverride.optional? recovers_byte, h.sicOverride.optional? recovers_byte]

lemma recovers_context : Recovers Context.ofJson? Context.Encoded := by
  intro c j h
  simp [Context.ofJson?, h.version.required? recovers_string, h.aocVersion.nullable? recovers_string,
    h.startDate.optional? recovers_string, h.timeNow.nullable? recovers_string,
    h.commonDuration.optional? recovers_float, h.datasets.required? (recovers_list recovers_dataset)]

lemma recovers_timeOfDay : Recovers TimeOfDay.ofJson? TimeOfDay.Encoded := by
  intro t j h
  simp [TimeOfDay.ofJson?, h.minimum.nullable? recovers_string, h.maximum.nullable? recovers_string]

lemma recovers_textUnder (key : String) :
    Recovers (Json.required? string? key) (TextUnder key) :=
  fun _ _ h => h.required? recovers_string

lemma recovers_filters : Recovers Filters.ofJson? Filters.Encoded := by
  intro f j h
  simp [Filters.ofJson?, h.timeOfDay.optional? recovers_timeOfDay,
    h.trackNumbers.required? (recovers_map recovers_string), h.mode3A.optional? (recovers_textUnder _),
    h.targetAddress.optional? (recovers_textUnder _)]

lemma recovers_kind : Recovers (fun i => (string? i).bind ViewPointKind.ofLabel?)
    (As fun kind => .str kind.label) := by
  rintro kind _ rfl
  exact ViewPointKind.ofLabel?_label kind

lemma recovers_viewPoint : Recovers ViewPoint.ofJson? ViewPoint.Encoded := by
  intro v j h
  simp [ViewPoint.ofJson?, h.id.required? recovers_nat, h.kind.required? recovers_kind,
    h.name.required? recovers_string, h.text.nullable? recovers_string, h.time.member? recovers_float,
    h.window.member? recovers_float, h.dbObjects.required? (recovers_list recovers_string),
    h.filters.required? recovers_filters, h.deviations.required? (recovers_list recovers_string),
    h.contextVariables.optional? (recovers_map (recovers_list recovers_string))]

/-- A document is read from its tree. -/
theorem recovers_document : Recovers Document.ofJson? Document.Encoded := by
  intro d j h
  simp [Document.ofJson?, h.context.required? recovers_context,
    h.viewPoints.required? (recovers_list recovers_viewPoint)]

end ViewPoints
