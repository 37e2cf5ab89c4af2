import ViewPoints.Document.ViewPoint
import ViewPoints.Json.Printer

/-!
Documents and their JSON form. Members have a fixed order, map entries that of their keys.
Some fields are left out when they are unknown, others are written as `null`: each type says
which.
-/

namespace ViewPoints

structure Document where
  context : Context
  viewPoints : Array ViewPoint := #[]
  deriving DecidableEq

namespace Json

def ofByte (n : UInt8) : Json := ofNat n.toNat

def ofMap {α : Type} (f : α → Json) (m : SortedMap α) : Json :=
  obj (m.entries.map fun e => (e.1, f e.2))

end Json

open Json (ofOption ofStrings ofFloat ofByte ofMap)

/-- Both members are written, or neither when the offset as a whole is absent. -/
def TimeOffset.members (o : TimeOffset) : List (String × Json) :=
  [("time_offset", ofOption ofFloat o.mean), ("time_offset_stddev", ofOption ofFloat o.deviation)]

def SensorIdentity.overrideMembers (i : SensorIdentity) : List (String × Json) :=
  [("ds_sac_override", ofByte i.sac), ("ds_sic_override", ofByte i.sic)]

def Timing.members (t : Timing) : List (String × Json) :=
  [("time", ofOption ofFloat t.time), ("time_window", ofOption ofFloat t.window)]

/-- The members of a part, none when it is absent. -/
def membersOf {α : Type} (f : α → List (String × Json)) : Option α → List (String × Json)
  | some a => f a
  | none => []

def Dataset.toJson (d : Dataset) : Json :=
  .obj <|
    [("name", .str d.name), ("ds_name", .str d.label), ("filename", ofOption .str d.filename)] ++
    membersOf TimeOffset.members d.timeOffset ++
    [("ds_sac", ofOption ofByte d.sac), ("ds_sic", ofOption ofByte d.sic),
      ("time_start", ofOption ofFloat d.timeStart), ("time_end", ofOption ofFloat d.timeEnd),
      ("duration", ofOption ofFloat d.duration)] ++
    membersOf SensorIdentity.overrideMembers d.sensorOverride

def Context.toJson (c : Context) : Json :=
  .obj <|
    [("version", .str c.version), ("aoc_version", ofOption .str c.aocVersion)] ++
    Json.optional "start_date" .str c.startDate ++
    [("time_now", ofOption .str c.timeNow)] ++
    Json.optional "common_time_duration" ofFloat c.commonDuration ++
    [("datasets", .arr [c.reference.toJson, c.test.toJson])]

def TimeOfDay.toJson (t : TimeOfDay) : Json :=
  .obj [("Time of Day Minimum", ofOption .str t.minimum),
    ("Time of Day Maximum", ofOption .str t.maximum)]

def Filters.toJson (f : Filters) : Json :=
  .obj <|
    Json.optional "Time of Day" TimeOfDay.toJson f.timeOfDay ++
    [("Tracker Track Number", ofMap .str f.trackNumbers)] ++
    Json.optional "Mode 3/A Codes" (fun v => .obj [("Mode 3/A Codes Values", .str v)]) f.mode3A ++
    Json.optional "Target Address" (fun v => .obj [("Target Address Values", .str v)])
      f.targetAddress

def ViewPoint.toJson (v : ViewPoint) : Json :=
  .obj <|
    [("id", .ofNat v.id), ("type", .str v.kind.label), ("name", .str v.name),
      ("text", ofOption .str v.text)] ++
    membersOf Timing.members v.timing ++
    [("db_objects", ofStrings v.dbObjects), ("filters", v.filters.toJson),
      ("deviations", ofStrings v.deviations)] ++
    Json.optional "context_variables" (ofMap ofStrings) v.contextVariables

namespace Document

def toJson (d : Document) : Json :=
  .obj [("view_point_context", d.context.toJson),
    ("view_points", .arr (d.viewPoints.toList.map ViewPoint.toJson))]

def pretty (d : Document) : String := d.toJson.pretty

/-- The document of a comparison of which nothing is known but the names and the date. -/
def blank (reference test : String) (startDate : Option String) : Document where
  context := .blank reference test startDate

end Document

end ViewPoints
