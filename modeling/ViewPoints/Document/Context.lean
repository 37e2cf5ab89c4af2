import ViewPoints.Stamp

/-!
What a document says of the two compared runs.
-/

namespace ViewPoints

inductive Side where
  | reference
  | test
  deriving DecidableEq

def Side.opposite : Side → Side
  | reference => test
  | test => reference

/-- The two bytes that name a data source. -/
structure SensorIdentity where
  sac : UInt8
  sic : UInt8
  deriving DecidableEq

/-- The next identity of the same area, to tell two equal sources apart. -/
def SensorIdentity.disambiguated (i : SensorIdentity) : SensorIdentity :=
  { i with sic := i.sic + 1 }

/-- The clock of the test run against that of the reference run. -/
structure TimeOffset where
  mean : Option Float := none
  deviation : Option Float := none
  deriving DecidableEq

structure Dataset where
  name : String
  label : String
  filename : Option String := none
  timeOffset : Option TimeOffset := none
  sac : Option UInt8 := none
  sic : Option UInt8 := none
  timeStart : Option Float := none
  timeEnd : Option Float := none
  duration : Option Float := none
  sensorOverride : Option SensorIdentity := none
  deriving DecidableEq

namespace Dataset

/-- The identity, once both halves are known. -/
def sensorIdentity (d : Dataset) : Option SensorIdentity :=
  match d.sac, d.sic with
  | some sac, some sic => some ⟨sac, sic⟩
  | _, _ => none

def setSensorIdentity (d : Dataset) (i : SensorIdentity) : Dataset :=
  { d with sac := some i.sac, sic := some i.sic }

/-- The time window, once both ends are known. -/
def window (d : Dataset) : Option Window :=
  match d.timeStart, d.timeEnd with
  | some start, some stop => some ⟨start, stop⟩
  | _, _ => none

@[simp] theorem sensorIdentity_setSensorIdentity (d : Dataset) (i : SensorIdentity) :
    (d.setSensorIdentity i).sensorIdentity = some i := rfl

end Dataset

structure Context where
  version : String := "0.1"
  aocVersion : Option String := none
  startDate : Option String := none
  timeNow : Option String := none
  commonDuration : Option Float := none
  reference : Dataset
  test : Dataset
  deriving DecidableEq

namespace Context

def dataset (c : Context) : Side → Dataset
  | .reference => c.reference
  | .test => c.test

def update (c : Context) (side : Side) (f : Dataset → Dataset) : Context :=
  match side with
  | .reference => { c with reference := f c.reference }
  | .test => { c with test := f c.test }

@[simp] theorem dataset_update (c : Context) (side : Side) (f : Dataset → Dataset) :
    (c.update side f).dataset side = f (c.dataset side) := by
  cases side <;> rfl

@[simp] theorem dataset_update_opposite (c : Context) (side : Side) (f : Dataset → Dataset) :
    (c.update side f).dataset side.opposite = c.dataset side.opposite := by
  cases side <;> rfl

/-- The context before anything is known. Only the test run has a clock offset to be found. -/
def blank (reference test : String) (startDate : Option String) : Context where
  startDate := startDate
  reference := { name := "reference_run", label := reference }
  test := { name := "test_run", label := test, timeOffset := some {} }

end Context

end ViewPoints
