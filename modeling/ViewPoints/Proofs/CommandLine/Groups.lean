import Mathlib.Data.List.Induction
import ViewPoints.CommandLine.Program
import ViewPoints.Proofs.CommandLine.Arguments

/-!
Arguments as groups that are read one by one: an option with its value, or a switch. What stands
behind the groups ends the reading. Of the groups that make one setting only the last one counts, so
the order in which different settings are made does not matter.
-/

namespace ViewPoints.CommandLine

/-! ### Groups -/

/-- The settings that have a value. -/
inductive Key where
  | helper
  | runLog
  | output
  | startDate
  | reference
  | test
  deriving DecidableEq

def Key.option : Key → String
  | helper => "-ah"
  | runLog => "-ao"
  | output => "-o"
  | startDate => "-sd"
  | reference => "-r"
  | test => "-t"

/-- All that can be set. -/
inductive Setting where
  | value (k : Key)
  | summary
  | color
  deriving DecidableEq

/-- What makes a setting: an option with its value, or a switch. -/
inductive Group where
  | value (k : Key) (v : String)
  | summary
  | color (on : Bool)
  deriving DecidableEq

namespace Group

def words : Group → List String
  | value k v => [k.option, v]
  | summary => ["--summary"]
  | color true => ["--color"]
  | color false => ["--no-color"]

/-- Both switches for colour make the same setting. -/
def setting : Group → Setting
  | value k _ => .value k
  | summary => .summary
  | color _ => .color

def value? : Group → Option String
  | value _ v => some v
  | _ => none

def color? : Group → Option Bool
  | color on => some on
  | _ => none

end Group

/-! ### The last group of a setting -/

def lastOf (s : Setting) (gs : List Group) : Option Group :=
  (gs.filter fun g => g.setting = s).getLast?

def lastValue (k : Key) (gs : List Group) : Option String :=
  (lastOf (.value k) gs).bind Group.value?

variable {gs gs' u v : List Group} {g : Group} {s : Setting}

@[simp] lemma lastOf_concat (s : Setting) (gs : List Group) (g : Group) :
    lastOf s (gs ++ [g]) = if g.setting = s then some g else lastOf s gs := by
  unfold lastOf
  split_ifs with h <;> simp [h]

/-- What groups set. What they do not set is as it is by default. -/
def drafted (terminal : Bool) (gs : List Group) : Draft where
  helper := lastValue .helper gs
  runLog := lastValue .runLog gs
  output := (lastValue .output gs).getD "aoc_view_points.json"
  options := {
    trackers := {
      reference := (lastValue .reference gs).getD "REF"
      test := (lastValue .test gs).getD "TST" }
    startDate := lastValue .startDate gs }
  summary := (lastOf .summary gs).isSome
  color := ((lastOf .color gs).bind Group.color?).getD terminal

namespace Draft

variable {a : String} {rest : List String}

def set (d : Draft) : Group → Draft
  | .value .helper v => { d with helper := some v }
  | .value .runLog v => { d with runLog := some v }
  | .value .output v => { d with output := v }
  | .value .startDate v => d.setStartDate v
  | .value .reference v => d.setReference v
  | .value .test v => d.setTest v
  | .summary => { d with summary := true }
  | .color on => { d with color := on }

lemma read_words (d : Draft) (g : Group) (rest : List String) :
    d.read (g.words ++ rest) = (d.set g).read rest := by
  cases g with
  | value k v => cases k <;> rfl
  | summary => rfl
  | color on => cases on <;> rfl

end Draft

/-- The report on arguments that are wrong. -/
def refusal (e : UsageError) : Report := { exitCode := 2, stderr := e.message ++ "\n" }

variable {m : Type → Type} [Monad m]

/-- How a run goes on when it has read some groups, by what is left of the arguments. -/
inductive Ends (files : FileAccess m) (terminal : Bool) (gs : List Group) :
    List String → m Report → Prop where
  | help {a : String} (rest : List String) (h : a ∈ ["-h", "--help"]) :
    Ends files terminal gs (a :: rest) (pure { exitCode := 0, stdout := helpText ++ "\n" })
  | version {a : String} (rest : List String) (h : a ∈ ["-V", "--version"]) :
    Ends files terminal gs (a :: rest) (pure { exitCode := 0, stdout := versionText ++ "\n" })
  | unknown {a : String} (rest : List String)
    (h : a ∉ ["-h", "--help", "-V", "--version"] ++ forSummary ++ valued) :
    Ends files terminal gs (a :: rest) (pure (refusal (.unknown a)))
  | valueless (k : Key) : Ends files terminal gs [k.option] (pure (refusal (.missingValue k.option)))
  | noHelper (h : lastValue .helper gs = none) :
    Ends files terminal gs [] (pure (refusal .missingHelper))
  | noRunLog {helper : String} (hh : lastValue .helper gs = some helper)
    (hr : lastValue .runLog gs = none) : Ends files terminal gs [] (pure (refusal .missingRunLog))
  | convert {helper runLog : String} (s : Settings) (hh : lastValue .helper gs = some helper)
    (hr : lastValue .runLog gs = some runLog)
    (hs : s = ⟨helper, runLog, (drafted terminal gs).output, (drafted terminal gs).options,
      (drafted terminal gs).summary, (drafted terminal gs).color⟩) :
    Ends files terminal gs [] (do return report s (← convertFiles files s))

variable {files : FileAccess m} {terminal : Bool} {rest : List String} {x : m Report}

end ViewPoints.CommandLine
