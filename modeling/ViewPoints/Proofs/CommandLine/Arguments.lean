import Mathlib.Data.List.Basic
import ViewPoints.CommandLine.Arguments
import ViewPoints.Proofs.Success

/-!
Arguments with and without the switches. A switch changes nothing but how a summary is shown,
wherever it stands; an argument of the same text that is the value of an option is no switch.
-/

namespace ViewPoints.CommandLine

/-- The options that only the summary knows. They take no value. -/
def forSummary : List String := ["--summary", "--color", "--no-color"]

/-- The options that take the next argument for their value. -/
def valued : List String := ["-ah", "-ao", "-o", "-sd", "-r", "-t"]

/-- The arguments without the switches. A value stays what it is. -/
def withoutSwitches : List String → List String
  | [] => []
  | [a] => if a ∈ forSummary then [] else [a]
  | a :: v :: rest =>
    if a ∈ forSummary then withoutSwitches (v :: rest)
    else if a ∈ valued then a :: v :: withoutSwitches rest
    else a :: withoutSwitches (v :: rest)

/-- What is asked for, apart from the summary. -/
def Settings.bare (s : Settings) : Settings := { s with summary := false, color := false }

def Request.bare : Request → Request
  | convert s => convert s.bare
  | help => help
  | version => version

namespace Draft

def bare (d : Draft) : Draft := { d with summary := false, color := false }

variable {d d' : Draft} {a : String}

lemma meaning_of_forSummary (h : a ∈ forSummary) :
    ∃ f, meaning a = .switch f ∧ ∀ d, (f d).bare = d.bare := by
  simp only [forSummary, List.mem_cons, List.not_mem_nil, or_false] at h
  rcases h with rfl | rfl | rfl <;> exact ⟨_, rfl, fun _ => rfl⟩

lemma meaning_of_valued (h : a ∈ valued) :
    ∃ f, meaning a = .setting f ∧ ∀ d v, (f d v).bare = f d.bare v := by
  simp only [valued, List.mem_cons, List.not_mem_nil, or_false] at h
  rcases h with rfl | rfl | rfl | rfl | rfl | rfl <;> exact ⟨_, rfl, fun _ _ => rfl⟩

/-- Any other argument ends the reading. -/
lemma meaning_of_not_mem (hs : a ∉ forSummary) (hv : a ∉ valued) :
    (∃ r, meaning a = .request r) ∨ meaning a = .unknown := by
  have hls : switches.lookup a = none := by
    have hm : ∀ e ∈ switches, e.1 ∈ forSummary := by simp [switches, forSummary]
    exact List.lookup_eq_none_iff.2 fun e he => by simpa using fun h : a = e.1 => hs (h ▸ hm e he)
  have hlv : settings.lookup a = none := by
    have hm : ∀ e ∈ settings, e.1 ∈ valued := by simp [settings, valued]
    exact List.lookup_eq_none_iff.2 fun e he => by simpa using fun h : a = e.1 => hv (h ▸ hm e he)
  unfold meaning
  split
  next => exact .inl ⟨_, rfl⟩
  next =>
    split
    next => exact .inl ⟨_, rfl⟩
    next => simp [hls, hlv]

lemma finish_bare (h : d.bare = d'.bare) :
    d.finish.map Request.bare = d'.finish.map Request.bare := by
  have hb (d : Draft) : d.finish.map Request.bare = d.bare.finish.map Request.bare := by
    cases d with
    | mk helper runLog => cases helper <;> cases runLog <;> rfl
  rw [hb d, hb d', h]

lemma read_of_not_mem (hs : a ∉ forSummary) (hv : a ∉ valued) (rest rest' : List String) :
    (d.read (a :: rest)).map Request.bare = (d'.read (a :: rest')).map Request.bare := by
  rcases meaning_of_not_mem hs hv with ⟨r, hm⟩ | hm
  all_goals rw [read, read, hm]

/-- Reading arguments comes to the same without the switches. -/
lemma read_withoutSwitches (args : List String) (h : d.bare = d'.bare) :
    (d.read args).map Request.bare = (d'.read (withoutSwitches args)).map Request.bare := by
  induction args using withoutSwitches.induct generalizing d d' with
  | case1 => exact finish_bare h
  | case2 a hs =>
    obtain ⟨f, hm, hf⟩ := meaning_of_forSummary hs
    rw [withoutSwitches, if_pos hs, read, read, hm]
    exact finish_bare ((hf d).trans h)
  | case3 a hs =>
    rw [withoutSwitches, if_neg hs]
    by_cases hv : a ∈ valued
    · obtain ⟨f, hm, -⟩ := meaning_of_valued hv
      rw [read, read, hm]
    · exact read_of_not_mem hs hv [] []
  | case4 a v rest hs ih =>
    obtain ⟨f, hm, hf⟩ := meaning_of_forSummary hs
    rw [withoutSwitches, if_pos hs, read, hm]
    exact ih ((hf d).trans h)
  | case5 a v rest hs hv ih =>
    obtain ⟨f, hm, hf⟩ := meaning_of_valued hv
    rw [withoutSwitches, if_neg hs, if_pos hv, read, read, hm]
    exact ih (by rw [hf, hf, h])
  | case6 a v rest hs hv =>
    rw [withoutSwitches, if_neg hs, if_neg hv]
    exact read_of_not_mem hs hv _ _

end Draft

end ViewPoints.CommandLine
