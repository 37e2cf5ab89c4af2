import Mathlib.Data.List.Dedup
import Mathlib.Data.List.Induction
import ViewPoints.Proofs.Document.Rendering

/-!
Track numbers that are set one after the other. A tracker has the number that was set last for its
very name, and the numbers stand in the byte order of their keys, in the filters and in their text.
-/

namespace ViewPoints

namespace Filters

/-- Sets numbers one after the other, each for the name of a tracker. -/
def setAll (f : Filters) (calls : List (String × String)) : Filters :=
  calls.foldl (fun f c => f.setTrackNumber c.1 c.2) f

/-- Filters in which no number was set yet. -/
def fresh (f : Filters) : Filters := { f with trackNumbers := .empty }

/-- The number of the last call for a name. -/
def LastSet (calls : List (String × String)) (name : String) : Option String → Prop
  | some value => ∃ u w, calls = u ++ (name, value) :: w ∧ ∀ c ∈ w, c.1 ≠ name
  | none => ∀ c ∈ calls, c.1 ≠ name

variable {f g : Filters} {calls calls' : List (String × String)} {name : String}
  {value? value?' : Option String}

@[simp] lemma setAll_concat (f : Filters) (calls : List (String × String)) (c : String × String) :
    f.setAll (calls ++ [c]) = (f.setAll calls).setTrackNumber c.1 c.2 := by
  rw [setAll, List.foldl_append]
  rfl

/-! ### The last call -/

lemma LastSet.concat (h : LastSet calls name value?) (c : String × String) :
    LastSet (calls ++ [c]) name (if name = c.1 then some c.2 else value?) := by
  split_ifs with hc
  · exact ⟨calls, [], by rw [hc], List.forall_mem_nil _⟩
  · have hne : c.1 ≠ name := fun he => hc he.symm
    cases value? with
    | none => exact List.forall_mem_append.2 ⟨h, List.forall_mem_singleton.2 hne⟩
    | some value =>
      obtain ⟨u, w, rfl, hw⟩ := h
      refine ⟨u, w ++ [c], by simp, ?_⟩
      exact List.forall_mem_append.2 ⟨hw, List.forall_mem_singleton.2 hne⟩

/-- A call sets the number of its own name and of no other. -/
lemma trackNumber_setTrackNumber (f : Filters) (tracker value name : String) :
    (f.setTrackNumber tracker value).trackNumber name =
      if name = tracker then some value else f.trackNumber name := by
  split_ifs with h
  · rw [h, trackNumber_setTrackNumber_self]
  · exact trackNumber_setTrackNumber_of_ne f value h

lemma lastSet_trackNumber (f : Filters) (calls : List (String × String)) (name : String) :
    LastSet calls name ((f.fresh.setAll calls).trackNumber name) := by
  induction calls using List.reverseRecOn with
  | nil => exact List.forall_mem_nil _
  | append_singleton calls c ih =>
    rw [setAll_concat, trackNumber_setTrackNumber]
    exact ih.concat c

/-- The last call is the one at the end, or another one before it. -/
lemma LastSet.of_concat {c : String × String} (h : LastSet (calls ++ [c]) name value?) :
    value? = some c.2 ∧ c.1 = name ∨ c.1 ≠ name ∧ LastSet calls name value? := by
  cases value? with
  | none =>
    obtain ⟨hcalls, hc⟩ := List.forall_mem_append.1 h
    exact .inr ⟨hc c List.mem_cons_self, hcalls⟩
  | some value =>
    obtain ⟨u, w, he, hw⟩ := h
    rcases List.eq_nil_or_concat w with rfl | ⟨w, d, rfl⟩
    · obtain ⟨rfl, hc⟩ := List.append_inj' he rfl
      obtain rfl := List.cons.inj hc |>.1
      exact .inl ⟨rfl, rfl⟩
    · rw [List.concat_eq_append, ← List.cons_append, ← List.append_assoc] at he
      obtain ⟨rfl, hc⟩ := List.append_inj' he rfl
      obtain rfl := List.cons.inj hc |>.1
      exact .inr ⟨hw c (by simp), u, w, rfl, fun d hd => hw d (by simp [hd])⟩

/-- There is only one last call. -/
lemma LastSet.unique (h : LastSet calls name value?) (h' : LastSet calls name value?') :
    value? = value?' := by
  induction calls using List.reverseRecOn generalizing value? value?' with
  | nil =>
    have key {v? : Option String} (h : LastSet [] name v?) : v? = none := by
      cases v? with
      | none => rfl
      | some v =>
        obtain ⟨u, w, he, -⟩ := h
        simp at he
    rw [key h, key h']
  | append_singleton calls c ih =>
    rcases h.of_concat with ⟨rfl, hc⟩ | ⟨hc, h⟩ <;>
      rcases h'.of_concat with ⟨rfl, hc'⟩ | ⟨hc', h'⟩
    · rfl
    · exact absurd hc hc'
    · exact absurd hc' hc
    · exact ih h h'

/-- Calls for different names may be made in any order. -/
lemma LastSet.perm (hp : calls.Perm calls') (hn : (calls.map Prod.fst).Nodup)
    (h : LastSet calls name value?) : LastSet calls' name value? := by
  cases value? with
  | none => exact fun c hc => h c (hp.mem_iff.2 hc)
  | some value =>
    obtain ⟨u, w, rfl, -⟩ := h
    obtain ⟨u', w', rfl⟩ := List.append_of_mem (hp.mem_iff.1 (List.mem_append_cons_self))
    refine ⟨u', w', rfl, fun c hc he => ?_⟩
    have hn' := (hp.map Prod.fst).nodup_iff.1 hn
    rw [List.map_append, List.map_cons] at hn'
    exact (List.nodup_cons.1 hn'.of_append_right).1 (List.mem_map.2 ⟨c, hc, he⟩)

lemma trackNumber_setAll_of_ne {c : String × String} (h : name ≠ c.1) (f : Filters)
    (u v : List (String × String)) :
    (f.setAll (u ++ c :: v)).trackNumber name = (f.setAll (u ++ v)).trackNumber name := by
  induction v using List.reverseRecOn with
  | nil => rw [setAll_concat, List.append_nil, trackNumber_setTrackNumber_of_ne _ _ h]
  | append_singleton v d ih =>
    rw [← List.cons_append, ← List.append_assoc, ← List.append_assoc, setAll_concat, setAll_concat,
      trackNumber_setTrackNumber, trackNumber_setTrackNumber, ih]

/-! ### Keys -/

lemma mem_keys_setAll {key : String} (f : Filters) (calls : List (String × String)) :
    key ∈ (f.fresh.setAll calls).trackNumbers.keys ↔ ∃ c ∈ calls, key = trackKey c.1 := by
  induction calls using List.reverseRecOn with
  | nil => simp [setAll, fresh]
  | append_singleton calls c ih =>
    rw [setAll_concat, setTrackNumber, SortedMap.mem_keys_insert, ih]
    simp only [List.mem_append, List.mem_singleton, or_and_right, exists_or, exists_eq_left]
    exact or_comm

/-- There is one key for each name. -/
lemma perm_keys_setAll (f : Filters) (calls : List (String × String)) :
    (f.fresh.setAll calls).trackNumbers.keys.Perm ((calls.map Prod.fst).dedup.map trackKey) := by
  have hinj : Function.Injective trackKey := fun _ _ => trackKey_inj
  rw [List.perm_ext_iff_of_nodup (SortedMap.nodup_keys _) ((List.nodup_dedup _).map hinj)]
  intro key
  rw [mem_keys_setAll]
  simp [eq_comm]

lemma size_setAll (f : Filters) (calls : List (String × String)) :
    (f.fresh.setAll calls).trackNumbers.size = (calls.map Prod.fst).dedup.length := by
  have h := (perm_keys_setAll f calls).length_eq
  rwa [SortedMap.keys, List.length_map, List.length_map] at h

/-- What is left out is as it was. -/
lemma setAll_eq (f : Filters) (calls : List (String × String)) :
    f.setAll calls = { f with trackNumbers := (f.setAll calls).trackNumbers } := by
  induction calls using List.reverseRecOn with
  | nil => rfl
  | append_singleton calls c ih =>
    rw [setAll_concat, ih]
    rfl

/-- Filters are known by the last calls, in whatever order the calls were made. -/
lemma setAll_congr (f : Filters)
    (h : ∀ name value?, LastSet calls name value? → LastSet calls' name value?) :
    f.fresh.setAll calls = f.fresh.setAll calls' := by
  have hname (name : String) : (f.fresh.setAll calls).trackNumber name =
      (f.fresh.setAll calls').trackNumber name :=
    (h name _ (lastSet_trackNumber f calls name)).unique (lastSet_trackNumber f calls' name)
  have hnumbers : (f.fresh.setAll calls).trackNumbers = (f.fresh.setAll calls').trackNumbers := by
    refine SortedMap.eq_of_get? fun key => ?_
    by_cases hk : ∃ name, key = trackKey name
    · obtain ⟨name, rfl⟩ := hk
      exact hname name
    · -- no call makes such a key
      have none (calls : List (String × String)) :
          (f.fresh.setAll calls).trackNumbers.get? key = .none := by
        rw [← Option.not_isSome_iff_eq_none, ← SortedMap.mem_keys_iff, mem_keys_setAll]
        rintro ⟨c, -, hc⟩
        exact hk ⟨c.1, hc⟩
      rw [none, none]
  rw [setAll_eq f.fresh calls, setAll_eq f.fresh calls', hnumbers]

/-! ### The text -/

/-- The text of filters, as it stands at a depth of the text of a document. -/
def textAt (depth : ℕ) (f : Filters) : String := .ofList (f.toJson.write .pretty depth)

/-- The text holds the numbers under their keys, in the order of the filters. -/
lemma exists_members (depth : ℕ) (f : Filters) : ∃ j members, Json.Denotes (f.textAt depth) j ∧
    j.field? "Tracker Track Number" = some (.obj members) ∧
      members = f.trackNumbers.entries.map fun e => (e.1, .str e.2) := by
  refine ⟨f.toJson, _, ?_, ?_, rfl⟩
  · have hs := Json.spells_write Json.spaced_pretty f.wellFormed_toJson depth
    have hd := Json.Spells.spaced Json.gap_nil hs Json.gap_nil
    rw [Json.Denotes, textAt, String.toList_ofList]
    simpa using hd
  · obtain ⟨timeOfDay, trackNumbers, mode3A, targetAddress⟩ := f
    cases timeOfDay <;> rfl

/-! ### Sequences of calls -/

/-- Filters hold what was set last for each name, one entry for each name in the byte order of the
keys, and so does their text. -/
structure Records (calls : List (String × String)) (f : Filters) : Prop where
  last : ∀ name, LastSet calls name (f.trackNumber name)
  size : f.trackNumbers.size = (calls.map Prod.fst).dedup.length
  keys : f.trackNumbers.keys.Perm ((calls.map Prod.fst).dedup.map trackKey)
  ascending : Ascending f.trackNumbers.keys
  written : ∀ depth, ∃ j members, Json.Denotes (f.textAt depth) j ∧
    j.field? "Tracker Track Number" = some (.obj members) ∧
      members = (f.trackNumbers.entries.map fun e => (e.1, .str e.2)) ∧
        Ascending (members.map Prod.fst)

lemma records_setAll (f : Filters) (calls : List (String × String)) :
    Records calls (f.fresh.setAll calls) := by
  constructor
  case last => exact lastSet_trackNumber f calls
  case size => exact size_setAll f calls
  case keys => exact perm_keys_setAll f calls
  case ascending => exact SortedMap.ascending_keys _
  case written =>
    intro depth
    obtain ⟨j, members, hd, hf, rfl⟩ := exists_members depth (f.fresh.setAll calls)
    refine ⟨j, _, hd, hf, rfl, ?_⟩
    rw [List.map_map]
    exact SortedMap.ascending_keys _

/-- After any calls the filters record the last of each name. No two names have one key, whatever
stands in them, so a call is without effect on all names but its own. The order of the calls
matters only as far as it changes which of them are the last. -/
theorem records_last_calls (f : Filters) (calls : List (String × String)) :
    Records calls (f.fresh.setAll calls) ∧ (∀ a b, trackKey a = trackKey b ↔ a = b) ∧
      (∀ u v c name, calls = u ++ c :: v → name ≠ c.1 →
        (f.fresh.setAll calls).trackNumber name = (f.fresh.setAll (u ++ v)).trackNumber name) ∧
      ∀ calls', (∀ name value?, LastSet calls name value? → LastSet calls' name value?) →
        f.fresh.setAll calls' = f.fresh.setAll calls := by
  refine ⟨records_setAll f calls, fun a b => ⟨trackKey_inj, congrArg trackKey⟩, ?_, ?_⟩
  · rintro u v c name rfl h
    exact trackNumber_setAll_of_ne h f.fresh u v
  · exact fun calls' h => (setAll_congr f h).symm

/-- One name ends in what is added to the other one to make its key. The number that it was given
first is lost, the other one stays, and the calls may be made the other way round. -/
theorem records_last_calls_suffix : ∃ g : Filters,
    g = ({} : Filters).fresh.setAll
      [("A track_num", "1"), ("A", "2"), ("A track_num", "3")] ∧
    g.trackNumber "A" = some "2" ∧ g.trackNumber "A track_num" = some "3" ∧
    Records [("A track_num", "1"), ("A", "2"), ("A track_num", "3")] g ∧
    g.trackNumber "A" = (({} : Filters).fresh.setAll
      [("A", "2"), ("A track_num", "3")]).trackNumber "A" ∧
    ({} : Filters).fresh.setAll [("A track_num", "3"), ("A", "2")] =
      ({} : Filters).fresh.setAll [("A", "2"), ("A track_num", "3")] := by
  obtain ⟨hr, -, hother, -⟩ :=
    records_last_calls {} [("A track_num", "1"), ("A", "2"), ("A track_num", "3")]
  obtain ⟨-, -, -, horder⟩ := records_last_calls {} [("A", "2"), ("A track_num", "3")]
  refine ⟨_, rfl, by decide +kernel, by decide +kernel, hr, hother [] _ _ "A" rfl (by decide), ?_⟩
  exact horder _ fun name value? h => h.perm (.swap ..) (by decide)

end Filters

end ViewPoints
