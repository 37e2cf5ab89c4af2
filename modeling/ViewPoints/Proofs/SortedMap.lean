import Mathlib.Data.List.Nodup
import ViewPoints.SortedMap

/-!
Sorted maps by what they hold. The keys ascend, so a map is known by the values of its keys.
-/

namespace ViewPoints

/-- Keys in strictly ascending byte order. -/
def Ascending (keys : List String) : Prop := keys.Pairwise fun a b => Text.before a b = true

namespace SortedMap

variable {α : Type} {m n : SortedMap α} {key : String} {value : α}

lemma ascending_keys (m : SortedMap α) : Ascending m.keys :=
  m.sorted.map Prod.fst fun _ _ h => h

/-- No key comes before itself. -/
lemma nodup_keys (m : SortedMap α) : m.keys.Nodup := by
  refine List.Pairwise.map Prod.fst (fun a b h he => ?_) m.sorted
  simp [he, Text.before_irrefl] at h

lemma nodup_entries (m : SortedMap α) : m.entries.Nodup :=
  m.nodup_keys.of_map Prod.fst

lemma mem_entries_iff : (key, value) ∈ m.entries ↔ m.get? key = some value := by
  rw [get?, List.lookup_eq_some_iff]
  constructor
  · intro h
    obtain ⟨u, w, he⟩ := List.append_of_mem h
    have hsorted := m.sorted
    rw [he] at hsorted
    have hbefore := (List.pairwise_append.1 hsorted).2.2
    refine ⟨u, w, he, fun e hu => bne_iff_ne.2 ?_⟩
    rintro rfl
    have hlt := hbefore e hu _ List.mem_cons_self
    rw [Text.before_irrefl] at hlt
    cases hlt
  · rintro ⟨u, w, he, -⟩
    simp [he]

/-- Entries have no order of their own: maps that hold the same are equal. -/
lemma eq_of_get? (h : ∀ key, m.get? key = n.get? key) : m = n := by
  have hperm : m.entries.Perm n.entries := by
    rw [List.perm_ext_iff_of_nodup m.nodup_entries n.nodup_entries]
    rintro ⟨key, value⟩
    rw [mem_entries_iff, mem_entries_iff, h]
  refine ext (hperm.eq_of_pairwise (fun a b _ _ hab hba => ?_) m.sorted n.sorted)
  rw [Text.before_asymm hab] at hba
  cases hba

lemma get?_alter (m : SortedMap α) (key : String) (f : Option α → α) (other : String) :
    (m.alter key f).get? other = if other = key then some (f (m.get? key)) else m.get? other := by
  split_ifs with h
  · rw [h, alter, get?_insert_self]
  · exact get?_insert_of_ne m _ h

end SortedMap

end ViewPoints
