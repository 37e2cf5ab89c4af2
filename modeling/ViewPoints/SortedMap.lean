import ViewPoints.Text.ByteOrder

/-!
Maps from texts, kept in ascending byte order of their keys. Two maps with the same entries
are equal.
-/

namespace ViewPoints

structure SortedMap (α : Type) where
  entries : List (String × α)
  sorted : entries.Pairwise fun a b => Text.before a.1 b.1 = true := by simp

namespace SortedMap

variable {α : Type}

theorem ext {m n : SortedMap α} (h : m.entries = n.entries) : m = n := by
  cases m; cases n; cases h; rfl

instance [DecidableEq α] : DecidableEq (SortedMap α) := fun m n =>
  decidable_of_iff (m.entries = n.entries) ⟨ext, congrArg entries⟩

def empty : SortedMap α where
  entries := []

def single (key : String) (value : α) : SortedMap α where
  entries := [(key, value)]

def keys (m : SortedMap α) : List String := m.entries.map Prod.fst

def size (m : SortedMap α) : Nat := m.entries.length

def get? (m : SortedMap α) (key : String) : Option α := m.entries.lookup key

/-- Puts an entry in its place; an entry of the same key gives way. -/
def put (key : String) (value : α) : List (String × α) → List (String × α)
  | [] => [(key, value)]
  | e :: es =>
    if Text.before key e.1 then (key, value) :: e :: es
    else if Text.before e.1 key then e :: put key value es
    else (key, value) :: es

theorem mem_put {key : String} {value : α} {es : List (String × α)} {e : String × α}
    (h : e ∈ put key value es) : e = (key, value) ∨ e ∈ es := by
  induction es with
  | nil => simpa [put] using h
  | cons d es ih =>
    simp only [put] at h
    split at h
    · simpa using h
    · split at h
      · rcases List.mem_cons.1 h with rfl | h
        · exact .inr (by simp)
        · rcases ih h with rfl | h
          · exact .inl rfl
          · exact .inr (by simp [h])
      · rcases List.mem_cons.1 h with rfl | h
        · exact .inl rfl
        · exact .inr (by simp [h])

theorem sorted_put {key : String} {value : α} {es : List (String × α)}
    (h : es.Pairwise fun a b => Text.before a.1 b.1 = true) :
    (put key value es).Pairwise fun a b => Text.before a.1 b.1 = true := by
  induction es with
  | nil => simp [put]
  | cons d es ih =>
    obtain ⟨hd, hes⟩ := List.pairwise_cons.1 h
    simp only [put]
    split
    next hk =>
      refine List.pairwise_cons.2 ⟨fun e he => ?_, h⟩
      rcases List.mem_cons.1 he with rfl | he
      · exact hk
      · exact Text.before_trans hk (hd e he)
    next hk =>
      split
      next hk' =>
        refine List.pairwise_cons.2 ⟨fun e he => ?_, ih hes⟩
        rcases mem_put he with rfl | he
        · exact hk'
        · exact hd e he
      next hk' =>
        have : key = d.1 := Text.before_total (by simpa using hk) (by simpa using hk')
        subst this
        exact List.pairwise_cons.2 ⟨hd, hes⟩

def insert (m : SortedMap α) (key : String) (value : α) : SortedMap α where
  entries := put key value m.entries
  sorted := sorted_put m.sorted

/-- The entry of a key, made from the one it had. -/
def alter (m : SortedMap α) (key : String) (f : Option α → α) : SortedMap α :=
  m.insert key (f (m.get? key))

def ofList (l : List (String × α)) : SortedMap α :=
  l.foldl (fun m e => m.insert e.1 e.2) empty

@[simp] theorem get?_empty (key : String) : (empty : SortedMap α).get? key = none := rfl

@[simp] theorem get?_insert_self (m : SortedMap α) (key : String) (value : α) :
    (m.insert key value).get? key = some value := by
  simp only [get?, insert]
  generalize m.entries = es
  induction es with
  | nil => simp [put]
  | cons d es ih =>
    obtain ⟨dk, dv⟩ := d
    simp only [put]
    split
    · simp
    · split
      next hk =>
        have : (key == dk) = false := by
          rw [beq_eq_false_iff_ne]
          rintro rfl
          simp [Text.before_irrefl] at hk
        simp [List.lookup_cons, this, ih]
      · simp

theorem get?_insert_of_ne (m : SortedMap α) {key other : String} (value : α) (h : other ≠ key) :
    (m.insert key value).get? other = m.get? other := by
  have hb : (other == key) = false := beq_eq_false_iff_ne.2 h
  simp only [get?, insert]
  generalize m.entries = es
  induction es with
  | nil => simp [put, List.lookup_cons, hb]
  | cons d es ih =>
    obtain ⟨dk, dv⟩ := d
    simp only [put]
    split
    · simp [List.lookup_cons, hb]
    next hk =>
      split
      · simp [List.lookup_cons, ih]
      next hk' =>
        have : key = dk := Text.before_total (by simpa using hk) (by simpa using hk')
        subst this
        simp [List.lookup_cons, hb]

theorem mem_keys_iff {m : SortedMap α} {key : String} :
    key ∈ m.keys ↔ (m.get? key).isSome = true := by
  simp only [keys, get?, List.mem_map, List.lookup_isSome_iff, beq_iff_eq]
  exact exists_congr fun e => and_congr_right fun _ => eq_comm

@[simp] theorem keys_empty : (empty : SortedMap α).keys = [] := rfl

@[simp] theorem mem_keys_insert {m : SortedMap α} {key other : String} {value : α} :
    other ∈ (m.insert key value).keys ↔ other = key ∨ other ∈ m.keys := by
  rw [mem_keys_iff, mem_keys_iff]
  by_cases h : other = key
  · subst h
    simp
  · rw [get?_insert_of_ne m value h]
    simp [h]

theorem mem_keys_ofList {l : List (String × α)} {key : String} :
    key ∈ (ofList l).keys ↔ key ∈ l.map Prod.fst := by
  have hfold (m : SortedMap α) : key ∈ (l.foldl (fun m e => m.insert e.1 e.2) m).keys ↔
      key ∈ m.keys ∨ key ∈ l.map Prod.fst := by
    induction l generalizing m with
    | nil => simp
    | cons e l ih =>
      rw [List.foldl_cons, ih, mem_keys_insert, List.map_cons, List.mem_cons]
      rw [or_assoc, or_left_comm]
  have h := hfold .empty
  rwa [keys_empty, List.mem_nil_iff, false_or] at h

end SortedMap

end ViewPoints
