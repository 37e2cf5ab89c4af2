import Mathlib.Data.List.Forall2

/-!
When a computation that may fail succeeds, and with what.
-/

namespace ViewPoints

variable {α β γ ε : Type}

@[simp] lemma ok_map (a : α) (f : α → β) : (Except.ok a : Except ε α).map f = .ok (f a) := rfl

@[simp] lemma error_map (e : ε) (f : α → β) : (Except.error e : Except ε α).map f = .error e := rfl

@[simp] lemma ok_bind (a : α) (f : α → Except ε β) :
    (Except.ok a : Except ε α).bind f = f a := rfl

@[simp] lemma error_bind (e : ε) (f : α → Except ε β) :
    (Except.error e : Except ε α).bind f = .error e := rfl

lemma map_eq_ok_iff {x : Except ε α} {f : α → β} {b : β} :
    x.map f = .ok b ↔ ∃ a, x = .ok a ∧ f a = b := by
  cases x <;> simp [Except.map]

lemma bind_eq_ok_iff {x : Except ε α} {f : α → Except ε β} {b : β} :
    x.bind f = .ok b ↔ ∃ a, x = .ok a ∧ f a = .ok b := by
  cases x <;> simp [Except.bind]

lemma map_eq_error_iff {x : Except ε α} {f : α → β} {e : ε} :
    x.map f = .error e ↔ x = .error e := by
  cases x <;> simp [Except.map]

lemma bind_eq_error_iff {x : Except ε α} {f : α → Except ε β} {e : ε} :
    x.bind f = .error e ↔ x = .error e ∨ ∃ a, x = .ok a ∧ f a = .error e := by
  cases x <;> simp [Except.bind]

lemma toOption_eq_some_iff {x : Except ε α} {a : α} : x.toOption = some a ↔ x = .ok a := by
  cases x <;> simp [Except.toOption]

/-- What a closed computation yields is found by computing the part of it that can be compared. -/
lemma exists_ok_of_toOption {x : Except ε α} {f : α → β} {b : β}
    (h : x.toOption.map f = some b) : ∃ a, x = .ok a ∧ f a = b := by
  cases x with
  | error e => simp [Except.toOption] at h
  | ok a => exact ⟨a, rfl, Option.some.inj h⟩

lemma map_congr_ok {x : Except ε α} {f g : α → β} (h : ∀ a, x = .ok a → f a = g a) :
    x.map f = x.map g := by
  cases x with
  | error => rfl
  | ok a => rw [Except.map, Except.map, h a rfl]

lemma map_map (x : Except ε α) (f : α → β) (g : β → γ) :
    (x.map f).map g = x.map fun a => g (f a) := by
  cases x <;> rfl

lemma map_bind (x : Except ε α) (f : α → β) (g : β → Except ε γ) :
    (x.map f).bind g = x.bind fun a => g (f a) := by
  cases x <;> rfl

lemma bind_map (x : Except ε α) (f : α → Except ε β) (g : β → γ) :
    (x.bind f).map g = x.bind fun a => (f a).map g := by
  cases x <;> rfl

lemma bind_bind (x : Except ε α) (f : α → Except ε β) (g : β → Except ε γ) :
    (x.bind f).bind g = x.bind fun a => (f a).bind g := by
  cases x <;> rfl

lemma bind_congr_ok {x : Except ε α} {f g : α → Except ε β} (h : ∀ a, x = .ok a → f a = g a) :
    x.bind f = x.bind g := by
  cases x with
  | error => rfl
  | ok a => exact h a rfl

/-- What takes in each of some inputs, if it could be had at all, has had them all when it
succeeds. -/
lemma exists_inputs_of_foldlM {f : β → α → Except ε β} {l : List (Except ε α)} {b b' : β}
    (h : l.foldlM (fun b x => x.bind (f b)) b = .ok b') : ∃ m : List α, l = m.map .ok := by
  induction l generalizing b with
  | nil => exact ⟨[], rfl⟩
  | cons x l ih =>
    obtain ⟨c, hc, hl⟩ := bind_eq_ok_iff.1 h
    obtain ⟨a, rfl, -⟩ := bind_eq_ok_iff.1 hc
    obtain ⟨m, rfl⟩ := ih hl
    exact ⟨a :: m, rfl⟩

/-- The inputs before the first one that could not be had. -/
def legible : List (Except ε α) → List α
  | .ok a :: l => a :: legible l
  | _ => []

@[simp] lemma legible_nil : legible ([] : List (Except ε α)) = [] := rfl

@[simp] lemma legible_ok (a : α) (l : List (Except ε α)) : legible (.ok a :: l) = a :: legible l :=
  rfl

@[simp] lemma legible_error (e : ε) (l : List (Except ε α)) : legible (.error e :: l) = [] := rfl

@[simp] lemma legible_append (u : List α) (l : List (Except ε α)) :
    legible (u.map .ok ++ l) = u ++ legible l := by
  induction u with
  | nil => rfl
  | cons a u ih => rw [List.map_cons, List.cons_append, legible_ok, ih, List.cons_append]

/-- Two scans of the same inputs that cannot be told apart by what `g` shows of a state, whatever
the input is, cannot be told apart in the end. -/
lemma map_foldlM_congr {f f' : β → α → Except ε β} {g : β → γ}
    (h : ∀ b b' a, g b = g b' → (f b a).map g = (f' b' a).map g) (l : List α) {b b' : β}
    (hb : g b = g b') : (l.foldlM f b).map g = (l.foldlM f' b').map g := by
  induction l generalizing b b' with
  | nil => exact congrArg Except.ok hb
  | cons a l ih =>
    have ha := h b b' a hb
    change ((f b a).bind _).map g = ((f' b' a).bind _).map g
    cases hf : f b a <;> cases hf' : f' b' a <;> rw [hf, hf'] at ha
    case error.error e e' =>
      obtain rfl := Except.error.inj ha
      rfl
    case error.ok => simp at ha
    case ok.error => simp at ha
    case ok.ok c c' => exact ih (Except.ok.inj ha)

/-- If one step comes to the same in two forms of the state, so do all steps. -/
lemma foldlM_of_step {f : β → α → Except ε β} {f' : γ → α → Except ε γ} {g : β → γ}
    (h : ∀ b a, f' (g b) a = (f b a).map g) (l : List α) (b : β) :
    l.foldlM f' (g b) = (l.foldlM f b).map g := by
  induction l generalizing b with
  | nil => rfl
  | cons a l ih =>
    change (f' (g b) a).bind _ = ((f b a).bind _).map g
    rw [h, map_bind, bind_map]
    exact bind_congr_ok fun c _ => ih c

lemma mapM_cons_eq (f : α → Except ε β) (a : α) (l : List α) :
    (a :: l).mapM f = (f a).bind fun b => (l.mapM f).map (b :: ·) := by
  rw [List.mapM_cons]
  cases f a with
  | error => rfl
  | ok b => cases l.mapM f <;> rfl

/-- The traversal of a list succeeds when each of its members does. -/
lemma mapM_eq_ok_iff {f : α → Except ε β} {l : List α} {m : List β} :
    l.mapM f = .ok m ↔ List.Forall₂ (fun a b => f a = .ok b) l m := by
  induction l generalizing m with
  | nil => simp [pure, Except.pure, eq_comm]
  | cons a l ih =>
    rw [mapM_cons_eq, List.forall₂_cons_left_iff, bind_eq_ok_iff]
    simp only [map_eq_ok_iff, ih]
    constructor
    · rintro ⟨b, ha, m, hm, rfl⟩
      exact ⟨b, m, ha, hm, rfl⟩
    · rintro ⟨b, m, ha, hm, rfl⟩
      exact ⟨b, ha, m, hm, rfl⟩

/-! ### Failures -/

/-- How a computation failed, if it did. -/
def failure? : Except ε α → Option ε
  | .error e => some e
  | .ok _ => none

@[simp] lemma failure?_ok (a : α) : failure? (Except.ok a : Except ε α) = none := rfl

@[simp] lemma failure?_error (e : ε) : failure? (Except.error e : Except ε α) = some e := rfl

lemma failure?_eq_some_iff {x : Except ε α} {e : ε} : failure? x = some e ↔ x = .error e := by
  cases x <;> simp

@[simp] lemma failure?_map (x : Except ε α) (f : α → β) : failure? (x.map f) = failure? x := by
  cases x <;> rfl

/-- If the second of two computations fails in one way whatever the first one yields, then so do
both together unless the first one fails. -/
lemma failure?_bind {x : Except ε α} {f : α → Except ε β} {e? : Option ε}
    (h : ∀ a, x = .ok a → failure? (f a) = e?) : failure? (x.bind f) = (failure? x).or e? := by
  cases x with
  | error => rfl
  | ok a => exact h a rfl

/-- A traversal fails like the first of its members that fails. -/
lemma failure?_mapM (f : α → Except ε β) (l : List α) :
    failure? (l.mapM f) = (l.filterMap fun a => failure? (f a)).head? := by
  induction l with
  | nil => rfl
  | cons a l ih =>
    have hl : ∀ b, f a = .ok b → failure? ((l.mapM f).map (b :: ·)) = failure? (l.mapM f) :=
      fun b _ => failure?_map ..
    rw [mapM_cons_eq, List.filterMap_cons, failure?_bind hl, ih]
    cases failure? (f a) <;> rfl

end ViewPoints
