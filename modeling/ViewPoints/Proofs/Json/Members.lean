import ViewPoints.Document.Rendering
import ViewPoints.Proofs.Json.Numbers

/-!
Reading values out of a tree by the keys of its objects. A member that is missing is told from one
that is `null`.
-/

namespace ViewPoints.Json

variable {α β γ : Type}

/-! ### What a tree holds -/

/-- A value in a written form. -/
def As (f : α → Json) (a : α) (j : Json) : Prop := j = f a

def AsFloat (x : Float) (j : Json) : Prop := Binary.isFinite x = true ∧ j = ofFloat x

def Items (R : α → Json → Prop) (l : List α) (j : Json) : Prop :=
  ∃ items, j = arr items ∧ List.Forall₂ R l items

/-- The entries of a map are members in its order. -/
def Entries (R : α → Json → Prop) (m : SortedMap α) (j : Json) : Prop :=
  ∃ members, j = obj members ∧
    List.Forall₂ (fun e n => n.1 = e.1 ∧ R e.2 n.2) m.entries members

/-- Under a key there is no member, or `null`, or something else that holds a value. -/
def Holds (j : Json) (key : String) (R : α → Json → Prop) : Option (Option α) → Prop
  | none => j.field? key = none
  | some none => j.field? key = some null
  | some (some a) => ∃ i, j.field? key = some i ∧ i ≠ null ∧ R a i

/-- A value is written as something else than `null`. -/
structure Written (f : α → Json) (R : α → Json → Prop) (a : α) : Prop where
  ne_null : f a ≠ null
  holds : R a (f a)

variable {R : α → Json → Prop} {f : α → Json} {j : Json} {key : String}

lemma holds_of_field {v : Option (Option α)} (hf : j.field? key = v.map (ofOption f))
    (h : ∀ a, v = some (some a) → Written f R a) : Holds j key R v := by
  match v with
  | none => exact hf
  | some none => exact hf
  | some (some a) => exact ⟨f a, hf, (h a rfl).ne_null, (h a rfl).holds⟩

lemma written_str (s : String) : Written str (As str) s := ⟨nofun, rfl⟩

lemma written_nat (n : Nat) : Written ofNat (As ofNat) n := ⟨nofun, rfl⟩

lemma written_byte (n : UInt8) : Written ofByte (As ofByte) n := ⟨nofun, rfl⟩

lemma written_float {x : Float} (h : Binary.isFinite x = true) : Written ofFloat AsFloat x := by
  obtain ⟨literal, hx, -⟩ := exists_literal_of_isFinite h
  exact ⟨by rw [hx]; nofun, h, rfl⟩

lemma holds_float {v : Option (Option Float)} (hf : j.field? key = v.map (ofOption ofFloat))
    (h : ∀ x? ∈ v, ∀ x ∈ x?, Binary.isFinite x = true) : Holds j key AsFloat v :=
  holds_of_field hf fun x hx => written_float (h (some x) hx x rfl)

lemma written_items (l : List α) (h : ∀ a ∈ l, R a (f a)) :
    Written (fun l => arr (l.map f)) (Items R) l :=
  ⟨nofun, _, rfl, List.forall₂_map_right_iff.2 (List.forall₂_same.2 h)⟩

lemma written_strings (l : List String) : Written ofStrings (Items (As str)) l :=
  written_items l fun _ _ => rfl

lemma written_map (m : SortedMap α) (h : ∀ e ∈ m.entries, R e.2 (f e.2)) :
    Written (ofMap f) (Entries R) m :=
  ⟨nofun, _, rfl, List.forall₂_map_right_iff.2 (List.forall₂_same.2 fun e he => ⟨rfl, h e he⟩)⟩

/-! ### Readers -/

def string? : Json → Option String
  | str s => some s
  | _ => none

def nat? : Json → Option Nat
  | num literal => literal.toNat?
  | _ => none

def byte? (j : Json) : Option UInt8 := do
  let n ← nat? j
  if n < 256 then some n.toUInt8 else none

open Classical in
/-- The finite float that is written so. -/
noncomputable def float? (j : Json) : Option Float :=
  if h : ∃ x, AsFloat x j then some h.choose else none

def list? (read : Json → Option α) : Json → Option (List α)
  | arr items => items.mapM read
  | _ => none

def map? (read : Json → Option α) : Json → Option (SortedMap α)
  | obj members => do
    let entries ← members.mapM fun m => (read m.2).map fun a => (m.1, a)
    if h : entries.Pairwise fun a b => Text.before a.1 b.1 = true then some ⟨entries, h⟩ else none
  | _ => none

/-- What stands under a key. -/
def member? (read : Json → Option α) (key : String) (j : Json) : Option (Option (Option α)) :=
  match j.field? key with
  | none => some none
  | some null => some (some none)
  | some i => (read i).map fun a => some (some a)

/-- A member that may be `null`. -/
def nullable? (read : Json → Option α) (key : String) (j : Json) : Option (Option α) :=
  (member? read key j).join

/-- A member that is neither missing nor `null`. -/
def required? (read : Json → Option α) (key : String) (j : Json) : Option α :=
  (nullable? read key j).join

/-- A member that may be missing. -/
def optional? (read : Json → Option α) (key : String) (j : Json) : Option (Option α) :=
  match member? read key j with
  | some none => some none
  | some (some (some a)) => some (some a)
  | _ => none

/-- Two members that are missing together or there together. -/
def both? (f : α → β → γ) : Option α → Option β → Option (Option γ)
  | none, none => some none
  | some a, some b => some (some (f a b))
  | _, _ => none

/-- What is held is read. -/
def Recovers (read : Json → Option α) (R : α → Json → Prop) : Prop :=
  ∀ ⦃a j⦄, R a j → read j = some a

lemma recovers_string : Recovers string? (As str) := by
  rintro s _ rfl
  rfl

lemma recovers_nat : Recovers nat? (As ofNat) := by
  rintro n _ rfl
  exact Nat.toNat?_repr n

lemma recovers_byte : Recovers byte? (As ofByte) := by
  rintro n _ rfl
  have hn : n.toNat < 256 := n.toNat_lt
  have hr : nat? (ofByte n) = some n.toNat := recovers_nat rfl
  simp [byte?, hr, hn]

lemma recovers_float : Recovers float? AsFloat := by
  intro x j h
  have he : ∃ y, AsFloat y j := ⟨x, h⟩
  have hy := he.choose_spec
  rw [float?, dif_pos he, ofFloat_inj hy.1 h.1 (hy.2.symm.trans h.2)]

variable {read : Json → Option α}

lemma mapM_eq_of_forall₂ {δ : Type} {read : δ → Option α} {S : α → δ → Prop}
    (hr : ∀ ⦃a d⦄, S a d → read d = some a) {l : List α} {ds : List δ} (h : List.Forall₂ S l ds) :
    ds.mapM read = some l := by
  induction h with
  | nil => rfl
  | cons h _ ih => simp [hr h, ih]

lemma recovers_list (hr : Recovers read R) : Recovers (list? read) (Items R) := by
  rintro l _ ⟨items, rfl, h⟩
  exact mapM_eq_of_forall₂ hr h

lemma recovers_map (hr : Recovers read R) : Recovers (map? read) (Entries R) := by
  rintro m _ ⟨members, rfl, h⟩
  have he : (members.mapM fun n => (read n.2).map fun a => (n.1, a)) = some m.entries := by
    refine mapM_eq_of_forall₂ ?_ h
    rintro ⟨key, a⟩ ⟨_, i⟩ ⟨rfl, hi⟩
    simp [hr hi]
  simp [map?, he, m.sorted]

namespace Holds

lemma member? (hr : Recovers read R) {v : Option (Option α)} (h : Holds j key R v) :
    member? read key j = some v := by
  match v, h with
  | none, h => simp [Json.member?, show j.field? key = none from h]
  | some none, h => simp [Json.member?, show j.field? key = some null from h]
  | some (some a), ⟨i, hf, hn, hi⟩ =>
    cases i with
    | null => exact absurd rfl hn
    | _ => simp [Json.member?, hf, hr hi]

lemma nullable? (hr : Recovers read R) {a? : Option α} (h : Holds j key R (some a?)) :
    nullable? read key j = some a? := by
  rw [Json.nullable?, h.member? hr]
  rfl

lemma required? (hr : Recovers read R) {a : α} (h : Holds j key R (some (some a))) :
    required? read key j = some a := by
  rw [Json.required?, h.nullable? hr]
  rfl

lemma optional? (hr : Recovers read R) {a? : Option α} (h : Holds j key R (a?.map some)) :
    optional? read key j = some a? := by
  rw [Json.optional?, h.member? hr]
  cases a? <;> rfl

end Holds

@[simp] lemma both?_map (f : α → β → γ) {g : γ → α} {g' : γ → β} (h : ∀ c, f (g c) (g' c) = c)
    (c? : Option γ) : both? f (c?.map g) (c?.map g') = some c? := by
  cases c? <;> simp [both?, h]

end ViewPoints.Json
