import ViewPoints.Proofs.RunLog.Step
import ViewPoints.Proofs.Stamp.Search
import ViewPoints.Proofs.Stamp.Seconds

/-!
The window and the duration that a line of a run log tells. The window is the first one on the
line, and the duration the first stamp between blanks. Both are told in seconds.
-/

namespace ViewPoints.RunLog

open Pattern

/-! ### Windows and stamps on a line -/

/-- A stamp between blanks, of which the end of the line may be the second. -/
def FreeAt (s : List Char) (x : String) : Prop :=
  ∃ b r, s = b :: (x.toList ++ r) ∧ Text.isBlank b = true ∧ Stamp.Fits Text.isDigit x.toList ∧
    ∀ c ∈ r.head?, Text.isBlank c = true

/-- A window with this start and this end. -/
def WindowAt (s : List Char) (w : String × String) : Prop :=
  ∃ b₁ b₂ b₃ b₄ r, s = w.1.toList ++ (b₁ ++ ("UTC".toList ++ (b₂ ++ ("...".toList ++ (b₃ ++
      (w.2.toList ++ (b₄ ++ ("UTC".toList ++ r)))))))) ∧
    Stamp.Fits Text.isDigit w.1.toList ∧ Stamp.Fits Text.isDigit w.2.toList ∧
    ∀ b ∈ [b₁, b₂, b₃, b₄], Text.OfClass Text.isBlank b

lemma finds_duration : Finds durationPhrase FreeAt fun x => [x] where
  reads := by
    rintro s x ⟨b, r, rfl, hb, hx, hr⟩
    have hend : ∃ r', Prefers (either (one Text.isBlank) textEnd) r [] r' := by
      cases r with
      | nil =>
        exact ⟨[], .right (fun g r hm => by cases hm) fun β gs k b hk => by simpa using hk⟩
      | cons c r => exact ⟨r, .left (prefers_one (by simpa using hr) r)⟩
    obtain ⟨r', hend⟩ := hend
    exact ⟨r', ((prefers_one hb _).reads.append (Stamp.prefers_shape hx r).reads_group).append
      hend.reads⟩
  places := by
    intro s g r hm
    rw [durationPhrase] at hm
    obtain ⟨t, _, _, hm, he, -⟩ := matches_append_iff.1 hm
    obtain ⟨x, hx, _, hone, -⟩ := Stamp.matches_append_shape_iff.1 hm
    obtain ⟨b, hb, -, rfl⟩ := matches_one_iff.1 hone
    refine ⟨x, b, t, rfl, hb, hx, ?_⟩
    cases he with
    | left he =>
      obtain ⟨c, hc, -, rfl⟩ := matches_one_iff.1 he
      simpa using hc
    | right he =>
      cases he
      simp

lemma finds_window : Finds windowPhrase WindowAt fun w => [w.1, w.2] where
  reads := by
    rintro s w ⟨b₁, b₂, b₃, b₄, r, rfl, hx, hy, hb⟩
    simp only [List.forall_mem_cons] at hb
    obtain ⟨hb₁, hb₂, hb₃, hb₄, -⟩ := hb
    obtain ⟨c, hc, hd⟩ := hy.exists_head
    have hsolid : Text.isBlank c = false := by simpa [Text.isSolid] using Text.isSolid_of_isDigit hd
    have hdigit : (w.2.toList ++ (b₄ ++ ("UTC".toList ++ r))).head? = some c := by
      rw [List.head?_append, hc]
      rfl
    exact ⟨r, (Stamp.prefers_shape hx _).reads_group |>.blanks hb₁ rfl |>.lit "UTC"
      |>.blanks hb₂ rfl |>.lit "..." |>.blanks hb₃ hdigit hsolid
      |>.append (Stamp.prefers_shape hy _).reads_group |>.blanks hb₄ rfl |>.lit "UTC"⟩
  places := by
    intro s g r hm
    simp only [windowPhrase, blanks, matches_append_many_iff, matches_append_lit_iff,
      Stamp.matches_append_shape_iff, Stamp.matches_group_shape_iff] at hm
    obtain ⟨b₄, hb₄, y, hy, _, ⟨b₃, hb₃, b₂, hb₂, b₁, hb₁, x, hx, rfl, -⟩, -⟩ := hm
    exact ⟨(x, y), b₁, b₂, b₃, b₄, r, rfl, hx, hy, by simp [hb₁, hb₂, hb₃, hb₄]⟩

/-! ### What is read first -/

variable {line : String}

lemma window_eq_some_iff {w : String × String} :
    window? line = some w ↔ First WindowAt line.toList w := by
  have hr : window? line = some w ↔ windowPhrase.read line = some [w.1, w.2] := by
    unfold window?
    split
    next x y hl => simp [hl, Prod.ext_iff]
    next hn => simpa using fun hl => hn _ _ hl
  rw [hr, finds_window.read_eq_some_iff]
  constructor
  · rintro ⟨w', hw, he⟩
    obtain rfl : w' = w := by simpa [Prod.ext_iff] using he
    exact hw
  · exact fun hw => ⟨w, hw, rfl⟩

lemma duration_eq_some_iff {x : String} :
    duration? line = some x ↔ First FreeAt line.toList x := by
  have hr : duration? line = some x ↔ ∃ y, First FreeAt line.toList y ∧ [y].head? = some x := by
    rw [duration?, Option.bind_eq_some_iff]
    simp only [finds_duration.read_eq_some_iff]
    constructor
    · rintro ⟨_, ⟨y, hy, rfl⟩, hx⟩
      exact ⟨y, hy, hx⟩
    · rintro ⟨y, hy, hx⟩
      exact ⟨[y], ⟨y, hy, rfl⟩, hx⟩
  simpa using hr

/-! ### What is told -/

namespace Attribute

variable {α β : Type} {A : Attribute α β} {phase : Phase} {side : Side}

lemma told_eq_some_iff {a : α} : A.told phase side line = some a ↔
    phase = .loading side ∧ Text.mentions line A.marker = true ∧ A.read line = some a := by
  rw [told, Option.ite_none_right_eq_some, and_assoc]

theorem told_window_iff {w : String × String} : window.told phase side line = some w ↔
    phase = .loading side ∧ Text.mentions line "Time of Updates:" = true ∧
      First WindowAt line.toList w := by
  rw [told_eq_some_iff, ← window_eq_some_iff]
  rfl

theorem told_duration_iff {x : String} : duration.told phase side line = some x ↔
    phase = .loading side ∧ Text.mentions line "Duration:" = true ∧ First FreeAt line.toList x := by
  rw [told_eq_some_iff, ← duration_eq_some_iff]
  rfl

/-- Both ends of a window are told in seconds. -/
lemma becomes_window {old new : Option Window} {w : String × String}
    (h : window.Becomes old (some w) new) : ∃ a b x y, Stamp.read w.1 = .ok a ∧
      Stamp.read w.2 = .ok b ∧ new = some ⟨x, y⟩ ∧ a.InSeconds x ∧ b.InSeconds y := by
  obtain ⟨v, hv, rfl⟩ := h
  obtain ⟨a, ha, hv⟩ := bind_eq_ok_iff.1 hv
  obtain ⟨b, hb, rfl⟩ := map_eq_ok_iff.1 hv
  exact ⟨a, b, _, _, ha, hb, rfl, (Stamp.inRange_of_read ha).inSeconds,
    (Stamp.inRange_of_read hb).inSeconds⟩

lemma becomes_duration {old new : Option Float} {stamp : String}
    (h : duration.Becomes old (some stamp) new) :
    ∃ d x, Stamp.read stamp = .ok d ∧ new = some x ∧ d.InSeconds x := by
  obtain ⟨x, hx, rfl⟩ := h
  obtain ⟨d, hd, rfl⟩ := map_eq_ok_iff.1 hx
  exact ⟨d, _, hd, rfl, (Stamp.inRange_of_read hd).inSeconds⟩

end Attribute

end ViewPoints.RunLog
