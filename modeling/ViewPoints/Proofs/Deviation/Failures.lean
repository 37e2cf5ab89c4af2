import ViewPoints.Deviation.Kind
import ViewPoints.Deviation.ShortTrack
import ViewPoints.Proofs.Stamp.Form
import ViewPoints.Proofs.Success

/-!
How deviations fail to be read: only by a stamp, when everything else about them was recognised.
-/

namespace ViewPoints

variable {t : Trackers} {e : Failure}

/-! ### Contents -/

namespace Content

open Stamp Pattern

variable {h : Header} {b : Block} {text : String}

/-- The earliest and the latest stamp are among those that they are chosen from. -/
lemma mem_of_span? {l : List String} {first last : String} (h : span? l = some (first, last)) :
    first ∈ l ∧ last ∈ l := by
  have among (better : String → String → Bool) (s : String) (stamps : List String) :
      stamps.foldl (fun a b => if better a b then b else a) s ∈ s :: stamps := by
    induction stamps generalizing s with
    | nil => simp
    | cons d stamps ih =>
      rw [List.foldl_cons]
      split
      next => exact List.mem_cons_of_mem _ (ih d)
      next =>
        rcases List.mem_cons.1 (ih s) with h | h
        · rw [h]
          exact List.mem_cons_self
        · exact List.mem_cons_of_mem _ (List.mem_cons_of_mem _ h)
  cases l with
  | nil => simp [span?] at h
  | cons s stamps =>
    obtain ⟨rfl, rfl⟩ := Prod.mk.inj (Option.some.inj h)
    exact ⟨among (fun a b => Text.before b a) s stamps, among Text.before s stamps⟩

lemma unreadable_of_timeSpan (h : timeSpan text = .error e) :
    ∃ stamp, Unreadable text stamp ∧ e = .malformedTime stamp := by
  unfold timeSpan at h
  split at h
  next => simp at h
  next first last hs =>
    have found {stamp : String} (hm : stamp ∈ bracketed.readAll text) : Captured text stamp shape :=
      captured_of_mem_readAll hm rfl rfl
    obtain ⟨hf, hl⟩ := mem_of_span? hs
    rw [map_eq_error_iff] at h
    rcases bind_eq_error_iff.1 h with h | ⟨_, -, h⟩
    · exact ⟨last, unreadable_of_captured (found hl) h⟩
    · rcases bind_eq_error_iff.1 h with h | ⟨_, -, h⟩
      · exact ⟨first, unreadable_of_captured (found hf) h⟩
      · simp [pure, Except.pure] at h

/-- A block of which all is recognised that makes it a deviation in contents: the header, the kind,
the preamble and the clause. -/
def Recognized (b : Block) : Prop :=
  ∃ h testTrack testPart referenceTrack referencePart stamp word kind payload,
    b.header = some h ∧ DeviationKind.ofBlock? h b = some .contents ∧
      preamble.read b.text =
        some [testTrack, testPart, referenceTrack, referencePart, stamp, word] ∧
      clause? h b.text word = some (.ok (kind, payload))

lemma captured_of_preamble {testTrack testPart referenceTrack referencePart stamp word : String}
    (h : preamble.read text =
      some [testTrack, testPart, referenceTrack, referencePart, stamp, word]) :
    Captured text stamp shape := by
  have hc : List.Forall₂ (Captured text) _ [digits, digits, digits, digits, shape, words] :=
    captured_of_read h rfl
  simp only [List.forall₂_cons] at hc
  obtain ⟨-, -, -, -, hs, -⟩ := hc
  exact hs

lemma unreadable_of_viewPoint {s : Subject} {kind : ContentKind} {payload : String}
    (hc : Captured text s.stamp shape) (hv : viewPoint t h text s kind payload = .error e) :
    ∃ stamp, Unreadable text stamp ∧ e = .malformedTime stamp := by
  rcases bind_eq_error_iff.1 hv with hv | ⟨time, -, hv⟩
  · exact ⟨s.stamp, unreadable_of_captured hc hv⟩
  · rcases bind_eq_error_iff.1 hv with hv | ⟨span, -, hv⟩
    · exact unreadable_of_timeSpan hv
    · simp [pure, Except.pure] at hv

end Content

/-- A block fails only by a stamp in it, and only after all else about it was recognised. -/
theorem Block.unreadable_of_outcome {b : Block} (hb : b.outcome t = .error e) :
    Content.Recognized b ∧ ∃ stamp, Stamp.Unreadable b.text stamp ∧ e = .malformedTime stamp := by
  unfold outcome at hb
  split at hb
  next => split at hb <;> simp at hb
  next h hh =>
    split at hb
    next => simp at hb
    next hk =>
      unfold Content.outcome at hb
      split at hb
      next hp =>
        split at hb
        next hc =>
          rw [map_eq_error_iff] at hb
          exact ⟨⟨h, _, _, _, _, _, _, _, _, hh, hk, hp, hc⟩,
            Content.unreadable_of_viewPoint (Content.captured_of_preamble hp) hb⟩
        next => simp at hb
        next => simp at hb
      next => simp at hb
    next => simp at hb

/-! ### Short tracks -/

namespace ShortTrack

/-- A line that reports a short track, by its start. -/
def StartsNear (line token : String) : Prop :=
  ∃ side track side' counterpart code address diff,
    phrase.read line = some [side, track, side', counterpart, code, address, token, diff]

/-- A line that reports a short track whose start has not the form of a stamp. -/
structure Misdated (line token : String) : Prop where
  marked : Text.mentions line "Deviation: Short" = true
  starts : StartsNear line token
  unfit : ¬ Stamp.Fits Text.isPlainDigit token.toList

theorem viewPoint_eq_error_iff {id : Nat} {line : String} :
    viewPoint t id line = .error e ↔ ∃ token, StartsNear line token ∧
      ¬ Stamp.Fits Text.isPlainDigit token.toList ∧ e = .malformedTime token := by
  unfold viewPoint StartsNear
  split
  next side track side' counterpart code address token diff hp =>
    rw [hp]
    constructor
    · intro h
      rcases bind_eq_error_iff.1 h with h | ⟨_, -, h⟩
      · exact ⟨token, ⟨_, _, _, _, _, _, _, rfl⟩, Stamp.read_eq_error_iff.1 h⟩
      · simp [pure, Except.pure] at h
    · rintro ⟨token', ⟨_, _, _, _, _, _, _, hl⟩, hn, he⟩
      obtain rfl : token = token' := by simp_all
      exact bind_eq_error_iff.2 (.inl (Stamp.read_eq_error_iff.2 ⟨hn, he⟩))
  next hp =>
    constructor
    · intro h
      simp at h
    · rintro ⟨token, ⟨_, _, _, _, _, _, _, hl⟩, -⟩
      exact (hp _ _ _ _ _ _ _ _ hl).elim

end ShortTrack

end ViewPoints
