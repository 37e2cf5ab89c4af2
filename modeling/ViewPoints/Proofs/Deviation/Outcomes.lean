import ViewPoints.Deviation.Kind
import ViewPoints.Proofs.Success

/-!
Where the view point of a block comes from. Only a block with a header turns into one, and it is
about a track that only one run has or about the contents of two tracks.
-/

namespace ViewPoints

/-- The view point that a block turns into, if it does. -/
def Block.viewPoint? (t : Trackers) (b : Block) : Option ViewPoint :=
  match b.outcome t with
  | .ok (.viewPoint v) => some v
  | _ => none

variable {t : Trackers} {v : ViewPoint}

/-- The text of a view point in contents has the preamble, and a clause of a known kind. -/
lemma Content.viewPoint_of_outcome {h : Header} {text : String}
    (hv : outcome t h text = .ok (.viewPoint v)) :
    ∃ s kind payload word,
      preamble.read text = some [s.testTrack, s.testPart, s.referenceTrack, s.referencePart,
        s.stamp, word] ∧
      clause? h text word = some (.ok (kind, payload)) ∧
      viewPoint t h text s kind payload = .ok v := by
  unfold outcome at hv
  split at hv
  next testTrack testPart referenceTrack referencePart stamp word hp =>
    split at hv
    next kind payload hc =>
      obtain ⟨w, hw, he⟩ := map_eq_ok_iff.1 hv
      obtain rfl := Outcome.viewPoint.inj he
      exact ⟨_, kind, payload, word, hp, hc, hw⟩
    next => simp at hv
    next => simp at hv
  next => simp at hv

/-- All that a view point of a block can be. -/
theorem Block.viewPoint_cases {b : Block} (hv : b.outcome t = .ok (.viewPoint v)) :
    ∃ h, b.header = some h ∧
      ((∃ owner, v = Unmatched.viewPoint t owner h b.text) ∨
        Content.outcome t h b.text = .ok (.viewPoint v)) := by
  unfold outcome at hv
  split at hv
  next => split at hv <;> simp at hv
  next h hh =>
    refine ⟨h, hh, ?_⟩
    split at hv
    next owner _ => exact .inl ⟨owner, (Outcome.viewPoint.inj (Except.ok.inj hv)).symm⟩
    next => exact .inr hv
    next => simp at hv

lemma Block.viewPoint?_eq_some_iff {b : Block} :
    b.viewPoint? t = some v ↔ b.outcome t = .ok (.viewPoint v) := by
  unfold viewPoint?
  split
  next w hw => rw [hw, Option.some_inj, Except.ok.injEq, Outcome.viewPoint.injEq]
  next hn => exact ⟨fun h => by simp at h, fun h => absurd h (hn v)⟩

lemma Block.exists_viewPoint {α : Type} {b : Block} {f : ViewPoint → α} {x : α}
    (h : (b.viewPoint? t).map f = some x) : ∃ v, b.outcome t = .ok (.viewPoint v) ∧ f v = x := by
  obtain ⟨v, hv, hx⟩ := Option.map_eq_some_iff.1 h
  exact ⟨v, viewPoint?_eq_some_iff.1 hv, hx⟩

section

variable {h : Header} {text payload : String} {s : Content.Subject} {kind : ContentKind}

/-- What a view point in contents holds, once its times are read. -/
lemma Content.eq_of_viewPoint (hv : viewPoint t h text s kind payload = .ok v) :
    ∃ time span window, Stamp.read s.stamp = .ok time ∧ timeSpan text = .ok (span, window) ∧
      v = {
        id := h.id
        kind := .content kind
        name := kind.abbreviation ++ " DEV #" ++ h.number
        text := some (t.trackText .test s.testTrack s.testPart ++ " to " ++
          t.trackText .reference s.referenceTrack s.referencePart ++ "\n" ++ payload)
        timing := some { time := some time.seconds, window := window }
        filters := (({ timeOfDay := some span } : Filters).setTrackNumber t.reference
          s.referenceTrack).setTrackNumber t.test s.testTrack
        deviations := [h.number]
        contextVariables := kind.contextVariables.map fun v => .single v.1 v.2 } := by
  obtain ⟨time, ht, hv⟩ := bind_eq_ok_iff.1 hv
  obtain ⟨⟨span, window⟩, hs, hv⟩ := bind_eq_ok_iff.1 hv
  exact ⟨time, span, window, ht, hs, (Except.ok.inj hv).symm⟩

lemma Content.kind_of_viewPoint (hv : viewPoint t h text s kind payload = .ok v) :
    v.kind = .content kind := by
  obtain ⟨_, _, _, -, -, rfl⟩ := eq_of_viewPoint hv
  rfl

end

lemma Unmatched.exists_kind (t : Trackers) (owner : Side) (h : Header) (text : String) :
    ∃ d, (viewPoint t owner h text).kind = .unmatched owner d := by
  unfold viewPoint
  split
  next => exact ⟨(Details.read text).level, rfl⟩
  next => exact ⟨.clear, rfl⟩

/-- What the view point of a deviation in contents is made from. -/
theorem Block.contents_of_outcome {b : Block} {kind : ContentKind}
    (hv : b.outcome t = .ok (.viewPoint v)) (hk : v.kind = .content kind) :
    ∃ h s payload word,
      Content.preamble.read b.text = some [s.testTrack, s.testPart, s.referenceTrack,
        s.referencePart, s.stamp, word] ∧
      Content.clause? h b.text word = some (.ok (kind, payload)) ∧
      Content.viewPoint t h b.text s kind payload = .ok v := by
  obtain ⟨h, -, ⟨owner, rfl⟩ | hv⟩ := viewPoint_cases hv
  · obtain ⟨d, hd⟩ := Unmatched.exists_kind t owner h b.text
    simp [hd] at hk
  · obtain ⟨s, kind', payload, word, hp, hc, hv⟩ := Content.viewPoint_of_outcome hv
    obtain rfl := ViewPointKind.content.inj ((Content.kind_of_viewPoint hv).symm.trans hk)
    exact ⟨h, s, payload, word, hp, hc, hv⟩

/-- The view point of a track that only its owner has comes from its header and its text. -/
theorem Block.unmatched_of_outcome {b : Block} {owner : Side} {d : Dubiousness}
    (hv : b.outcome t = .ok (.viewPoint v)) (hk : v.kind = .unmatched owner d) :
    ∃ h, v = Unmatched.viewPoint t owner h b.text := by
  obtain ⟨h, -, ⟨owner', rfl⟩ | hv⟩ := viewPoint_cases hv
  · obtain ⟨d', hd⟩ := Unmatched.exists_kind t owner' h b.text
    obtain ⟨rfl, -⟩ := ViewPointKind.unmatched.inj (hd.symm.trans hk)
    exact ⟨h, rfl⟩
  · obtain ⟨s, kind, payload, word, -, -, hv⟩ := Content.viewPoint_of_outcome hv
    simp [Content.kind_of_viewPoint hv] at hk

end ViewPoints
