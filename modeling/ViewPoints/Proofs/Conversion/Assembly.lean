import ViewPoints.Assembly
import ViewPoints.Proofs.Conversion.Derived

/-!
The two passes into one document come to what the two scans amount to. What a scan knows is shown by
a document at any time, and a line does the same to both.
-/

namespace ViewPoints

variable {o : Options} {t : Trackers}

/-! ### What a document shows -/

namespace Conversion

variable {h : HelperFile.Scan} {r : RunLog.Scan}

/-! What is taken into a recording is set in its dataset. -/

lemma context_update_identity (side : Side) (i : SensorIdentity) :
    context o h (r.update side fun r => { r with identity := some i }) =
      (context o h r).update side fun d => d.setSensorIdentity i := by
  cases side <;> rfl

lemma context_update_window (side : Side) (w : Window) :
    context o h (r.update side fun r => { r with window := some w }) =
      (context o h r).update side fun d =>
        { d with timeStart := some w.start, timeEnd := some w.stop } := by
  cases side <;> rfl

lemma context_tellApart : context o h r.tellApart = (context o h r).tellApart := by
  have hi : RunLog.overrideFor r.reference.identity r.test.identity =
      RunLog.overrideFor ((context o h r).dataset .reference).sensorIdentity
        ((context o h r).dataset .test).sensorIdentity := by
    rw [sensorIdentity_context, sensorIdentity_context]
    rfl
  calc context o h r.tellApart
      = (context o h r).update .test fun d =>
          { d with
            sensorOverride := RunLog.overrideFor r.reference.identity r.test.identity } := rfl
    _ = (context o h r).tellApart := by rw [hi]; rfl

lemma context_measure : context o h r.measure = (context o h r).measure := by
  rw [Context.measure, window_context, window_context]
  obtain ⟨_, ⟨_, w, _⟩, ⟨_, v, _⟩⟩ := r
  cases w <;> cases v <;> rfl

end Conversion

namespace Assembly

/-- The document that shows what is known after some lines of each file. -/
def ofScans (o : Options) (h : HelperFile.Scan) (r : RunLog.Scan) : Assembly where
  document := (Conversion.ofScans o h r).document
  nextHeader := h.headers
  diagnostics := h.diagnostics

variable {h : HelperFile.Scan} {r : RunLog.Scan}

/-! What is set of one run is known of it, and of the other one as much as before. -/

theorem sensorIdentity_setIdentity (a : Assembly) (side : Side) (i : SensorIdentity) :
    ((a.setIdentity side i).document.context.dataset side).sensorIdentity = some i ∧
      ((a.setIdentity side i).document.context.dataset side.opposite).sensorIdentity =
        (a.document.context.dataset side.opposite).sensorIdentity := by
  have hs (other : Side) (c : Context) :
      (c.tellApart.dataset other).sensorIdentity = (c.dataset other).sensorIdentity := by
    cases other <;> rfl
  constructor
  · rw [setIdentity, inContext, hs, Context.dataset_update, Dataset.sensorIdentity_setSensorIdentity]
  · rw [setIdentity, inContext, hs, Context.dataset_update_opposite]

theorem window_setWindow (a : Assembly) (side : Side) (w : Window) :
    ((a.setWindow side w).document.context.dataset side).window = some w ∧
      ((a.setWindow side w).document.context.dataset side.opposite).window =
        (a.document.context.dataset side.opposite).window := by
  have hs (other : Side) (c : Context) : c.measure.dataset other = c.dataset other := by
    unfold Context.measure
    cases other <;> split <;> rfl
  constructor
  · rw [setWindow, inContext, hs, Context.dataset_update]
    rfl
  · rw [setWindow, inContext, hs, Context.dataset_update_opposite]

lemma take_ofScans (out : Outcome) : (ofScans o h {}).take out = ofScans o (h.record out) {} := by
  cases out <;>
    simp [take, push, report, ofScans, Conversion.ofScans, HelperFile.Scan.record] <;> rfl

end Assembly

/-! ### The helper file -/

namespace HelperFile.Pass

/-- The pass that knows what a scan knows. -/
def ofScan (o : Options) (s : Scan) : Pass where
  opened := s.opened
  assembly := .ofScans o s {}

variable {s : Scan}

lemma close_ofScan (s : Scan) : (ofScan o s).close t = (s.close t).map (ofScan o) := by
  unfold close Scan.close
  rw [show (ofScan o s).opened = s.opened from rfl]
  cases s.opened with
  | none => rfl
  | some b =>
    rw [map_map]
    refine map_congr_ok fun out _ => ?_
    have ho : (Scan.record { s with opened := none } out).opened = none := Scan.opened_record out
    have ha : (ofScan o s).assembly.take out = .ofScans o (Scan.record _ out) {} :=
      Assembly.take_ofScans (h := { s with opened := none }) out
    exact congr (congrArg Pass.mk ho.symm) ha

lemma openBlock_ofScan (s : Scan) (line : String) :
    (ofScan o s).openBlock line = ofScan o (s.openBlock line) := rfl

lemma append_ofScan (s : Scan) (line : String) :
    (ofScan o s).append line = ofScan o (s.append line) := rfl

lemma readVersion_ofScan (s : Scan) (line : String) :
    (ofScan o s).readVersion line = ofScan o (s.readVersion line) := by
  unfold readVersion Scan.readVersion
  cases version? line <;> rfl

lemma readNow_ofScan (s : Scan) (line : String) :
    (ofScan o s).readNow line = ofScan o (s.readNow line) := by
  unfold readNow Scan.readNow
  cases now? line <;> rfl

lemma readFilename_ofScan (s : Scan) (side : Side) (line : String) :
    (ofScan o s).readFilename side line = ofScan o (s.readFilename side line) := by
  unfold readFilename Scan.readFilename
  cases filename? line <;> cases side <;> rfl

lemma readOffset_ofScan (s : Scan) (line : String) :
    (ofScan o s).readOffset line = ofScan o (s.readOffset line) := by
  unfold readOffset Scan.readOffset
  rcases offset? line with _ | _ | _ <;> rfl

/-- A line does to the document what it does to the scan. -/
lemma step_ofScan (s : Scan) (line : String) :
    (ofScan o s).step t line = (s.step t line).map (ofScan o) := by
  unfold step Scan.step
  rcases LineKind.of? line with _ | _ | _ | _ | _ | side
  case none =>
    simp only
    split
    · exact close_ofScan s
    · exact congrArg Except.ok (append_ofScan s line)
  case some.version => exact congrArg Except.ok (readVersion_ofScan s line)
  case some.deviation =>
    rw [close_ofScan, map_map, map_map]
    exact map_congr_ok fun s _ => openBlock_ofScan s line
  case some.timeOffset => exact congrArg Except.ok (readOffset_ofScan s line)
  case some.now => exact congrArg Except.ok (readNow_ofScan s line)
  case some.filename => exact congrArg Except.ok (readFilename_ofScan s side line)

theorem run_ofScan (s : Scan) (lines : List (Except Failure String)) :
    (ofScan o s).run t lines = (s.run t lines).map (ofScan o) := by
  refine foldlM_of_step (fun s line => ?_) lines s
  cases line with
  | error e => rfl
  | ok line => exact step_ofScan s line

end HelperFile.Pass

/-! ### The run log -/

namespace RunLog.Pass

/-- The pass that knows what a scan of the run log knows, behind a helper file. -/
def ofScan (o : Options) (h : HelperFile.Scan) (r : Scan) : Pass where
  phase := r.phase
  nextId := h.headers + r.shortTracks.size
  assembly := .ofScans o h r

variable {h : HelperFile.Scan} (r : Scan) (side : Side) (line : String)

/-! What is set in the scan is set in the document. -/

lemma setIdentity_ofScan (i : SensorIdentity) :
    { ofScan o h r with assembly := (ofScan o h r).assembly.setIdentity side i } =
      ofScan o h (r.setIdentity side i) := by
  have hc : Conversion.context o h (r.setIdentity side i) =
      ((Conversion.context o h r).update side fun d => d.setSensorIdentity i).tellApart := by
    rw [← Conversion.context_update_identity]
    exact Conversion.context_tellApart
  rw [ofScan, ofScan, Assembly.ofScans, Assembly.ofScans, Conversion.ofScans, Conversion.ofScans, hc]
  cases side <;> rfl

lemma setWindow_ofScan (w : Window) :
    { ofScan o h r with assembly := (ofScan o h r).assembly.setWindow side w } =
      ofScan o h (r.setWindow side w) := by
  have hc : Conversion.context o h (r.setWindow side w) =
      ((Conversion.context o h r).update side fun d =>
        { d with timeStart := some w.start, timeEnd := some w.stop }).measure := by
    rw [← Conversion.context_update_window]
    exact Conversion.context_measure
  rw [ofScan, ofScan, Assembly.ofScans, Assembly.ofScans, Conversion.ofScans, Conversion.ofScans, hc]
  cases side <;> rfl

lemma setDuration_ofScan (x : Float) :
    { ofScan o h r with assembly := (ofScan o h r).assembly.setDuration side x } =
      ofScan o h (r.update side fun r => { r with duration := some x }) := by
  cases side <;> rfl

lemma push_ofScan (v : ViewPoint) :
    { ofScan o h r with
      nextId := (ofScan o h r).nextId + 1
      assembly := (ofScan o h r).assembly.push v } =
      ofScan o h { r with shortTracks := r.shortTracks.push v } := by
  have hn : h.headers + r.shortTracks.size + 1 = h.headers + (r.shortTracks.push v).size := by
    rw [Array.size_push, Nat.add_assoc]
  have hv : (h.viewPoints ++ r.shortTracks).push v = h.viewPoints ++ r.shortTracks.push v :=
    Array.append_push.symm
  simp only [ofScan, Assembly.ofScans, Assembly.push, Conversion.ofScans, hn, hv]
  rfl

/-! What a handler takes in is the same. -/

lemma enter_ofScan : (ofScan o h r).enter line = ofScan o h (r.enter line) := by
  unfold enter Scan.enter
  cases Phase.ofLine? line <;> rfl

/-- A fact is taken into the document as it is into the scan, if it means the same to both. -/
lemma fact_ofScan {α β : Type} (A : Attribute α β) {set : Side → α → Except Failure Assembly}
    (hset : ∀ side a, (set side a).map (fun x => { ofScan o h r with assembly := x }) =
      (A.meaning a).map fun b => ofScan o h (A.settle (r.update side (A.put b)))) :
    (ofScan o h r).fact line A.marker A.read set = (A.take r line).map (ofScan o h) := by
  unfold fact
  rw [show (ofScan o h r).phase = r.phase from rfl]
  split
  next hm =>
    split
    next side a hs ha =>
      rw [Attribute.take_of_read hm hs ha, map_map]
      exact hset side a
    next hn => rw [Attribute.take_of_silent hm hn, ok_map]
  next hm => rw [Attribute.take_of_unmarked hm, ok_map]

lemma readIdentity_ofScan : (ofScan o h r).readIdentity line =
    (Attribute.identity.take r line).map (ofScan o h) :=
  fact_ofScan r line .identity fun side i => congrArg Except.ok (setIdentity_ofScan r side i)

lemma readWindow_ofScan : (ofScan o h r).readWindow line =
    (Attribute.window.take r line).map (ofScan o h) := by
  refine fact_ofScan r line .window fun side stamps => ?_
  change Except.map _ (Except.bind _ _) = Except.map _ (Except.bind _ _)
  rw [bind_map, bind_map]
  refine bind_congr_ok fun a _ => ?_
  change Except.map _ (Except.bind _ _) = _
  rw [bind_map, map_map]
  cases Stamp.read stamps.2 with
  | error => rfl
  | ok b => exact congrArg Except.ok (setWindow_ofScan r side _)

lemma readDuration_ofScan : (ofScan o h r).readDuration line =
    (Attribute.duration.take r line).map (ofScan o h) := by
  refine fact_ofScan r line .duration fun side stamp => ?_
  change Except.map _ (Except.bind _ _) = Except.map _ (Except.map _ _)
  rw [bind_map, map_map]
  cases Stamp.read stamp with
  | error => rfl
  | ok d => exact congrArg Except.ok (setDuration_ofScan r side _)

lemma readShortTrack_ofScan :
    (ofScan o h r).readShortTrack t line = (r.readShortTrack t h.headers line).map (ofScan o h) := by
  unfold readShortTrack Scan.readShortTrack
  split
  next =>
    rw [map_map]
    exact map_congr_ok fun v _ => push_ofScan r v
  next => rfl

/-- A line does to the document what it does to the scan. -/
lemma step_ofScan : (ofScan o h r).step t line = (r.step t h.headers line).map (ofScan o h) := by
  rw [Scan.step_eq, bind_map]
  unfold step
  rw [enter_ofScan, readIdentity_ofScan]
  change Except.bind (Except.map _ _) _ = _
  rw [map_bind]
  refine bind_congr_ok fun r₁ _ => ?_
  rw [readWindow_ofScan, bind_map]
  change Except.bind (Except.map _ _) _ = _
  rw [map_bind]
  refine bind_congr_ok fun r₂ _ => ?_
  rw [readDuration_ofScan, bind_map]
  change Except.bind (Except.map _ _) _ = _
  rw [map_bind]
  exact bind_congr_ok fun r₃ _ => readShortTrack_ofScan r₃ line

theorem run_ofScan (lines : List (Except Failure String)) :
    (ofScan o h r).run t lines = (r.run t h.headers lines).map (ofScan o h) := by
  refine foldlM_of_step (fun r line => ?_) lines r
  cases line with
  | error e => rfl
  | ok line => exact step_ofScan r line

/-! The next number is that of the view points to come, whatever the document holds. -/

section Numbers

variable {p q : Pass} {line : String}

/-- The next number, and how many view points there are. -/
def counts (p : Pass) : Nat × Nat := (p.nextId, p.assembly.document.viewPoints.size)

lemma counts_enter : (p.enter line).counts = p.counts := by
  unfold enter
  cases Phase.ofLine? line <;> rfl

lemma counts_of_fact {α : Type} {marker : String} {read? : String → Option α}
    {set : Side → α → Except Failure Assembly}
    (hset : ∀ side a x, set side a = .ok x → x.document.viewPoints = p.assembly.document.viewPoints)
    (hq : p.fact line marker read? set = .ok q) : q.counts = p.counts := by
  unfold fact at hq
  split at hq
  next =>
    split at hq
    next side a _ _ =>
      obtain ⟨x, hx, rfl⟩ := map_eq_ok_iff.1 hq
      rw [counts, counts, hset side a x hx]
    next => exact congrArg counts (Except.ok.inj hq).symm
  next => exact congrArg counts (Except.ok.inj hq).symm

lemma counts_of_readIdentity (hq : p.readIdentity line = .ok q) : q.counts = p.counts := by
  refine counts_of_fact (fun side i x hx => ?_) hq
  obtain rfl := Except.ok.inj hx
  rfl

lemma counts_of_readWindow (hq : p.readWindow line = .ok q) : q.counts = p.counts := by
  refine counts_of_fact (fun side stamps x hx => ?_) hq
  obtain ⟨a, -, hx⟩ := bind_eq_ok_iff.1 hx
  obtain ⟨b, -, hx⟩ := bind_eq_ok_iff.1 hx
  obtain rfl := Except.ok.inj hx
  rfl

lemma counts_of_readDuration (hq : p.readDuration line = .ok q) : q.counts = p.counts := by
  refine counts_of_fact (fun side stamp x hx => ?_) hq
  obtain ⟨d, -, hx⟩ := bind_eq_ok_iff.1 hx
  obtain rfl := Except.ok.inj hx
  rfl

lemma counts_of_readShortTrack (hq : p.readShortTrack t line = .ok q) :
    ∃ n, q.counts = (p.counts.1 + n, p.counts.2 + n) := by
  unfold readShortTrack at hq
  split at hq
  next =>
    obtain ⟨v, -, rfl⟩ := map_eq_ok_iff.1 hq
    exact ⟨1, congrArg (Prod.mk _) (Array.size_push v)⟩
  next =>
    obtain rfl := Except.ok.inj hq
    exact ⟨0, rfl⟩

lemma counts_of_step (hq : p.step t line = .ok q) :
    ∃ n, q.counts = (p.counts.1 + n, p.counts.2 + n) := by
  obtain ⟨p₁, h₁, hq⟩ := bind_eq_ok_iff.1 hq
  obtain ⟨p₂, h₂, hq⟩ := bind_eq_ok_iff.1 hq
  obtain ⟨p₃, h₃, hq⟩ := bind_eq_ok_iff.1 hq
  have hp : p₃.counts = p.counts := by
    rw [counts_of_readDuration h₃, counts_of_readWindow h₂, counts_of_readIdentity h₁, counts_enter]
  rw [← hp]
  exact counts_of_readShortTrack hq

/-- The number of a run's next short track goes up with the view points of the document. -/
theorem counts_of_run {lines : List (Except Failure String)} (hq : p.run t lines = .ok q) :
    ∃ n, q.counts = (p.counts.1 + n, p.counts.2 + n) := by
  induction lines generalizing p with
  | nil =>
    obtain rfl := Except.ok.inj hq
    exact ⟨0, rfl⟩
  | cons line lines ih =>
    obtain ⟨p₁, h₁, hq⟩ := bind_eq_ok_iff.1 hq
    obtain ⟨line, -, h₁⟩ := bind_eq_ok_iff.1 h₁
    obtain ⟨m, hm⟩ := counts_of_step h₁
    obtain ⟨n, hn⟩ := ih hq
    refine ⟨m + n, ?_⟩
    rw [hn, hm, Nat.add_assoc, Nat.add_assoc]

end Numbers

end RunLog.Pass

/-! ### Both files -/

namespace Assembly

lemma ofLines_eq_bind (o : Options) (helper runLog : List (Except Failure String)) :
    ofLines o helper runLog =
      ((HelperFile.Pass.run o.trackers { assembly := start o } helper).bind
        (HelperFile.Pass.close o.trackers)).bind fun p =>
          (RunLog.Pass.run o.trackers
            { nextId := p.assembly.nextHeader, assembly := p.assembly } runLog).map
              RunLog.Pass.assembly := by
  rw [bind_bind]
  rfl

/-- Reading the two files into one document, line by line, comes to what the two scans amount to
when they are put together in the end. -/
theorem conversion_ofLines (o : Options) (helper runLog : List (Except Failure String)) :
    (ofLines o helper runLog).map conversion = Conversion.ofLines o helper runLog := by
  have hh : (HelperFile.Pass.run o.trackers { assembly := start o } helper).bind
      (HelperFile.Pass.close o.trackers) =
        (HelperFile.read o.trackers helper).map (HelperFile.Pass.ofScan o) := by
    rw [show ({ assembly := start o } : HelperFile.Pass) = .ofScan o {} from rfl,
      HelperFile.Pass.run_ofScan, map_bind, HelperFile.read, bind_map]
    exact bind_congr_ok fun s _ => HelperFile.Pass.close_ofScan s
  rw [ofLines_eq_bind, hh, map_bind, bind_map, Conversion.ofLines_eq_bind]
  refine bind_congr_ok fun h _ => ?_
  calc ((RunLog.Pass.ofScan o h {}).run o.trackers runLog |>.map RunLog.Pass.assembly).map conversion
      = ((RunLog.read o.trackers h.headers runLog).map (RunLog.Pass.ofScan o h) |>.map
          RunLog.Pass.assembly).map conversion := by
        rw [RunLog.Pass.run_ofScan, RunLog.read]
    _ = (RunLog.read o.trackers h.headers runLog).map (Conversion.ofScans o h) := by
        rw [map_map, map_map]
        rfl

end Assembly

end ViewPoints
