import Mathlib.Tactic.IntervalCases
import MtcDrivers.Camera.Capture
import MtcDrivers.Camera.Proofs.FrameProofs

/-!
# The camera runs while it is used

The engine is what is left of the camera state without its decoder: the four uses, the video mode, the
running flag and the clocks. Every command ends by starting or stopping it according to the uses.
-/

namespace MtcDrivers

/-- The fields that decide whether the camera runs, the running flag and the clocks. -/
structure Engine where
  camState : U8
  camSignal : U8
  reserved11 : U8
  reserved13 : U8
  videoMode : U8
  running : U8
  clocks : CifClocks

namespace Engine

variable {e : Engine}

/-- The effect of `camera_stop`. -/
def stop (e : Engine) : Engine :=
  if e.running ≠ 0 then { e with running := 0, clocks := e.clocks.add (-1) } else e

/-- The effect of `camera_start`. -/
def start (e : Engine) : Engine :=
  { e.stop with running := 1, clocks := e.stop.clocks.add 1 }

/-- At least one of the four uses. -/
def Used (e : Engine) : Prop :=
  e.camState ≠ 0 ∨ e.camSignal ≠ 0 ∨ e.reserved11 ≠ 0 ∨ e.reserved13 ≠ 0

/-- The clocks run with the camera. -/
def Synced (e : Engine) : Prop :=
  (e.running = 0 ∧ e.clocks = ⟨0, 0, 0, 0, 0⟩) ∨ (e.running = 1 ∧ e.clocks = ⟨1, 1, 1, 1, 1⟩)

/-- The invariant of the engine. -/
structure Ok (e : Engine) : Prop where
  synced : e.Synced
  running : e.running = 1 ↔ e.Used
  exclusive : e.camState = 0 ∨ e.camSignal = 0
  /-- `reserved_13` is the use by a source, so that there is one. -/
  source : e.reserved13 ≠ 0 → e.videoMode ≠ 0

theorem reserved11_stop (e : Engine) : e.stop.reserved11 = e.reserved11 := by
  unfold stop
  split <;> rfl

theorem reserved13_stop (e : Engine) : e.stop.reserved13 = e.reserved13 := by
  unfold stop
  split <;> rfl

theorem videoMode_stop (e : Engine) : e.stop.videoMode = e.videoMode := by
  unfold stop
  split <;> rfl

theorem Synced.stop (h : e.Synced) :
    e.stop = { e with running := 0, clocks := ⟨0, 0, 0, 0, 0⟩ } := by
  unfold Engine.stop
  rcases h with ⟨hoff, hclocks⟩ | ⟨hon, hclocks⟩
  · rw [if_neg (fun hne => hne hoff), ← hoff, ← hclocks]
  · have hne : e.running ≠ 0 := by
      rw [hon]
      decide
    rw [if_pos hne, hclocks]
    rfl

theorem Synced.start (h : e.Synced) :
    e.start = { e with running := 1, clocks := ⟨1, 1, 1, 1, 1⟩ } := by
  unfold Engine.start
  rw [h.stop]
  rfl

theorem Synced.stop_synced (h : e.Synced) : e.stop.Synced := by
  rw [h.stop]
  exact .inl ⟨rfl, rfl⟩

/-- To stop the camera when nothing uses it any more. -/
theorem Synced.ok_stop (h : e.Synced) (hused : ¬ e.Used) : e.stop.Ok := by
  have hsource : e.reserved13 ≠ 0 → e.videoMode ≠ 0 := fun hne =>
    absurd (.inr (.inr (.inr hne))) hused
  rw [h.stop]
  refine ⟨.inl ⟨rfl, rfl⟩, ?_, ?_, hsource⟩
  · have hoff : ¬ (0 : U8) = 1 := by decide
    exact iff_of_false hoff hused
  · exact .inl (Decidable.of_not_not fun hne => hused (.inl hne))

/-- To start the camera for a use. -/
theorem Synced.ok_start (h : e.Synced) (hused : e.Used) (hexcl : e.camState = 0 ∨ e.camSignal = 0)
    (hsource : e.reserved13 ≠ 0 → e.videoMode ≠ 0) : e.start.Ok := by
  rw [h.start]
  exact ⟨.inr ⟨rfl, rfl⟩, iff_of_true rfl hused, hexcl, hsource⟩

/-- To stop and start it. -/
theorem Synced.ok_restart (h : e.Synced) (hused : e.Used) (hexcl : e.camState = 0 ∨ e.camSignal = 0)
    (hsource : e.reserved13 ≠ 0 → e.videoMode ≠ 0) : e.stop.start.Ok := by
  have hstop := h.stop_synced
  rw [h.stop] at hstop ⊢
  exact hstop.ok_start hused hexcl hsource

/-- To stop it for a use that has ended, and to start it again if there is another view or a source. -/
theorem Synced.ok_more (h : e.Synced) (hstate : e.camState = 0) (hsig : e.camSignal = 0)
    (hsource : e.reserved13 ≠ 0 → e.videoMode ≠ 0) :
    (if e.reserved11 ≠ 0 ∨ e.videoMode ≠ 0 ∧ e.reserved13 ≠ 0 then e.stop.start else e.stop).Ok := by
  by_cases hmore : e.reserved11 ≠ 0 ∨ e.videoMode ≠ 0 ∧ e.reserved13 ≠ 0
  · rw [if_pos hmore]
    have hused : e.Used := by
      rcases hmore with hview | hsrc
      · exact .inr (.inr (.inl hview))
      · exact .inr (.inr (.inr hsrc.2))
    exact h.ok_restart hused (.inl hstate) hsource
  · rw [if_neg hmore]
    apply h.ok_stop
    rintro (hu | hu | hu | hu)
    · exact hu hstate
    · exact hu hsig
    · exact hmore (.inl hu)
    · exact hmore (.inr ⟨hsource hu, hu⟩)

/-- The same where there is no other view. -/
theorem Synced.ok_source (h : e.Synced) (hstate : e.camState = 0) (hsig : e.camSignal = 0)
    (hview : e.reserved11 = 0) (hsource : e.reserved13 ≠ 0 → e.videoMode ≠ 0) :
    (if e.videoMode ≠ 0 ∧ e.reserved13 ≠ 0 then e.stop.start else e.stop).Ok := by
  have hok := h.ok_more hstate hsig hsource
  rwa [if_congr (or_iff_right fun hne => hne hview) rfl rfl] at hok

/-- The camera goes on running when a use is added to another. -/
theorem Ok.keep (h : e.Ok) {e' : Engine} (hrunning : e'.running = e.running)
    (hclocks : e'.clocks = e.clocks) (hused : e.Used) (hused' : e'.Used)
    (hexcl : e'.camState = 0 ∨ e'.camSignal = 0) (hsource : e'.reserved13 ≠ 0 → e'.videoMode ≠ 0) :
    e'.Ok where
  synced := by
    unfold Synced
    rw [hrunning, hclocks]
    exact h.synced
  running := by
    rw [hrunning]
    exact iff_of_true (h.running.mpr hused) hused'
  exclusive := hexcl
  source := hsource

end Engine

namespace Camera

variable {s : Camera}

def engine (s : Camera) : Engine :=
  ⟨s.camState, s.camSignal, s.reserved11, s.reserved13, s.videoMode, s.gap1b_0, s.clocks⟩

/-- The mask leaves `cam_signal` and `reserved_11` of the four bytes. -/
theorem backviewStatusU32_and (s : Camera) :
    s.backviewStatusU32 &&& 0xFF00FF00#32 = 0 ↔ s.camSignal = 0 ∧ s.reserved11 = 0 := by
  have hmask : s.backviewStatusU32 &&& 0xFF00FF00#32 =
      s.reserved11 ++ 0#8 ++ s.camSignal ++ 0#8 := by
    have hbytes : (0xFF00FF00#32 : U32) = 0xFF#8 ++ 0#8 ++ 0xFF#8 ++ 0#8 := rfl
    have hones : ∀ x : U8, x &&& 0xFF#8 = x := fun x => BitVec.and_allOnes
    unfold backviewStatusU32
    rw [hbytes, BitVec.and_append, BitVec.and_append, BitVec.and_append, hones, hones,
      BitVec.and_zero, BitVec.and_zero]
  have hzero : (0 : U32) = 0#8 ++ 0#8 ++ 0#8 ++ 0#8 := rfl
  rw [hmask, hzero, BitVec.append_left_inj]
  constructor
  · intro h
    have hsig := congrArg (fun x : BitVec (8 + 8 + 8) => x.extractLsb' 0 8) h
    have hhigh := congrArg (fun x : BitVec (8 + 8 + 8) => x.extractLsb' 8 (8 + 8)) h
    simp only [BitVec.extractLsb'_append_eq_right, BitVec.extractLsb'_append_eq_left] at hsig hhigh
    exact ⟨hsig, (BitVec.append_left_inj 0#8).mp hhigh⟩
  · rintro ⟨hsig, hview⟩
    rw [hsig, hview]
    rfl

theorem noView_iff (s : Camera) :
    s.noView = true ↔ s.camState = 0 ∧ s.camSignal = 0 ∧ s.reserved11 = 0 := by
  unfold noView
  rw [Bool.and_eq_true, decide_eq_true_iff, decide_eq_true_iff, backviewStatusU32_and]

section Decoder

theorem engine_emit (s : Camera) (e : CameraEvent) : (s.emit e).engine = s.engine := rfl

/-- The engine is not the decoder's. -/
theorem keeps_engine : Keeps engine where
  writeTable s table := engine_emit s (.writeTable table)
  pageWrite s dev set := engine_emit s (.pageWrite dev set)
  i2cWrite s dev reg dat := engine_emit s (.i2cWrite dev reg dat)
  page _ _ := rfl
  cvbsAuto _ _ := rfl
  uvValue _ _ _ := rfl
  decoderType _ _ := rfl

theorem engine_startDecoder (io : StartInput) (s : Camera) : (s.startDecoder io).engine = s.engine :=
  keeps_engine.startDecoder (fun _ _ _ => ⟨rfl, rfl⟩) io s

theorem engine_cameraStop (s : Camera) : s.cameraStop.engine = s.engine.stop := by
  unfold cameraStop Engine.stop
  by_cases hon : s.gap1b_0 ≠ 0
  · rw [if_pos hon]
    exact (if_pos hon).symm
  · rw [if_neg hon]
    exact (if_neg hon).symm

theorem engine_cameraStart (io : StartInput) (s : Camera) :
    (s.cameraStart io).engine = s.engine.start := by
  have hstop : (if s.gap1b_0 ≠ 0 then s.cameraStop else s).engine = s.engine.stop := by
    by_cases hon : s.gap1b_0 ≠ 0
    · rw [if_pos hon]
      exact engine_cameraStop s
    · rw [if_neg hon]
      exact (if_neg hon).symm
  have hclocks : ∀ (t : Camera) (d : ℤ) (dtv : U8),
      ({ t with clocks := t.clocks.add d, gap1_0 := 0, dtvType := dtv } : Camera).engine =
        { t.engine with clocks := t.engine.clocks.add d } := fun _ _ _ => rfl
  have hrunning : ∀ t : Camera, ({ t with gap1b_0 := 1 } : Camera).engine =
      { t.engine with running := 1 } := fun _ => rfl
  have hworking : ∀ t : Camera, ({ t with cameraWorking := 0 } : Camera).engine = t.engine :=
    fun _ => rfl
  unfold cameraStart Engine.start
  dsimp only
  rw [engine_emit, hworking, engine_emit, hrunning, engine_emit, engine_startDecoder, hclocks,
    engine_emit, hstop]

end Decoder

section Commands

theorem engine_closeAndStop (s : Camera) : s.closeAndStop.engine = s.engine.stop := by
  unfold closeAndStop fb1
  rw [engine_cameraStop, engine_emit]

theorem engine_startAndOpen (io : CaptureInput) (s : Camera) :
    (s.startAndOpen io).engine = s.engine.start := by
  unfold startAndOpen fb1
  rw [engine_emit, engine_cameraStart]

theorem engine_label52 (io : CaptureInput) (s : Camera) : (s.label52 io).engine = s.engine.start :=
  engine_startAndOpen io s

theorem engine_label51 (io : CaptureInput) (s : Camera) : (s.label51 io).engine = s.engine.start := by
  unfold label51
  rw [engine_label52, engine_emit]

theorem engine_label50 (io : CaptureInput) (camSig : U8) (s : Camera) :
    (s.label50 io camSig).engine = s.engine.stop.start := by
  unfold label50 fb1
  rw [engine_label51, engine_cameraStop, engine_emit]

theorem engine_reportView (s : Camera) : s.reportView.engine = s.engine := by
  have hstore : ∀ t : Camera, ({ t with reserved10 := 1 } : Camera).engine = t.engine := fun _ => rfl
  unfold reportView
  rw [hstore, engine_emit]

theorem engine_showView (s : Camera) : s.showView.engine = s.engine := by
  unfold showView label92 fb0
  dsimp only
  rw [engine_emit, engine_emit]
  by_cases hopen : s.callActive = 0 ∨ s.radarVal ≠ 0
  · rw [if_pos hopen, engine_emit]
  · rw [if_neg hopen]

/-- Without a view the only use is the source. -/
theorem used_of_not_noView (h : ¬ s.noView = true) : s.engine.Used := by
  rw [noView_iff] at h
  by_cases hstate : s.camState = 0
  · by_cases hsig : s.camSignal = 0
    · have hview : s.reserved11 ≠ 0 := fun hview => h ⟨hstate, hsig, hview⟩
      exact .inr (.inr (.inl hview))
    · exact .inr (.inl hsig)
  · exact .inl hstate

theorem not_used (h : s.noView = true) (hsource : s.reserved13 = 0) : ¬ s.engine.Used := by
  have ⟨hstate, hsig, hview⟩ := (noView_iff s).mp h
  rintro (h | h | h | h)
  · exact h hstate
  · exact h hsig
  · exact h hview
  · exact h hsource

/-- To give up the source, and stop the camera if nothing else uses it. -/
theorem ok_leaveSource (h : s.engine.Ok) :
    let t := { s with reserved13 := 0 }
    (if t.noView then t.closeAndStop else t).engine.Ok := by
  have hsource : (0 : U8) ≠ 0 → s.videoMode ≠ 0 := fun hne => absurd rfl hne
  dsimp only
  by_cases hview : ({ s with reserved13 := 0 } : Camera).noView = true
  · rw [if_pos hview, engine_closeAndStop]
    have hsynced : ({ s with reserved13 := 0 } : Camera).engine.Synced := h.synced
    exact hsynced.ok_stop (not_used hview rfl)
  · rw [if_neg hview]
    have hused' := used_of_not_noView hview
    have hused : s.engine.Used := by
      rcases hused' with hu | hu | hu | hu
      · exact .inl hu
      · exact .inr (.inl hu)
      · exact .inr (.inr (.inl hu))
      · exact absurd rfl hu
    exact h.keep rfl rfl hused hused' h.exclusive hsource

theorem ok_setVideoMode (h : s.engine.Ok) (hsource : s.reserved13 = 0) (mode : U8) :
    ({ s with videoMode := mode } : Camera).engine.Ok :=
  ⟨h.synced, h.running, h.exclusive, fun hne => absurd hsource hne⟩

theorem reserved13_closeAndStop (s : Camera) : s.closeAndStop.reserved13 = s.reserved13 :=
  (congrArg Engine.reserved13 (engine_closeAndStop s)).trans s.engine.reserved13_stop

/-- The mode is changed after the source has been given up. -/
theorem ok_work46 (h : s.engine.Ok) (cmd2 : U32) : (s.work46 cmd2).engine.Ok := by
  have hleft : ∀ t : Camera, t.engine.Ok →
      let u := if t.videoMode ≠ 0 ∧ t.reserved13 ≠ 0 then
          (if ({ t with reserved13 := 0 } : Camera).noView then
            ({ t with reserved13 := 0 } : Camera).closeAndStop else { t with reserved13 := 0 })
        else t
      u.engine.Ok ∧ u.reserved13 = 0 := by
    intro t ht
    dsimp only
    by_cases hsource : t.videoMode ≠ 0 ∧ t.reserved13 ≠ 0
    · rw [if_pos hsource]
      refine ⟨ok_leaveSource ht, ?_⟩
      split
      · exact reserved13_closeAndStop _
      · rfl
    · rw [if_neg hsource]
      refine ⟨ht, ?_⟩
      by_cases hzero : t.reserved13 = 0
      · exact hzero
      · exact absurd ⟨ht.source hzero, hzero⟩ hsource
  have ⟨hok, hsource⟩ := hleft { s with gap2_3 := 1 } h
  unfold work46
  dsimp only
  split
  · rw [engine_emit]
    exact ok_setVideoMode hok hsource 0
  · rw [engine_emit]
    exact ok_setVideoMode hok hsource _

theorem ok_work47 (h : s.engine.Ok) : s.work47.engine.Ok := by
  unfold work47
  split
  · exact h
  · exact h

/-- A source is named, so that `video_mode` is not 0. -/
theorem ok_work48 (h : s.engine.Ok) (io : CaptureInput) {cmd2 : U32} (hcmd2 : cmd2 ≠ 0) :
    (s.work48 io cmd2).engine.Ok := by
  unfold work48
  dsimp only
  by_cases hmine : s.videoMode.setWidth 32 = cmd2 ∧ s.reserved13 = 0
  · rw [if_pos hmine]
    have hmode : s.videoMode ≠ 0 := by
      intro hzero
      apply hcmd2
      rw [← hmine.1, hzero]
      rfl
    have hused : ({ s with reserved13 := 1 } : Camera).engine.Used := 
      .inr (.inr (.inr (by decide : (1 : U8) ≠ 0)))
    have hsynced : ({ s with reserved13 := 1 } : Camera).engine.Synced := h.synced
    by_cases hview : ({ s with reserved13 := 1 } : Camera).noView = true
    · rw [if_pos hview, engine_startAndOpen]
      exact hsynced.ok_start hused h.exclusive fun _ => hmode
    · rw [if_neg hview]
      have hview' : ¬ s.noView = true := hview
      exact h.keep rfl rfl (used_of_not_noView hview') hused h.exclusive fun _ => hmode
  · rw [if_neg hmine]
    exact h

theorem ok_work49 (h : s.engine.Ok) (cmd2 : U32) : (s.work49 cmd2).engine.Ok := by
  unfold work49
  by_cases hmine : s.videoMode.setWidth 32 = cmd2 ∧ s.reserved13 ≠ 0
  · rw [if_pos hmine]
    exact ok_leaveSource h
  · rw [if_neg hmine]
    exact h

theorem engine_label57 (io : CaptureInput) (s : Camera) :
    (s.label57 io).engine =
      if s.videoMode ≠ 0 ∧ s.reserved13 ≠ 0 then s.engine.start else s.engine := by
  unfold label57
  by_cases hsource : s.videoMode ≠ 0 ∧ s.reserved13 ≠ 0
  · rw [if_pos hsource, if_pos hsource, engine_label52]
  · rw [if_neg hsource, if_neg hsource]

theorem ok_label57 {e : Engine} (hs : s.engine = e.stop) (h : e.Synced) (hstate : e.camState = 0)
    (hsig : e.camSignal = 0) (hview : e.reserved11 = 0) (hsource : e.reserved13 ≠ 0 → e.videoMode ≠ 0)
    (io : CaptureInput) : (s.label57 io).engine.Ok := by
  have hmode : s.videoMode = e.videoMode := (congrArg Engine.videoMode hs).trans e.videoMode_stop
  have hsrc : s.reserved13 = e.reserved13 := (congrArg Engine.reserved13 hs).trans e.reserved13_stop
  rw [engine_label57, hs, hmode, hsrc]
  exact h.ok_source hstate hsig hview hsource

theorem engine_uvScan (reg : U8) (n pos best final : ℕ) (rs : List U8) (s : Camera) :
    (uvScan reg n pos best final rs s).2.engine = s.engine := by
  induction n generalizing pos best final rs s with
  | zero => rfl
  | succ n ih =>
    unfold uvScan
    split
    · rfl
    · dsimp only
      rw [ih]
      split
      · exact engine_emit s _
      · unfold uvTrigger
        rw [engine_emit, engine_emit, engine_emit]

theorem engine_emits (writes : List (U8 × U8 × U8)) (s : Camera) :
    (writes.foldl (fun s w => s.emit (.i2cWrite w.1 w.2.1 w.2.2)) s).engine = s.engine := by
  induction writes generalizing s with
  | nil => rfl
  | cons w writes ih => exact (ih _).trans (engine_emit s _)

theorem engine_label138 (s : Camera) : s.label138.engine = s.engine := by
  unfold label138
  rw [keeps_engine.t132bUvSet]
  rfl

theorem engine_uvCalibrate (rs : List U8) (s : Camera) : (s.uvCalibrate rs).engine = s.engine := by
  have htrigger : ∀ t : Camera, t.uvTrigger.engine = t.engine := fun t => by
    unfold uvTrigger
    rw [engine_emit, engine_emit]
  have hstore : ∀ (t : Camera) (u v : U8), ({ t with uValue := u, vValue := v } : Camera).engine =
      t.engine := fun _ _ _ => rfl
  have hdone : ∀ t : Camera, ({ t with uvCal := 3 } : Camera).engine = t.engine := fun _ => rfl
  unfold uvCalibrate
  dsimp only
  split
  · rw [engine_label138, engine_uvScan, htrigger, engine_emits]
  · split
    · rw [engine_label138, engine_uvScan, htrigger, engine_uvScan, htrigger, engine_emits]
    · rw [hdone, engine_emit, engine_emit, engine_emit, hstore, engine_uvScan, htrigger, engine_uvScan,
        htrigger, engine_emits]

theorem ok_work50 (h : s.engine.Ok) (io : CaptureInput) (cmd2 : U32) :
    (s.work50 io cmd2).engine.Ok := by
  unfold work50
  dsimp only
  split
  · exact h
  · split
    · rw [engine_uvCalibrate]
      exact h
    · split
      · rw [engine_emit]
        exact h
      · split
        · rw [keeps_engine.t132bUvSet]
          exact h
        · exact h

theorem ok_work51 (h : s.engine.Ok) (cmd2 : U32) : (s.work51 cmd2).engine.Ok := by
  unfold work51
  split
  · exact h
  · exact h

theorem ok_work52 (h : s.engine.Ok) (io : CaptureInput) (cmd2 : U32) :
    (s.work52 io cmd2).engine.Ok := by
  unfold work52
  dsimp only
  by_cases hview : s.reserved11 ≠ 0
  · have hused : s.engine.Used := .inr (.inr (.inl hview))
    rw [if_pos hview]
    by_cases hchange : s.camState = 0 ∧ s.camSignal = 0 ∧ s.staView.setWidth 32 ≠ cmd2
    · rw [if_pos hchange, engine_label50]
      exact h.synced.ok_restart hused h.exclusive h.source
    · rw [if_neg hchange]
      exact h
  · have hone : (1 : U8) ≠ 0 := by decide
    rw [if_neg hview]
    by_cases hfree : s.camState = 0 ∧ s.camSignal = 0
    · rw [if_pos hfree]
      have hused : ({ s with reserved11 := 1, staView := cmd2.setWidth 8 } : Camera).engine.Used :=
        .inr (.inr (.inl hone))
      have hsynced : ({ s with reserved11 := 1, staView := cmd2.setWidth 8 } : Camera).engine.Synced :=
        h.synced
      by_cases hsource : s.reserved13 ≠ 0
      · rw [if_pos hsource, engine_label50]
        exact hsynced.ok_restart hused h.exclusive h.source
      · rw [if_neg hsource, engine_label51]
        exact hsynced.ok_start hused h.exclusive h.source
    · rw [if_neg hfree]
      have hused : s.engine.Used := by
        by_cases hstate : s.camState = 0
        · exact .inr (.inl fun hsig => hfree ⟨hstate, hsig⟩)
        · exact .inl hstate
      exact h.keep rfl rfl hused (.inr (.inr (.inl hone))) h.exclusive h.source

theorem ok_work53 (h : s.engine.Ok) (io : CaptureInput) : (s.work53 io).engine.Ok := by
  unfold work53
  dsimp only
  by_cases hview : s.reserved11 = 0
  · rw [if_pos hview]
    exact h
  · rw [if_neg hview]
    by_cases hbusy : s.camState ≠ 0 ∨ s.camSignal ≠ 0
    · rw [if_pos hbusy]
      have hused : ({ s with reserved11 := 0 } : Camera).engine.Used := by
        rcases hbusy with hu | hu
        · exact .inl hu
        · exact .inr (.inl hu)
      exact h.keep rfl rfl (.inr (.inr (.inl hview))) hused h.exclusive h.source
    · rw [if_neg hbusy]
      have hstate : s.camState = 0 := Decidable.of_not_not fun hne => hbusy (.inl hne)
      have hsig : s.camSignal = 0 := Decidable.of_not_not fun hne => hbusy (.inr hne)
      have hsynced : ({ s with reserved11 := 0 } : Camera).engine.Synced := h.synced
      refine ok_label57 ?_ hsynced hstate hsig rfl h.source io
      rw [engine_emit, engine_closeAndStop]

theorem ok_work54 (h : s.engine.Ok) (io : CaptureInput) : (s.work54 io).engine.Ok := by
  unfold work54
  dsimp only
  by_cases hfree : s.camState = 0 ∧ s.camSignal = 0
  · rw [if_pos hfree]
    have hone : (1 : U8) ≠ 0 := by decide
    have hused : ({ s with camSignal := 1 } : Camera).engine.Used := .inr (.inl hone)
    have hsynced : ({ s with camSignal := 1 } : Camera).engine.Synced := h.synced
    unfold fb0
    rw [engine_emit, engine_startAndOpen, engine_emit]
    split
    · rw [engine_closeAndStop]
      exact hsynced.ok_restart hused (.inl hfree.1) h.source
    · exact hsynced.ok_start hused (.inl hfree.1) h.source
  · rw [if_neg hfree]
    exact h

theorem ok_work55 (h : s.engine.Ok) (io : CaptureInput) : (s.work55 io).engine.Ok := by
  unfold work55
  dsimp only
  by_cases hother : s.camState ≠ 0 ∨ s.camSignal = 0
  · rw [if_pos hother]
    exact h
  · rw [if_neg hother]
    have hstate : s.camState = 0 := Decidable.of_not_not fun hne => hother (.inl hne)
    have hsynced : ({ s with camSignal := s.camState } : Camera).engine.Synced := h.synced
    have hstopped : ((({ s with camSignal := s.camState }.emit (.fbOpen s.camState 1)).fb1
        s.camState).cameraStop.emit .videoChannel).engine =
          ({ s with camSignal := s.camState } : Camera).engine.stop := by
      unfold fb1
      rw [engine_emit, engine_cameraStop, engine_emit, engine_emit]
    generalize ((({ s with camSignal := s.camState } : Camera).emit (.fbOpen s.camState 1)).fb1
      s.camState).cameraStop.emit .videoChannel = w at hstopped ⊢
    have hview : w.reserved11 = s.reserved11 :=
      (congrArg Engine.reserved11 hstopped).trans (Engine.reserved11_stop _)
    by_cases hmore : w.reserved11 ≠ 0
    · rw [if_pos hmore, engine_label52, hstopped]
      rw [hview] at hmore
      exact hsynced.ok_restart (.inr (.inr (.inl hmore))) (.inl hstate) h.source
    · rw [if_neg hmore]
      rw [hview] at hmore
      exact ok_label57 hstopped hsynced hstate hstate (Decidable.of_not_not hmore) h.source io

/-- The reverse view is on after it, whatever was before. -/
theorem ok_work56 (h : s.engine.Ok) (io : CaptureInput) (cmd2 : U32) :
    (s.work56 io cmd2).engine.Ok := by
  have hone : (1 : U8) ≠ 0 := by decide
  have hstart : ∀ t : Camera, t.engine.Synced → t.camState ≠ 0 → t.camSignal = 0 →
      (t.reserved13 ≠ 0 → t.videoMode ≠ 0) →
      t.engine.start.Ok ∧ t.engine.stop.start.Ok := by
    intro t hsynced hstate hsig hsource
    exact ⟨hsynced.ok_start (.inl hstate) (.inr hsig) hsource,
      hsynced.ok_restart (.inl hstate) (.inr hsig) hsource⟩
  have hstore : ∀ t : Camera, ({ t with reserved8 := 0 } : Camera).engine = t.engine := fun _ => rfl
  unfold work56
  dsimp only
  split
  · exact h
  · generalize hu : (if s.callActive ≠ 0 ∧ s.camState = 0 then
      ({ s with reserved9 := 0, camState := 1, camSignal := 0, radarVal := cmd2.setWidth 8 } :
        Camera).reportView
      else { s with reserved9 := 0, camState := 1, camSignal := 0, radarVal := cmd2.setWidth 8 }) = u
    have hengine : u.engine = { s.engine with camState := 1, camSignal := 0 } := by
      rw [← hu]
      split
      · rw [engine_reportView]
        rfl
      · rfl
    have ⟨hstarts, hrestarts⟩ : u.engine.start.Ok ∧ u.engine.stop.start.Ok := by
      rw [hengine]
      exact hstart { s with camState := 1, camSignal := 0 } h.synced hone rfl h.source
    split
    · split
      · rw [engine_showView, engine_startAndOpen, engine_emit, hstore, engine_closeAndStop]
        exact hrestarts
      · rw [engine_startAndOpen, engine_emit, hstore, engine_closeAndStop]
        exact hrestarts
    · split
      · rw [engine_showView, engine_startAndOpen, engine_emit, hstore]
        exact hstarts
      · rw [engine_label52, engine_emit, hstore, engine_closeAndStop]
        exact hrestarts

theorem ok_work57 (h : s.engine.Ok) (io : CaptureInput) : (s.work57 io).engine.Ok := by
  unfold work57
  dsimp only
  by_cases hstate : s.camState = 0
  · rw [if_pos hstate]
    exact h
  · have hreport : (if s.callActive ≠ 0 then s.reportView else s).engine = s.engine := by
      split
      · exact engine_reportView s
      · rfl
    rw [if_neg hstate, engine_label51, engine_closeAndStop, hreport]
    exact h.synced.ok_restart (.inl hstate) h.exclusive h.source

theorem ok_work58 (h : s.engine.Ok) (cmd2 : U32) : (s.work58 cmd2).engine.Ok := by
  unfold work58
  split
  · exact h
  · exact h

/-- The reverse view ends; the camera goes on for the other view or the source. -/
theorem ok_work59 (h : s.engine.Ok) (io : CaptureInput) : (s.work59 io).engine.Ok := by
  unfold work59
  dsimp only
  by_cases hstate : s.camState = 0
  · rw [if_pos hstate]
    exact h
  · rw [if_neg hstate]
    have hsig : s.camSignal = 0 := h.exclusive.resolve_left hstate
    have hstore8 : ∀ t : Camera, ({ t with reserved8 := 0 } : Camera).engine = t.engine :=
      fun _ => rfl
    have hstore10 : ∀ t : Camera, ({ t with reserved10 := 0 } : Camera).engine = t.engine :=
      fun _ => rfl
    have hstoreState : ∀ t : Camera, ({ t with camState := 0 } : Camera).engine =
        { t.engine with camState := 0 } := fun _ => rfl
    generalize hu : (if s.powerRefcnt = 0 then ({ s with reserved8 := 0 } : Camera).emit .backlightOff
      else { s with reserved8 := 0 }) = u
    have huEngine : u.engine = s.engine := by
      rw [← hu]
      split
      · rw [engine_emit, hstore8]
      · exact hstore8 s
    generalize hv : (if u.callActive ≠ 0 then
      ({ ({ u with camState := 0 } : Camera).emit (.vsSend 0x8D []) with reserved10 := 0 } : Camera)
      else { u with camState := 0 }) = v
    have hvEngine : v.engine = { s.engine with camState := 0 } := by
      rw [← hv]
      split
      · rw [hstore10, engine_emit, hstoreState, huEngine]
      · rw [hstoreState, huEngine]
    have hsynced : ({ s.engine with camState := 0 } : Engine).Synced := h.synced
    have hstopped : (((v.fb0 1).closeAndStop).emit .videoChannel).engine =
        ({ s.engine with camState := 0 } : Engine).stop := by
      unfold fb0
      rw [engine_emit, engine_closeAndStop, engine_emit, hvEngine]
    generalize ((v.fb0 1).closeAndStop).emit .videoChannel = w at hstopped ⊢
    have hview : w.reserved11 = s.reserved11 :=
      (congrArg Engine.reserved11 hstopped).trans (Engine.reserved11_stop _)
    have hmode : w.videoMode = s.videoMode :=
      (congrArg Engine.videoMode hstopped).trans (Engine.videoMode_stop _)
    have hsource : w.reserved13 = s.reserved13 :=
      (congrArg Engine.reserved13 hstopped).trans (Engine.reserved13_stop _)
    have hrun : ∀ (c : Prop) [Decidable c], (if c then w.startAndOpen io else w).engine =
        if c then ({ s.engine with camState := 0 } : Engine).stop.start
        else ({ s.engine with camState := 0 } : Engine).stop := by
      intro c _
      split
      · rw [engine_startAndOpen, hstopped]
      · exact hstopped
    unfold label92
    rw [engine_emit, hrun, hview, hmode, hsource]
    exact hsynced.ok_more rfl hsig h.source

theorem ok_work60 (h : s.engine.Ok) (io : CaptureInput) : (s.work60 io).engine.Ok := by
  have hstore : ∀ t : Camera, ({ t with reserved9 := 1, reserved8 := 1 } : Camera).engine = t.engine :=
    fun _ => rfl
  unfold work60 fb1
  dsimp only
  by_cases hchange : s.camState ≠ 0 ∧ s.reserved8 = 0
  · rw [if_pos hchange, engine_startAndOpen, engine_emit, hstore, engine_cameraStop, engine_emit]
    exact h.synced.ok_restart (.inl hchange.1) h.exclusive h.source
  · rw [if_neg hchange]
    exact h

theorem ok_work61 (h : s.engine.Ok) (io : CaptureInput) : (s.work61 io).engine.Ok := by
  unfold work61
  split
  · rw [engine_emit, keeps_engine.checkNp, engine_emit]
    exact h
  · exact h

theorem ok_work64 (h : s.engine.Ok) : s.work64.engine.Ok := by
  unfold work64
  split
  · exact h
  · exact h

theorem ok_work66 (h : s.engine.Ok) (io : CaptureInput) : (s.work66 io).engine.Ok := by
  have hstore9 : ∀ (t : Camera) (x : U8), ({ t with reserved9 := x } : Camera).engine = t.engine :=
    fun _ _ => rfl
  have hstore10 : ∀ t : Camera, ({ t with reserved10 := 1 } : Camera).engine = t.engine := fun _ => rfl
  unfold work66
  dsimp only
  by_cases hstate : s.camState ≠ 0
  · rw [if_pos hstate, engine_emit, engine_cameraStart, engine_emit, engine_cameraStop, hstore10,
      engine_emit, hstore9, engine_emit]
    exact h.synced.ok_restart (.inl hstate) h.exclusive h.source
  · rw [if_neg hstate]
    exact h

/-- Every command keeps the invariant. -/
theorem ok_captureWork (h : s.engine.Ok) (c : CaptureCommand) (hc : NamesSource c) :
    (s.captureWork c.cmd1 c.cmd2 c.io).engine.Ok := by
  unfold captureWork
  split
  · exact ok_work46 h c.cmd2
  · exact ok_work47 h
  · rename_i hcmd1
    exact ok_work48 h c.io (hc (.inl hcmd1))
  · exact ok_work49 h c.cmd2
  · exact ok_work50 h c.io c.cmd2
  · exact ok_work51 h c.cmd2
  · exact ok_work52 h c.io c.cmd2
  · exact ok_work53 h c.io
  · exact ok_work54 h c.io
  · exact ok_work55 h c.io
  · exact ok_work56 h c.io c.cmd2
  · exact ok_work57 h c.io
  · exact ok_work58 h c.cmd2
  · exact ok_work59 h c.io
  · exact ok_work60 h c.io
  · exact ok_work61 h c.io
  · exact ok_work64 h
  · exact ok_work66 h c.io
  · exact h

end Commands

theorem Unused.ok (h : Unused s) : s.engine.Ok where
  synced := .inl ⟨h.gap1b_0, h.clocks⟩
  running := by
    have hoff : ¬ s.engine.running = 1 := by
      show ¬ s.gap1b_0 = 1
      rw [h.gap1b_0]
      decide
    refine iff_of_false hoff ?_
    rintro (hu | hu | hu | hu)
    · exact hu h.camState
    · exact hu h.camSignal
    · exact hu h.reserved11
    · exact hu h.reserved13
  exclusive := .inl h.camState
  source := fun hne => absurd h.reserved13 hne

theorem ok_captureRun (cs : List CaptureCommand) (h : s.engine.Ok) (hcs : ∀ c ∈ cs, NamesSource c) :
    (captureRun cs s).engine.Ok := by
  induction cs generalizing s with
  | nil => exact h
  | cons c cs ih =>
    have hc : NamesSource c := hcs c (List.mem_cons_self ..)
    have hrest : ∀ c' ∈ cs, NamesSource c' := fun c' hc' => hcs c' (List.mem_cons_of_mem c hc')
    exact ih (ok_captureWork h c hc) hrest

theorem engineOk_of_ok (h : s.engine.Ok) : EngineOk s := by
  have hclocks : s.clocks = ⟨s.gap1b_0.toNat, s.gap1b_0.toNat, s.gap1b_0.toNat, s.gap1b_0.toNat,
      s.gap1b_0.toNat⟩ := by
    rcases h.synced with ⟨hoff, hclocks⟩ | ⟨hon, hclocks⟩
    · have hoff' : s.gap1b_0 = 0 := hoff
      rw [hoff']
      exact hclocks
    · have hon' : s.gap1b_0 = 1 := hon
      rw [hon']
      exact hclocks
  have hexcl : ¬ (s.camState ≠ 0 ∧ s.camSignal ≠ 0) := by
    rintro ⟨hstate, hsig⟩
    rcases h.exclusive with hu | hu
    · exact hstate hu
    · exact hsig hu
  exact ⟨h.running, congrArg CifClocks.pdCif0 hclocks, congrArg CifClocks.aclkCif0 hclocks,
    congrArg CifClocks.hclkCif0 hclocks, congrArg CifClocks.clkCif0In hclocks,
    congrArg CifClocks.clkCif0Out hclocks, hexcl⟩

/-- After every sequence of commands the camera runs exactly if it is used. -/
theorem captureRun_engineOk (cs : List CaptureCommand) (s : Camera) (hs : Unused s)
    (hcs : ∀ c ∈ cs, NamesSource c) : EngineOk (captureRun cs s) :=
  engineOk_of_ok (ok_captureRun cs hs.ok hcs)

/-- A decoder that does not answer. -/
def silentInput : CaptureInput := ⟨⟨0, none, [], 0, 0⟩, ⟨none, none⟩, []⟩

/-- Source 2 is chosen and shown, and then the reverse view. -/
theorem captureRun_engineOk_reverse :
    EngineOk (captureRun [⟨46, 2, silentInput⟩, ⟨48, 2, silentInput⟩, ⟨56, 1000, silentInput⟩]
      default) := by
  apply captureRun_engineOk
  · exact ⟨rfl, rfl, rfl, rfl, rfl, rfl⟩
  · intro c hc
    simp only [List.mem_cons, List.not_mem_nil, or_false] at hc
    rcases hc with rfl | rfl | rfl
    · intro _
      exact (by decide : (2 : U32) ≠ 0)
    · intro _
      exact (by decide : (2 : U32) ≠ 0)
    · intro _
      exact (by decide : (1000 : U32) ≠ 0)

end Camera

end MtcDrivers
