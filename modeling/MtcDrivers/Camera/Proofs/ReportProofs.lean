import MtcDrivers.Camera.Report
import MtcDrivers.Camera.Proofs.FrameProofs
import MtcDrivers.Camera.Proofs.EngineProofs

/-!
# When the video status event is right

`camera_start` masks a single byte where `capture_check_work` masks the four bytes of the view flags, and it
has no return for the other video modes.
-/

namespace MtcDrivers

namespace Camera

/-- The fields that the message is made of, and the messages so far. -/
structure Shown where
  camState : U8
  camSignal : U8
  reserved11 : U8
  videoMode : U8
  reports : List (List U8)

def shown (s : Camera) : Shown :=
  ⟨s.camState, s.camSignal, s.reserved11, s.videoMode, sentReports s.log⟩

theorem keeps_shown : Keeps shown where
  writeTable _ _ := rfl
  pageWrite _ _ _ := rfl
  i2cWrite _ _ _ _ := rfl
  page _ _ := rfl
  cvbsAuto _ _ := rfl
  uvValue _ _ _ := rfl
  decoderType _ _ := rfl

/-- The message for what is shown with the signal `sta`. -/
def Shown.report (d : Shown) (sta : U8) : Option (List U8) :=
  let signal : U8 := if sta ≠ 0 then 1 else 0
  if d.camState ≠ 0 ∨ d.camSignal ≠ 0 ∨ d.reserved11 ≠ 0 then some [signal, 1]
  else if d.videoMode = 3 then some [signal, 2]
  else if d.videoMode = 5 then some [signal, 3]
  else if d.videoMode = 7 then some [signal, 4]
  else none

theorem statusReport_shown (s : Camera) : s.statusReport = s.shown.report s.staVideoSignal := rfl

theorem sentReports_shown (s : Camera) : sentReports s.log = s.shown.reports := rfl

theorem shown_cameraStop (s : Camera) : s.cameraStop.shown = s.shown := by
  unfold cameraStop
  split
  · rfl
  · rfl

/-- The state at the point where `camera_start` sends its message. -/
def started (io : StartInput) (s : Camera) : Camera :=
  let s := (if s.gap1b_0 ≠ 0 then s.cameraStop else s).emit (.cifPower true)
  let s := { s with clocks := s.clocks.add 1, gap1_0 := 0, dtvType := s.startDtvType }
  s.startDecoder io

theorem shown_started (io : StartInput) (s : Camera) : (s.started io).shown = s.shown := by
  have hstop : (if s.gap1b_0 ≠ 0 then s.cameraStop else s).shown = s.shown := by
    split
    · exact shown_cameraStop s
    · rfl
  have hset : ∀ (t : Camera) (d : ℤ) (dtv : U8),
      ({ t.emit (.cifPower true) with clocks := t.clocks.add d, gap1_0 := 0, dtvType := dtv } : Camera).shown =
        t.shown := fun _ _ _ => rfl
  unfold started
  dsimp only
  rw [keeps_shown.startDecoder (fun _ _ _ => ⟨rfl, rfl⟩)]
  exact (hset _ 1 _).trans hstop

theorem cameraStart_started (io : StartInput) (s : Camera) :
    s.cameraStart io =
      let t := { (s.started io).emit (.vsSend 158 ((s.started io).startReport io)) with gap1b_0 := 1 }
      ({ t.emit .vipReset with cameraWorking := 0 }).emit .queueCheck := by
  unfold cameraStart started
  rfl

theorem cameraStart_shown (io : StartInput) (s : Camera) :
    (s.cameraStart io).shown =
      { s.shown with reports := (s.started io).startReport io :: sentReports s.log } := by
  have hsend : ∀ t : Camera,
      (({ ({ t.emit (.vsSend 158 (t.startReport io)) with gap1b_0 := 1 } : Camera).emit .vipReset with
        cameraWorking := 0 } : Camera).emit .queueCheck).shown =
          { t.shown with reports := t.startReport io :: t.shown.reports } := fun _ => rfl
  rw [cameraStart_started]
  dsimp only
  rw [hsend, shown_started]
  rfl

theorem cameraStart_sta (io : StartInput) (s : Camera) :
    (s.cameraStart io).staVideoSignal = (s.started io).staVideoSignal := by
  rw [cameraStart_started]
  generalize s.started io = t
  rfl

/-- The single byte has no bit of the mask. -/
theorem reserved9_and (s : Camera) : s.reserved9.setWidth 32 &&& 0xFF00FF00#32 = 0 := by
  have hwide : s.reserved9.setWidth 32 = 0#24 ++ s.reserved9 := BitVec.setWidth_eq_append (by omega)
  have hbytes : (0xFF00FF00#32 : U32) = 0xFF00FF#24 ++ 0#8 := rfl
  rw [hwide, hbytes, BitVec.and_append, BitVec.and_zero, BitVec.zero_and]
  rfl

theorem startReport_camera {s : Camera} (h : s.camState ≠ 0) (io : StartInput) :
    s.startReport io = [if s.staVideoSignal ≠ 0 then 1 else 0, 1] :=
  if_pos (.inl h)

theorem startReport_source {s : Camera} (h : s.camState = 0) (io : StartInput) :
    let signal : U8 := if s.staVideoSignal ≠ 0 then 1 else 0
    s.startReport io =
      if s.videoMode = 3 then [signal, 2]
      else if s.videoMode = 5 then [signal, 3]
      else if s.videoMode = 7 then [signal, 4]
      else [io.v14, io.v15] := by
  have hmask : ¬ (s.camState ≠ 0 ∨ s.reserved9.setWidth 32 &&& 0xFF00FF00#32 ≠ 0) := by
    rintro (hs | hs)
    · exact hs h
    · exact hs (reserved9_and s)
  exact if_neg hmask

theorem noView_shown {s t : Camera} (h : t.shown = s.shown) : t.noView = s.noView := by
  have hcam : t.camState = s.camState := congrArg Shown.camState h
  have hsig : t.camSignal = s.camSignal := congrArg Shown.camSignal h
  have hview : t.reserved11 = s.reserved11 := congrArg Shown.reserved11 h
  rw [Bool.eq_iff_iff, noView_iff, noView_iff, hcam, hsig, hview]

theorem checkSource_shown {s t : Camera} (h : t.shown = s.shown) : t.checkSource = s.checkSource := by
  have hcam : t.camState = s.camState := congrArg Shown.camState h
  have hmode : t.videoMode = s.videoMode := congrArg Shown.videoMode h
  unfold checkSource
  rw [noView_shown h, hcam, hmode]

theorem noView_eq_false {s : Camera} (h : s.camState ≠ 0 ∨ s.camSignal ≠ 0 ∨ s.reserved11 ≠ 0) :
    s.noView = false := by
  rw [Bool.eq_false_iff, Ne, noView_iff]
  rintro ⟨hcam, hsig, hview⟩
  rcases h with h | h | h
  · exact h hcam
  · exact h hsig
  · exact h hview

/-- What `capture_check_work` sends, if it sends, is the message of the status. -/
theorem report_checkSource {s : Camera} (h : ¬ (s.noView = true ∧ ¬ s.tvMode = true)) (sta : U8) :
    s.shown.report sta = some [if sta ≠ 0 then 1 else 0, s.checkSource] := by
  unfold Shown.report checkSource
  by_cases hview : s.camState ≠ 0 ∨ s.camSignal ≠ 0 ∨ s.reserved11 ≠ 0
  · rw [noView_eq_false hview]
    exact if_pos hview
  · have hno : s.noView = true := by
      simp only [not_or, not_not] at hview
      exact (noView_iff s).mpr hview
    have htv : s.tvMode = true := not_not.mp (fun htv => h ⟨hno, htv⟩)
    unfold tvMode at htv
    simp only [Bool.or_eq_true, decide_eq_true_eq] at htv
    rw [hno, if_pos rfl]
    refine (if_neg hview).trans ?_
    show (if s.videoMode = 3 then _ else if s.videoMode = 5 then _ else if s.videoMode = 7 then _ else _) = _
    split
    · rfl
    · split
      · rfl
      · have hseven : s.videoMode = 7 := by tauto
        rw [if_pos hseven, if_pos hseven]

theorem report_eq_none {s : Camera} (h : s.noView = true ∧ ¬ s.tvMode = true) (sta : U8) :
    s.shown.report sta = none := by
  obtain ⟨hcam, hsig, hview⟩ := (noView_iff s).mp h.1
  have htv := h.2
  unfold tvMode at htv
  simp only [Bool.or_eq_true, decide_eq_true_eq, not_or] at htv
  have hshown : ¬ (s.camState ≠ 0 ∨ s.camSignal ≠ 0 ∨ s.reserved11 ≠ 0) := by
    simp only [not_or, not_not]
    exact ⟨hcam, hsig, hview⟩
  refine (if_neg hshown).trans ?_
  exact (if_neg htv.1.1).trans ((if_neg htv.1.2).trans (if_neg htv.2))

/-- The message of `capture_check_work` is the one of the status that it leaves. -/
theorem captureCheckWork_reports {s : Camera} (hrun : s.gap1b_0 ≠ 0) (htype : s.decoderType ≠ 4)
    (np : NpInput) (adv : Option U8) :
    sentReports (s.captureCheckWork np adv).log =
      (s.shown.report (s.captureCheckWork np adv).staVideoSignal).toList ++ sentReports s.log := by
  by_cases hskip : s.noView = true ∧ ¬ s.tvMode = true
  · rw [report_eq_none hskip]
    unfold captureCheckWork
    rw [if_pos hrun, if_neg htype, if_pos hskip]
    rfl
  · rw [report_checkSource hskip]
    have hsend : ∀ (t : Camera) (sta : U8), t.shown = s.shown →
        sentReports (({ t with staVideoSignal := sta } : Camera).emit (.vsSend 158
          [if sta ≠ 0 then 1 else 0, ({ t with staVideoSignal := sta } : Camera).checkSource])).log =
          [if sta ≠ 0 then 1 else 0, s.checkSource] :: sentReports s.log := by
      intro t sta h
      have hset : ({ t with staVideoSignal := sta } : Camera).shown = s.shown := h
      have hlog : sentReports t.log = sentReports s.log := congrArg Shown.reports h
      rw [checkSource_shown hset, ← hlog]
      rfl
    unfold captureCheckWork
    rw [if_pos hrun, if_neg htype, if_neg hskip]
    by_cases hadv : s.reserved19 ≠ 0
    · rw [if_pos hadv]
      generalize hr : (if s.staVideoSignal ≠ 4 then checkNpAdv7181d adv true s else (4, false, s)) = r
      have hshown : r.2.2.shown = s.shown := by
        rw [← hr]
        split
        · exact keeps_shown.checkNpAdv7181d adv true s
        · rfl
      obtain ⟨sta, changed, t⟩ := r
      cases changed with
      | false => exact hsend t sta hshown
      | true => exact hsend t sta hshown
    · rw [if_neg hadv]
      exact hsend _ _ (keeps_shown.checkNp np s.staVideoSignal s)

theorem cameraStart_report (io : StartInput) (s : Camera) :
    sentReports (s.cameraStart io).log = (s.started io).startReport io :: sentReports s.log := by
  rw [sentReports_shown, cameraStart_shown]

theorem cameraStart_statusReport (io : StartInput) (s : Camera) :
    (s.cameraStart io).statusReport = s.shown.report (s.cameraStart io).staVideoSignal := by
  rw [statusReport_shown, cameraStart_shown]
  rfl

/-- The messages of `camera_start` where its two bytes are defined. -/
def Defined (s : Camera) : Prop :=
  s.camState ≠ 0 ∨
    s.camSignal = 0 ∧ s.reserved11 = 0 ∧ (s.videoMode = 3 ∨ s.videoMode = 5 ∨ s.videoMode = 7)

theorem report_started {s : Camera} (h : s.Defined) (io : StartInput) :
    s.shown.report (s.started io).staVideoSignal = some ((s.started io).startReport io) := by
  have hcam : (s.started io).camState = s.camState := congrArg Shown.camState (shown_started io s)
  have hmode : (s.started io).videoMode = s.videoMode := congrArg Shown.videoMode (shown_started io s)
  by_cases hs : s.camState = 0
  · obtain ⟨hsig, hview, htv⟩ := h.resolve_left (not_not.mpr hs)
    have hshown : ¬ (s.camState ≠ 0 ∨ s.camSignal ≠ 0 ∨ s.reserved11 ≠ 0) := by
      simp only [not_or, not_not]
      exact ⟨hs, hsig, hview⟩
    rw [startReport_source (hcam.trans hs), hmode]
    refine (if_neg hshown).trans ?_
    show (if s.videoMode = 3 then _ else if s.videoMode = 5 then _ else if s.videoMode = 7 then _ else _) = _
    rcases htv with htv | htv | htv
    · rw [htv]
      rfl
    · rw [htv]
      rfl
    · rw [htv]
      rfl
  · rw [startReport_camera (by rw [hcam]; exact hs)]
    exact if_pos (.inl hs)

theorem started_bytes (io : StartInput) (v14 v15 : U8) (s : Camera) :
    s.started { io with v14 := v14, v15 := v15 } = s.started io := by
  unfold started startDecoder
  rfl

/-- Elsewhere the second byte is not the one of the view, or there is a message that should not be. -/
theorem report_ne_started {s : Camera} (h : ¬ s.Defined) (io : StartInput) :
    s.shown.report (s.started io).staVideoSignal ≠
      some ((s.started io).startReport { io with v14 := 0, v15 := 0 }) := by
  have hcam : (s.started io).camState = s.camState := congrArg Shown.camState (shown_started io s)
  have hmode : (s.started io).videoMode = s.videoMode := congrArg Shown.videoMode (shown_started io s)
  obtain ⟨hs, htv⟩ := not_or.mp h
  rw [startReport_source (hcam.trans (not_not.mp hs)), hmode]
  by_cases hview : s.camState ≠ 0 ∨ s.camSignal ≠ 0 ∨ s.reserved11 ≠ 0
  · have hreport : s.shown.report (s.started io).staVideoSignal =
        some [if (s.started io).staVideoSignal ≠ 0 then 1 else 0, 1] := if_pos hview
    rw [hreport]
    intro heq
    have hsecond := congrArg (fun message => message[1]?) (Option.some.inj heq)
    generalize (if (s.started io).staVideoSignal ≠ 0 then (1 : U8) else 0) = signal at hsecond
    split_ifs at hsecond <;> simp at hsecond
  · have hviews := hview
    simp only [not_or, not_not] at hviews
    have hmodes : ¬ s.videoMode = 3 ∧ ¬ s.videoMode = 5 ∧ ¬ s.videoMode = 7 :=
      ⟨fun h3 => htv ⟨hviews.2.1, hviews.2.2, .inl h3⟩, fun h5 => htv ⟨hviews.2.1, hviews.2.2, .inr (.inl h5)⟩,
        fun h7 => htv ⟨hviews.2.1, hviews.2.2, .inr (.inr h7)⟩⟩
    have hreport : s.shown.report (s.started io).staVideoSignal = none :=
      (if_neg hview).trans ((if_neg hmodes.1).trans ((if_neg hmodes.2.1).trans (if_neg hmodes.2.2)))
    rw [hreport]
    exact (Option.some_ne_none _).symm

/-- Both senders agree, on defined bytes, exactly where the camera is shown or nothing else than a source
    is. -/
theorem cameraStart_reports_iff (io : StartInput) (s : Camera) :
    ReportsDefined io s ↔ s.camState ≠ 0 ∨
      s.camSignal = 0 ∧ s.reserved11 = 0 ∧ (s.videoMode = 3 ∨ s.videoMode = 5 ∨ s.videoMode = 7) := by
  constructor
  · intro h
    by_contra hnot
    have hstart := (h 0 0).start
    rw [cameraStart_report, cameraStart_statusReport, cameraStart_sta, started_bytes,
      ← List.singleton_append, List.append_left_inj] at hstart
    apply report_ne_started hnot io
    cases hreport : s.shown.report (s.started io).staVideoSignal with
    | none =>
      rw [hreport] at hstart
      exact absurd hstart (List.cons_ne_nil _ _)
    | some message =>
      rw [hreport] at hstart
      exact congrArg some (List.singleton_inj.mp hstart).symm
  · intro h v14 v15
    constructor
    · rw [cameraStart_report, cameraStart_statusReport, cameraStart_sta, report_started h]
      rfl
    · intro np adv htype hsta
      have hrun : (s.cameraStart { io with v14 := v14, v15 := v15 }).gap1b_0 ≠ 0 := by
        rw [cameraStart_started]
        show (1 : U8) ≠ 0
        decide
      rw [captureCheckWork_reports hrun htype, hsta]
      rfl

/-- The sound signal from the camera while the TV is on. -/
def signalShown : Camera := { (default : Camera) with camSignal := 1, videoMode := 5 }

theorem not_reportsDefined_signal : ¬ ReportsDefined ⟨0, none, [], 0, 0⟩ signalShown := by
  intro h
  have hstart := (h 0 0).start
  rw [cameraStart_report, cameraStart_statusReport] at hstart
  revert hstart
  decide

end Camera

end MtcDrivers
