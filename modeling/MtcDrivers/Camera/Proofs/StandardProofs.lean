import MtcDrivers.Camera.Standard

/-!
# When the video standard is tracked

`check_np` writes the page sets only if the standard differs from the one that its caller remembers, and
every caller but command `'='` stores the result.
-/

namespace MtcDrivers

/-- The remembered standard, and what the decoder has. -/
structure Standard where
  sta : U8
  page : Option PageSet
  cvbsAuto : U8
  ntsc : PageSet
  reserved19 : U8

/-- The remembered standard is none, or the one that the decoder has. -/
structure Standard.Ok (d : Standard) : Prop where
  sta : d.sta = 0 ∨ d.sta = 1 ∨ d.sta = 2
  pal : d.sta = 2 → d.page = some .pal ∧ d.cvbsAuto = 1
  ntsc : d.sta = 1 → d.page = some d.ntsc ∧ d.cvbsAuto = 0
  reserved19 : d.reserved19 = 0

namespace Camera

variable {s s' : Camera}

def standard (s : Camera) : Standard :=
  ⟨s.staVideoSignal, s.page, s.cvbsAuto, s.ntscSet, s.reserved19⟩

theorem standard_emit (s : Camera) (e : CameraEvent) : (s.emit e).standard = s.standard := rfl

theorem standard_setPage (s : Camera) (page : Option PageSet) :
    ({ s with page := page } : Camera).standard = { s.standard with page := page } := rfl

theorem standard_setCvbsAuto (s : Camera) (auto : U8) :
    ({ s with cvbsAuto := auto } : Camera).standard = { s.standard with cvbsAuto := auto } := rfl

theorem standard_setSta (s : Camera) (sta : U8) :
    ({ s with staVideoSignal := sta } : Camera).standard = { s.standard with sta := sta } := rfl

theorem standard_writePages (set : PageSet) (s : Camera) :
    (s.writePages set).standard = { s.standard with page := some set } := by
  unfold writePages
  rw [standard_setPage, standard_emit, standard_emit]

theorem standard_resetDecoder (s : Camera) : s.resetDecoder.standard = s.standard := by
  unfold resetDecoder
  rw [standard_emit, standard_emit]

/-- The result of the polling, and the set that is on the decoder after it. -/
theorem cvbsPoll_standard (polls : List (U8 × U8)) (sigCnt palCnt : U8) (s : Camera) :
    cvbsPoll polls sigCnt palCnt s = (1, s) ∨
      (cvbsPoll polls sigCnt palCnt s).1 = 2 ∧
        (cvbsPoll polls sigCnt palCnt s).2.standard =
          { s.standard with page := some .pal, cvbsAuto := 1 } := by
  induction polls generalizing sigCnt palCnt with
  | nil => exact .inl rfl
  | cons poll polls ih =>
    rcases poll with ⟨v7, v8⟩
    unfold cvbsPoll
    dsimp only
    by_cases hsig : v7 &&& 7 = 1 ∧ (if v7 &&& 7 = 1 then sigCnt + 1 else 0) = 5
    · rw [if_pos hsig, hsig.1]
      exact .inl rfl
    · rw [if_neg hsig]
      by_cases hpal : v8 &&& 4 ≠ 0 ∧ (if v8 &&& 4 ≠ 0 then palCnt + 1 else 0) = 4
      · rw [if_pos hpal]
        refine .inr ⟨rfl, ?_⟩
        rw [standard_resetDecoder, standard_writePages, standard_setCvbsAuto]
      · rw [if_neg hpal]
        exact ih _ _

/-- `T132B_CVBS_Auto` returns the standard that it leaves on the decoder. -/
theorem ok_t132bCvbsAuto (polls : List (U8 × U8)) (s : Camera) (h19 : s.reserved19 = 0) :
    ({ (t132bCvbsAuto polls s).2 with staVideoSignal := (t132bCvbsAuto polls s).1 } :
      Camera).standard.Ok := by
  have htwo : (2 : U8) ≠ 1 := by decide
  have hone : (1 : U8) ≠ 2 := by decide
  rw [standard_setSta]
  unfold t132bCvbsAuto
  dsimp only
  generalize hu : (({ s with cvbsAuto := 0 }.writePages s.ntscSet).emit
    (.i2cWrite 0x44 129 11)).resetDecoder = u
  have hstandard : u.standard = { s.standard with page := some s.ntscSet, cvbsAuto := 0 } := by
    rw [← hu, standard_resetDecoder, standard_emit, standard_writePages, standard_setCvbsAuto]
  rcases cvbsPoll_standard polls 0 0 u with hpoll | ⟨hresult, hpal⟩
  · rw [hpoll]
    dsimp only
    rw [hstandard]
    exact ⟨.inr (.inl rfl), fun h => absurd h hone, fun _ => ⟨rfl, rfl⟩, h19⟩
  · rw [hresult, hpal, hstandard]
    exact ⟨.inr (.inr rfl), fun _ => ⟨rfl, rfl⟩, fun h => absurd h htwo, h19⟩

/-- A start with a composite input. -/
theorem ok_cameraStart (io : StartInput) (hio : io.v13 ≠ 32) (hinput : s.decoderInput ≠ 1) :
    (s.cameraStart io).standard.Ok := by
  have hstart : ∀ t : Camera, t.decoderInput ≠ 1 → (t.startDecoder io).standard.Ok := by
    intro t ht
    unfold startDecoder t132bInit
    dsimp only
    rw [if_neg hio, if_neg ht]
    exact ok_t132bCvbsAuto io.polls _ rfl
  have hrunning : ∀ t : Camera, ({ t with gap1b_0 := 1 } : Camera).standard = t.standard := fun _ => rfl
  have hworking : ∀ t : Camera, ({ t with cameraWorking := 0 } : Camera).standard = t.standard :=
    fun _ => rfl
  unfold cameraStart
  dsimp only
  rw [standard_emit, hworking, standard_emit, hrunning, standard_emit]
  apply hstart
  generalize hu : (if s.gap1b_0 ≠ 0 then s.cameraStop else s) = u
  have hsame : u.decoderInput = s.decoderInput := by
    rw [← hu]
    unfold cameraStop
    by_cases hon : s.gap1b_0 ≠ 0
    · rw [if_pos hon, if_pos hon]
      rfl
    · rw [if_neg hon]
  intro heq
  exact hinput (hsame ▸ heq)

theorem ok_cameraStop (h : s.standard.Ok) : s.cameraStop.standard.Ok := by
  have hzero : ∀ n : U8, n ≠ 0 → (0 : U8) ≠ n := fun n hn => hn.symm
  unfold cameraStop
  dsimp only
  by_cases hon : s.gap1b_0 ≠ 0
  · rw [if_pos hon, standard_emit]
    exact ⟨.inl rfl, fun h0 => absurd h0 (hzero 2 (by decide)), fun h0 => absurd h0 (hzero 1 (by decide)),
      h.reserved19⟩
  · rw [if_neg hon]
    exact h

/-- The readings of `check_np` show a signal, in PAL or in NTSC. -/
def Reads (np : NpInput) (pal : Bool) : Prop :=
  ∃ v6 v7, np.v6 = some v6 ∧ np.v7 = some v7 ∧ v6 &&& 1 = 0 ∧ pal = decide (v7 &&& 4 ≠ 0)

/-- The three outcomes of `check_np`. -/
theorem checkNp_cases (np : NpInput) (sig : U8) (s : Camera) :
    (checkNp np sig s = (0, s) ∧ ∀ pal, ¬ Reads np pal) ∨
      (Reads np true ∧ (checkNp np sig s).1 = 2 ∧
        (checkNp np sig s).2.standard =
          if sig ≤ 1 then { s.standard with page := some .pal, cvbsAuto := 1 } else s.standard) ∨
      (Reads np false ∧ (checkNp np sig s).1 = 1 ∧
        (checkNp np sig s).2.standard =
          if sig = 2 ∨ sig = 0 then { s.standard with page := some s.ntscSet, cvbsAuto := 0 }
          else s.standard) := by
  have hwrite : ∀ (c : Prop) [Decidable c] (auto : U8) (set : PageSet),
      (if c then ({ s with cvbsAuto := auto }.writePages set).resetDecoder else s).standard =
        if c then { s.standard with page := some set, cvbsAuto := auto } else s.standard := by
    intro c _ auto set
    by_cases hc : c
    · rw [if_pos hc, if_pos hc, standard_resetDecoder, standard_writePages, standard_setCvbsAuto]
    · rw [if_neg hc, if_neg hc]
  rcases np with ⟨o6, o7⟩
  cases o6 with
  | none =>
    refine .inl ⟨rfl, ?_⟩
    rintro pal ⟨v6, v7, h6, -⟩
    cases h6
  | some v6 =>
    cases o7 with
    | none =>
      refine .inl ⟨rfl, ?_⟩
      rintro pal ⟨v6, v7, -, h7, -⟩
      cases h7
    | some v7 =>
      unfold checkNp
      dsimp only
      by_cases hsig : v6 &&& 1 = 0
      · rw [if_pos hsig]
        by_cases hpal : v7 &&& 4 ≠ 0
        · rw [if_pos hpal]
          exact .inr (.inl ⟨⟨v6, v7, rfl, rfl, hsig, (decide_eq_true hpal).symm⟩, rfl, hwrite _ _ _⟩)
        · rw [if_neg hpal]
          exact .inr (.inr ⟨⟨v6, v7, rfl, rfl, hsig, (decide_eq_false hpal).symm⟩, rfl, hwrite _ _ _⟩)
      · rw [if_neg hsig]
        refine .inl ⟨rfl, ?_⟩
        rintro pal ⟨w6, w7, h6, h7, hw, -⟩
        cases h6
        exact hsig hw

/-- With the remembered standard, what `check_np` returns is what it leaves on the decoder. -/
theorem ok_checkNp (h : s.standard.Ok) (np : NpInput) :
    ({ (checkNp np s.staVideoSignal s).2 with staVideoSignal := (checkNp np s.staVideoSignal s).1 } :
      Camera).standard.Ok := by
  have hle : (0 : U8) ≤ 1 ∧ (1 : U8) ≤ 1 ∧ ¬ (2 : U8) ≤ 1 := by decide
  have hne : (0 : U8) ≠ 1 ∧ (0 : U8) ≠ 2 ∧ (1 : U8) ≠ 2 ∧ (1 : U8) ≠ 0 ∧ (2 : U8) ≠ 1 := by decide
  rw [standard_setSta]
  rcases checkNp_cases np s.staVideoSignal s with ⟨hnone, -⟩ | ⟨-, hresult, hwrite⟩ | ⟨-, hresult, hwrite⟩
  · rw [hnone]
    exact ⟨.inl rfl, fun h0 => absurd h0 hne.2.1, fun h0 => absurd h0 hne.1, h.reserved19⟩
  · rw [hresult, hwrite]
    by_cases hsig : s.staVideoSignal ≤ 1
    · rw [if_pos hsig]
      exact ⟨.inr (.inr rfl), fun _ => ⟨rfl, rfl⟩, fun h0 => absurd h0 hne.2.2.2.2, h.reserved19⟩
    · rw [if_neg hsig]
      have hpal : s.standard.sta = 2 := by
        rcases h.sta with h0 | h1 | h2
        · have h0' : s.staVideoSignal = 0 := h0
          exact absurd (h0' ▸ hle.1) hsig
        · have h1' : s.staVideoSignal = 1 := h1
          exact absurd (h1' ▸ hle.2.1) hsig
        · exact h2
      exact ⟨.inr (.inr rfl), fun _ => h.pal hpal, fun h0 => absurd h0 hne.2.2.2.2, h.reserved19⟩
  · rw [hresult, hwrite]
    by_cases hsig : s.staVideoSignal = 2 ∨ s.staVideoSignal = 0
    · rw [if_pos hsig]
      exact ⟨.inr (.inl rfl), fun h0 => absurd h0 hne.2.2.1, fun _ => ⟨rfl, rfl⟩, h.reserved19⟩
    · rw [if_neg hsig]
      have hntsc : s.standard.sta = 1 := by
        rcases h.sta with h0 | h1 | h2
        · exact absurd (.inr h0) hsig
        · exact h1
        · exact absurd (.inl h2) hsig
      exact ⟨.inr (.inl rfl), fun h0 => absurd h0 hne.2.2.1, fun _ => h.ntsc hntsc, h.reserved19⟩

theorem ok_captureCheckWork (h : s.standard.Ok) (np : NpInput) (adv : Option U8) :
    (s.captureCheckWork np adv).standard.Ok := by
  have hadv : ¬ s.reserved19 ≠ 0 := fun hne => hne h.reserved19
  unfold captureCheckWork
  dsimp only
  by_cases hon : s.gap1b_0 ≠ 0
  · rw [if_pos hon]
    by_cases htype : s.decoderType = 4
    · rw [if_pos htype, standard_emit, standard_emit]
      exact h
    · rw [if_neg htype]
      by_cases hview : s.noView ∧ ¬ s.tvMode
      · rw [if_pos hview, standard_emit]
        exact h
      · rw [if_neg hview, if_neg hadv, standard_emit, standard_emit]
        exact ok_checkNp h np
  · rw [if_neg hon]
    exact h

theorem tracked_iff_ok (hsta : s.staVideoSignal = 0 ∨ s.staVideoSignal = 1 ∨ s.staVideoSignal = 2)
    (h19 : s.reserved19 = 0) : Tracked s ↔ s.standard.Ok :=
  ⟨fun h => ⟨hsta, h.pal, h.ntsc, h19⟩, fun h => ⟨h.pal, h.ntsc⟩⟩

/-- Command `'='` forgets the result of `check_np`: the standard is tracked after it exactly if the reading
    does not show the other one. -/
theorem tracked_work61 (h : s.standard.Ok) (io : CaptureInput) :
    (s.work61 io).standard.Ok ↔ Agrees io.np s := by
  unfold work61 Agrees
  by_cases hcheck : s.checksStandard = true
  · rw [if_pos hcheck, standard_emit]
    have hle : (0 : U8) ≤ 1 := by decide
    have hne : (1 : U8) ≠ 2 ∧ (2 : U8) ≠ 1 := by decide
    rcases checkNp_cases io.np 0 (s.emit .cancelCheck) with
      ⟨hnone, hreads⟩ | ⟨hreads, -, hwrite⟩ | ⟨hreads, -, hwrite⟩
    · -- nothing is read
      rw [hnone]
      refine iff_of_true h ?_
      intro _ v6 v7 h6 h7 hsig
      exact absurd ⟨v6, v7, h6, h7, hsig, rfl⟩ (hreads _)
    · -- PAL is read and written
      rw [hwrite, if_pos hle]
      rcases hreads with ⟨v6, v7, h6, h7, hsig, hpal⟩
      have hpal' : v7 &&& 4 ≠ 0 := of_decide_eq_true hpal.symm
      constructor
      · intro hok _ w6 w7 hw6 hw7 _ hsta
        rw [h7] at hw7
        cases hw7
        rw [if_pos hpal'] at hsta
        have hauto := (hok.ntsc hsta).2
        exact absurd hauto (by decide : (1 : U8) ≠ 0)
      · intro hagrees
        have hsta := hagrees hcheck v6 v7 h6 h7 hsig
        rw [if_pos hpal'] at hsta
        exact ⟨h.sta, fun _ => ⟨rfl, rfl⟩, fun h0 => absurd h0 hsta, h.reserved19⟩
    · -- NTSC is read and written
      rw [hwrite, if_pos (.inr rfl)]
      rcases hreads with ⟨v6, v7, h6, h7, hsig, hpal⟩
      have hpal' : ¬ v7 &&& 4 ≠ 0 := of_decide_eq_false hpal.symm
      constructor
      · intro hok _ w6 w7 hw6 hw7 _ hsta
        rw [h7] at hw7
        cases hw7
        rw [if_neg hpal'] at hsta
        have hauto := (hok.pal hsta).2
        exact absurd hauto (by decide : (0 : U8) ≠ 1)
      · intro hagrees
        have hsta := hagrees hcheck v6 v7 h6 h7 hsig
        rw [if_neg hpal'] at hsta
        exact ⟨h.sta, fun h0 => absurd h0 hsta, fun _ => ⟨rfl, rfl⟩, h.reserved19⟩
  · rw [if_neg hcheck]
    exact iff_of_true h fun hc => absurd hc hcheck

/-- A step keeps the standard tracked exactly if it agrees. -/
theorem ok_standardNext_iff (h : s.standard.Ok) {step : StandardStep}
    (hs' : standardNext step s = some s') : s'.standard.Ok ↔ StepAgrees step s := by
  have hother : (∀ io, step ≠ .recheck io) → StepAgrees step s := fun hne io heq => absurd heq (hne io)
  cases step with
  | start io =>
    unfold standardNext at hs'
    dsimp only at hs'
    by_cases hio : io.v13 ≠ 32 ∧ s.decoderInput ≠ 1
    · rw [if_pos hio] at hs'
      cases hs'
      exact iff_of_true (ok_cameraStart io hio.1 hio.2) (hother (by simp))
    · rw [if_neg hio] at hs'
      cases hs'
  | stop =>
    cases hs'
    exact iff_of_true (ok_cameraStop h) (hother (by simp))
  | check np =>
    cases hs'
    exact iff_of_true (ok_captureCheckWork h np none) (hother (by simp))
  | recheck io =>
    cases hs'
    refine (tracked_work61 h io).trans ⟨?_, fun hagrees => hagrees io rfl⟩
    intro hagrees io' heq
    cases heq
    exact hagrees
  | status camState reserved9 camSignal reserved11 reserved13 videoMode =>
    cases hs'
    exact iff_of_true ⟨h.sta, h.pal, h.ntsc, h.reserved19⟩ (hother (by simp))

/-- Also `'='` leaves `sta_video_signal` as it is. -/
theorem range_work61 (h : s.standard.Ok) (io : CaptureInput) :
    ((s.work61 io).staVideoSignal = 0 ∨ (s.work61 io).staVideoSignal = 1 ∨
      (s.work61 io).staVideoSignal = 2) ∧ (s.work61 io).reserved19 = 0 := by
  have hcases : (s.work61 io).standard.sta = s.standard.sta ∧
      (s.work61 io).standard.reserved19 = s.standard.reserved19 := by
    unfold work61
    by_cases hcheck : s.checksStandard = true
    · rw [if_pos hcheck, standard_emit]
      rcases checkNp_cases io.np 0 (s.emit .cancelCheck) with
        ⟨hnone, -⟩ | ⟨-, -, hwrite⟩ | ⟨-, -, hwrite⟩
      · rw [hnone]
        exact ⟨rfl, rfl⟩
      · rw [hwrite, if_pos (by decide)]
        exact ⟨rfl, rfl⟩
      · rw [hwrite, if_pos (.inr rfl)]
        exact ⟨rfl, rfl⟩
    · rw [if_neg hcheck]
      exact ⟨rfl, rfl⟩
  have hsta : (s.work61 io).staVideoSignal = s.staVideoSignal := hcases.1
  rw [hsta]
  exact ⟨h.sta, hcases.2.trans h.reserved19⟩

/-- If a step agrees or leads to a state that tracks the standard, the invariant goes on. -/
theorem ok_of_tracked (h : s.standard.Ok) {step : StandardStep} (hs' : standardNext step s = some s')
    (htracked : Tracked s') : s'.standard.Ok := by
  by_cases hagrees : StepAgrees step s
  · exact (ok_standardNext_iff h hs').mpr hagrees
  · cases step with
    | recheck io =>
      cases hs'
      have ⟨hsta, h19⟩ := range_work61 h io
      exact (tracked_iff_ok hsta h19).mp htracked
    | start io => exact absurd (fun io heq => by cases heq) hagrees
    | stop => exact absurd (fun io heq => by cases heq) hagrees
    | check np => exact absurd (fun io heq => by cases heq) hagrees
    | status => exact absurd (fun io heq => by cases heq) hagrees

theorem AllTracked.head {steps : List StandardStep} (h : AllTracked steps s) : Tracked s := by
  cases steps with
  | nil => exact h
  | cons step steps => exact h.1

theorem allTracked_iff (h : s.standard.Ok) (steps : List StandardStep) :
    AllTracked steps s ↔ AllAgree steps s := by
  have htracked : Tracked s := ⟨h.pal, h.ntsc⟩
  induction steps generalizing s with
  | nil => exact iff_of_true htracked trivial
  | cons step steps ih =>
    constructor
    · rintro ⟨-, hrest⟩
      constructor
      · cases hs' : standardNext step s with
        | none =>
          intro io heq
          rw [heq] at hs'
          cases hs'
        | some s' =>
          have hok := ok_of_tracked h hs' (hrest s' hs').head
          exact (ok_standardNext_iff h hs').mp hok
      · intro s' hs'
        have hok := ok_of_tracked h hs' (hrest s' hs').head
        exact (ih hok ⟨hok.pal, hok.ntsc⟩).mp (hrest s' hs')
    · rintro ⟨hagrees, hrest⟩
      refine ⟨htracked, fun s' hs' => ?_⟩
      have hok := (ok_standardNext_iff h hs').mpr hagrees
      exact (ih hok ⟨hok.pal, hok.ntsc⟩).mpr (hrest s' hs')

theorem NoStandard.ok (h : NoStandard s) : s.standard.Ok where
  sta := .inl h.staVideoSignal
  pal := by
    intro hsta
    have hsta' : s.staVideoSignal = 2 := hsta
    rw [h.staVideoSignal] at hsta'
    exact absurd hsta' (by decide)
  ntsc := by
    intro hsta
    have hsta' : s.staVideoSignal = 1 := hsta
    rw [h.staVideoSignal] at hsta'
    exact absurd hsta' (by decide)
  reserved19 := h.reserved19

/-- From the first start on, the standard is tracked in every state exactly if every `'='` agrees. -/
theorem video_standard_tracked_iff (steps : List StandardStep) (s : Camera) (hs : NoStandard s) :
    AllTracked steps s ↔ AllAgree steps s :=
  allTracked_iff hs.ok steps

/-- The TV input is shown, and the decoder finds no PAL signal at first. -/
def tvShown : List StandardStep :=
  [.status 0 0 0 0 1 5, .start ⟨0, none, [], 0, 0⟩]

/-- A `'='` that reads `v7`. -/
def recheckInput (v7 : U8) : CaptureInput := ⟨⟨0, none, [], 0, 0⟩, ⟨some 0, some v7⟩, []⟩

theorem AllTracked.tail {step : StandardStep} {steps : List StandardStep}
    (h : AllTracked (step :: steps) s) (hs' : standardNext step s = some s') : AllTracked steps s' :=
  h.2 s' hs'

theorem AllAgree.cons {step : StandardStep} {steps : List StandardStep} (hstep : StepAgrees step s)
    (hnext : standardNext step s = some s') (h : AllAgree steps s') : AllAgree (step :: steps) s := by
  refine ⟨hstep, fun t ht => ?_⟩
  rw [hnext] at ht
  cases ht
  exact h

/-- `video_standard_tracked_iff` for a `'='` that reads NTSC again. -/
theorem video_standard_tracked_ntsc :
    AllTracked (tvShown ++ [.recheck (recheckInput 0)]) default := by
  apply (video_standard_tracked_iff _ _ ⟨rfl, rfl⟩).mpr
  refine AllAgree.cons (fun io heq => by cases heq) rfl ?_
  refine AllAgree.cons (fun io heq => by cases heq) rfl ?_
  refine AllAgree.cons ?_ rfl trivial
  intro io heq
  cases heq
  intro _ v6 v7 _ h7 _
  cases h7
  exact (by decide : (1 : U8) ≠ if (0 : U8) &&& 4 ≠ 0 then 1 else 2)

/-- A `'='` that reads PAL: the decoder gets the PAL set, and `sta_video_signal` stays 1. -/
theorem not_tracked_pal_recheck : ¬ AllTracked (tvShown ++ [.recheck (recheckInput 4)]) default := by
  intro h
  have hend := ((h.tail rfl).tail rfl).tail rfl
  have htracked : Tracked _ := hend
  have hpage := (htracked.ntsc rfl).2
  exact absurd hpage (by decide : (1 : U8) ≠ 0)

end Camera

end MtcDrivers
