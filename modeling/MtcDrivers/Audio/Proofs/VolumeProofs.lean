import MtcDrivers.Audio.Volume

/-!
# The volume is restored

The frames do not take part in what the audio work does, and every routine but one ends with fade step 0
behind its last frame.
-/

namespace MtcDrivers

namespace AudioUnit

/-! ## The audio part -/

theorem sendVolume_audio (volume : U32) (u : AudioUnit) : (u.sendVolume volume).audio = u.audio := by
  unfold sendVolume
  split
  · rfl
  · split <;> rfl

theorem setVolume_audio (volume : U32) (u : AudioUnit) :
    (u.setVolume volume).audio = u.audio.emit (.setVolume (volume.setWidth 8)) := by
  show (u.sendVolume volume).audio.emit _ = _
  rw [sendVolume_audio]

theorem sendVolume_state (volume : U32) (u : AudioUnit) : (u.sendVolume volume).state = u.state :=
  congrArg Audio.state (sendVolume_audio volume u)

theorem map_audio (u : AudioUnit) (f : AudioState → AudioState) : (u.map f).audio = u.audio.map f := rfl

theorem emit_audio (u : AudioUnit) (e : AudioEvent) : (u.emit e).audio = u.audio.emit e := rfl

theorem sendMute_audio (u : AudioUnit) : u.sendMute.audio = u.audio.sendMute := rfl

theorem setWidth_eq_zero_iff (mode : U8) : mode.setWidth 32 = (0 : U32) ↔ mode = 0 := by
  constructor
  · intro h
    have hback := congrArg (BitVec.setWidth 8) h
    simpa using hback
  · rintro rfl
    rfl

theorem setWidth_setWidth (mode : U8) : (mode.setWidth 32 : U32).setWidth 8 = mode := by simp

theorem silence_audio (u : AudioUnit) :
    u.silence.audio =
      ((u.audio.emit (.setVolume 60)).map fun s => { s with gap11_1 := 0, mute := 0 }).sendMute := by
  rw [silence, sendMute_audio, map_audio, setVolume_audio]
  rfl

theorem hangUp_audio (u : AudioUnit) :
    u.hangUp.audio =
      ((((u.audio.emit (.setVolume 60)).emit
        (.channel (if u.audio.state.chStatus ≠ 0 then 4 else u.audio.state.audioCh))).map
          fun s => { s with chMode := 0 }).emit (.btMicControl 0)).emit (.armSendMulti 0x9021 []) := by
  unfold hangUp
  simp only [emit_audio, map_audio, setVolume_audio, state]
  rfl

/-- On the audio part `Audio_PhoneChannel` is that of the audio work. -/
theorem phoneChannel_audio (mode : U8) (u : AudioUnit) :
    (u.phoneChannel (mode.setWidth 32)).audio = u.audio.phoneChannel mode := by
  unfold phoneChannel Audio.phoneChannel
  simp only [ne_eq, setWidth_eq_zero_iff, setWidth_setWidth, show u.state = u.audio.state from rfl]
  by_cases hajx : ¬ u.audio.state.ajxActive = 0
  · rw [if_pos hajx, if_pos hajx]
    rfl
  rw [if_neg hajx, if_neg hajx]
  by_cases hmode : ¬ mode = 0
  · rw [if_pos hmode, if_pos hmode, setVolume_audio, emit_audio, emit_audio, map_audio, emit_audio,
      silence_audio]
    rfl
  rw [if_neg hmode, if_neg hmode]
  have hstate : u.hangUp.state.mute = u.audio.state.mute := by
    rw [state, hangUp_audio]
    rfl
  rw [hstate]
  by_cases hmute : ¬ u.audio.state.mute = 0
  · rw [if_pos hmute, setVolume_audio, hangUp_audio]
    exact (if_pos hmute).symm
  · rw [if_neg hmute, hangUp_audio]
    exact (if_neg hmute).symm

/-- On the audio part `Audio_AJXChannel` is that of the audio work. -/
theorem ajxChannel_audio (mode : U32) (u : AudioUnit) :
    (u.ajxChannel mode).audio = u.audio.ajxChannel (decide (mode ≠ 0)) := by
  unfold ajxChannel Audio.ajxChannel
  by_cases h : mode ≠ 0
  · rw [if_pos h, if_pos (decide_eq_true h), setVolume_audio, map_audio, emit_audio, emit_audio,
      silence_audio]
    rfl
  · rw [if_neg h, if_neg (by simpa using h)]
    simp only [setVolume_audio, emit_audio, map_audio, state]
    rfl

/-- On the audio part `Audio_TAChannel` is that of the audio work. -/
theorem taChannel_audio (mode : U8) (u : AudioUnit) :
    (u.taChannel (mode.setWidth 32)).audio = u.audio.taChannel mode := by
  unfold taChannel Audio.taChannel
  simp only [ne_eq, setWidth_eq_zero_iff, setWidth_setWidth]
  by_cases hbusy : ¬ u.state.ajxActive = 0 ∨ u.state.chMode > 0
  · rw [if_pos hbusy]
    exact (if_pos hbusy).symm
  rw [if_neg hbusy]
  refine Eq.trans ?_ (if_neg hbusy).symm
  by_cases hmode : ¬ mode = 0
  · rw [if_pos hmode, if_pos hmode]
    by_cases hch : u.state.audioCh = 4
    · rw [if_pos hch, setVolume_audio, setWidth_setWidth]
      exact (if_pos hch).symm
    · rw [if_neg hch, setVolume_audio, map_audio, emit_audio, silence_audio]
      exact (if_neg hch).symm
  · rw [if_neg hmode, if_neg hmode]
    by_cases hch : u.state.audioCh = 4
    · rw [if_pos hch, setVolume_audio]
      exact (if_pos hch).symm
    · rw [if_neg hch]
      simp only [setVolume_audio, emit_audio, map_audio, state]
      exact (if_neg hch).symm

/-! ## What the frames change -/

/-- Nothing but frames was added. -/
def OnlyFrames (u v : AudioUnit) : Prop := v = { u with frames := v.frames }

theorem OnlyFrames.refl (u : AudioUnit) : OnlyFrames u u := rfl

theorem OnlyFrames.trans {u v w : AudioUnit} (h : OnlyFrames u v) (h' : OnlyFrames v w) :
    OnlyFrames u w := by
  unfold OnlyFrames at h h' ⊢
  rw [h', h]

theorem onlyFrames_sendVolume (volume : U32) (u : AudioUnit) : OnlyFrames u (u.sendVolume volume) := by
  unfold sendVolume
  split
  · rfl
  · split <;> rfl

theorem onlyFrames_foldl_sendVolume (fade : List U32) (u : AudioUnit) :
    OnlyFrames u (fade.foldl (fun u volume => u.sendVolume volume) u) := by
  induction fade generalizing u with
  | nil => exact .refl u
  | cons volume rest ih => exact (onlyFrames_sendVolume volume u).trans (ih _)

theorem onlyFrames_fadeOutSteps (fade : List U32) (u : AudioUnit) : OnlyFrames u (fadeOutSteps fade u) := by
  induction fade generalizing u with
  | nil => exact .refl u
  | cons volume rest ih =>
    unfold fadeOutSteps
    split
    · exact onlyFrames_sendVolume volume u
    · exact (onlyFrames_sendVolume volume u).trans (ih _)

/-- A fade in sends frames. -/
theorem fadeIn_eq (u : AudioUnit) : ∃ v, OnlyFrames u v ∧ u.fadeIn = v.emit .fadeIn := by
  refine ⟨_, ?_, rfl⟩
  split
  · split
    · exact onlyFrames_sendVolume 0 u
    · exact onlyFrames_foldl_sendVolume _ u
  · exact .refl u

/-- A fade out sends frames. -/
theorem fadeOut_eq (u : AudioUnit) : ∃ v, OnlyFrames u v ∧ u.fadeOut = v.emit .fadeOut := by
  refine ⟨_, ?_, rfl⟩
  split
  · split
    · exact onlyFrames_sendVolume 60 u
    · exact onlyFrames_fadeOutSteps _ u
  · exact .refl u

/-! ## What a frame depends on -/

/-- The frames depend on the state and the configuration of the volume only. -/
structure SameVolume (u v : AudioUnit) : Prop where
  state : v.state = u.state
  cfgBt : v.cfgBt = u.cfgBt
  backviewVol : v.backviewVol = u.backviewVol
  avGpsSwitch : v.avGpsSwitch = u.avGpsSwitch

theorem SameVolume.volumeFrame {u v : AudioUnit} (h : SameVolume u v) (volume : U32) :
    v.volumeFrame volume = u.volumeFrame volume := by
  have hbt : v.bt267 = u.bt267 := by simp only [bt267, h.cfgBt]
  have hsource : v.sourceLevels = u.sourceLevels := by
    simp only [sourceLevels, h.state, h.avGpsSwitch]
  have hphone : v.phoneLevels = u.phoneLevels := by simp only [phoneLevels, h.state, h.cfgBt]
  have hcamera : ∀ l, v.cameraLevels l = u.cameraLevels l := by
    intro l
    simp only [cameraLevels, h.state, h.backviewVol]
  have hlevels : v.levels = u.levels := by
    simp only [levels, h.state, hbt, hsource, hphone, hcamera]
  simp only [AudioUnit.volumeFrame, hlevels]

/-- Since `u₀` no frame was sent, or the unit is muted, or the last frame is that of fade step 0. -/
def Settled (u₀ u : AudioUnit) : Prop :=
  u.frames = u₀.frames ∨ u.state.mute ≠ 0 ∨ ∃ rest, u.frames = u.volumeFrame 0 :: rest

theorem Settled.of_same {u₀ u v : AudioUnit} (h : Settled u₀ u) (hframes : v.frames = u.frames)
    (hmute : v.state.mute = u.state.mute) (hzero : v.volumeFrame 0 = u.volumeFrame 0) :
    Settled u₀ v := by
  rcases h with hnone | hmuted | ⟨rest, hrest⟩
  · exact .inl (hframes.trans hnone)
  · exact .inr (.inl (by rwa [hmute]))
  · exact .inr (.inr ⟨rest, by rw [hframes, hrest, hzero]⟩)

theorem Settled.of_sameVolume {u₀ u v : AudioUnit} (h : Settled u₀ u) (hframes : v.frames = u.frames)
    (hsame : SameVolume u v) : Settled u₀ v :=
  h.of_same hframes (congrArg AudioState.mute hsame.state) (hsame.volumeFrame 0)

theorem sameVolume_sendVolume (volume : U32) (u : AudioUnit) : SameVolume u (u.sendVolume volume) := by
  unfold sendVolume
  split
  · exact ⟨rfl, rfl, rfl, rfl⟩
  · split <;> exact ⟨rfl, rfl, rfl, rfl⟩

theorem sameVolume_emit (e : AudioEvent) (u : AudioUnit) : SameVolume u (u.emit e) :=
  ⟨rfl, rfl, rfl, rfl⟩

/-- Behind fade step 0 everything is settled. -/
theorem settled_sendVolume_zero (u₀ u : AudioUnit) : Settled u₀ (u.sendVolume 0) := by
  by_cases hmute : u.state.mute = 0
  · have hsend : u.sendVolume 0 = { u with frames := u.volumeFrame 0 :: u.frames } := by
      unfold sendVolume
      rw [if_neg (by decide), if_pos (by rw [hmute]; decide)]
    have hframe := (sameVolume_sendVolume 0 u).volumeFrame 0
    refine .inr (.inr ⟨u.frames, ?_⟩)
    rw [hframe, hsend]
  · exact .inr (.inl (by rwa [sendVolume_state]))

theorem settled_setVolume_zero (u₀ u : AudioUnit) : Settled u₀ (u.setVolume 0) :=
  (settled_sendVolume_zero u₀ u).of_sameVolume rfl (sameVolume_emit _ _)

/-! ## The power of the sources -/

theorem sameVolume_radioPower (on : Bool) (u : AudioUnit) :
    SameVolume u (u.radioPower on) ∧ (u.radioPower on).frames = u.frames := by
  unfold radioPower
  extract_lets power
  by_cases hpower : power = u.tuner.power
  · rw [if_pos hpower]
    exact ⟨⟨rfl, rfl, rfl, rfl⟩, rfl⟩
  · rw [if_neg hpower]
    exact ⟨⟨rfl, rfl, rfl, rfl⟩, rfl⟩

theorem Settled.radioPower {u₀ u : AudioUnit} (h : Settled u₀ u) (on : Bool) :
    Settled u₀ (u.radioPower on) :=
  h.of_sameVolume (sameVolume_radioPower on u).2 (sameVolume_radioPower on u).1

theorem Settled.tvPower {u₀ u : AudioUnit} (h : Settled u₀ u) (on : Bool) : Settled u₀ (u.tvPower on) :=
  h.of_sameVolume rfl ⟨rfl, rfl, rfl, rfl⟩

theorem Settled.dvdPower {u₀ u : AudioUnit} (h : Settled u₀ u) (on : Bool) :
    Settled u₀ (u.dvdPower on) :=
  h.of_sameVolume rfl ⟨rfl, rfl, rfl, rfl⟩

theorem Settled.setMutePin {u₀ u : AudioUnit} (h : Settled u₀ u) (pin : U8) :
    Settled u₀ (u.mapAudio (Audio.setMutePin pin)) := by
  show Settled u₀ { u with audio := u.audio.setMutePin pin }
  unfold Audio.setMutePin
  by_cases hpin : u.audio.state.muteAll = pin
  · rw [if_pos hpin]
    exact h
  · rw [if_neg hpin]
    exact h.of_same rfl rfl rfl

theorem frames_replaceChannel (audioCh setCh : U32) (u : AudioUnit) :
    (u.replaceChannel audioCh setCh).frames = u.frames := by
  unfold replaceChannel
  split
  · exact (sameVolume_radioPower false u).2
  · split
    · rfl
    · split <;> rfl

theorem frames_leaveSelected (setCh : U32) (u : AudioUnit) : (u.leaveSelected setCh).frames = u.frames := by
  unfold leaveSelected
  dsimp only
  split
  · rfl
  · split
    · exact (sameVolume_radioPower false u).2
    · split
      · rfl
      · split <;> rfl

theorem frames_enterSelected (setCh : U32) (u : AudioUnit) : (u.enterSelected setCh).frames = u.frames := by
  unfold enterSelected
  dsimp only
  split
  · rfl
  · split
    · rw [frames_replaceChannel]
      exact (sameVolume_radioPower true u).2
    · split
      · exact frames_replaceChannel _ _ _
      · split
        · rfl
        · exact frames_replaceChannel _ _ _

/-! ## `Audio_EnterChannel` -/

/-- The last step of the loop is step 0. -/
theorem fadeInSteps_eq (u : AudioUnit) : ∃ v : AudioUnit, u.fadeInSteps = v.sendVolume 0 := by
  have hsteps : ([60, 55, 50, 45, 40, 35, 30, 25, 20, 15, 10, 5, 0] : List U32) =
      [60, 55, 50, 45, 40, 35, 30, 25, 20, 15, 10, 5] ++ [0] := rfl
  unfold fadeInSteps
  rw [hsteps, List.foldl_append, List.foldl_cons, List.foldl_nil]
  exact ⟨_, rfl⟩

theorem settled_fadeIn (u : AudioUnit) : Settled u u.fadeIn := by
  have hsend : Settled u (if u.isAudioEnable then
      if u.mtcCustomer = customerAm then u.sendVolume 0 else u.fadeInSteps else u) := by
    split
    · split
      · exact settled_sendVolume_zero u u
      · obtain ⟨v, hv⟩ := u.fadeInSteps_eq
        rw [hv]
        exact settled_sendVolume_zero u v
    · exact .inl rfl
  exact hsend.of_sameVolume rfl (sameVolume_emit _ _)

theorem settled_setMute_zero (u : AudioUnit) : Settled u (u.setMute 0) := by
  unfold setMute
  split
  · exact .inl rfl
  · rw [if_neg (by decide)]
    rcases settled_fadeIn ((u.map fun s => { s with mute := 0 }).sendMute) with hnone | hrest
    · exact .inl hnone
    · exact .inr hrest

theorem settled_showChannel (u₀ : AudioUnit) (setCh : U32) (mode : Bool) (u : AudioUnit) :
    Settled u₀ (u.showChannel setCh mode) := by
  unfold showChannel
  extract_lets u1 u2 u3 u4
  split
  · exact settled_setVolume_zero u₀ _
  · rename_i hmute
    exact .inr (.inl hmute)

theorem Settled.powerOff {u₀ u : AudioUnit} (h : Settled u₀ u) (audioCh : U32) (v8 v10 : Bool) :
    Settled u₀ (u.powerOff audioCh v8 v10) := by
  have hunmute : ∀ (b : Bool) {v : AudioUnit}, Settled u₀ v →
      Settled u₀ (if b then v.mapAudio (Audio.setMutePin 0) else v) := by
    intro b v hv
    split
    · exact hv.setMutePin 0
    · exact hv
  unfold AudioUnit.powerOff
  dsimp only
  split
  · exact hunmute v8 (h.radioPower false)
  · split
    · exact hunmute v8 (h.tvPower false)
    · split
      · exact hunmute v8 h
      · exact (hunmute v10 h).dvdPower false

theorem settled_changeChannel (audioCh setCh : U32) (mode : Bool) (u : AudioUnit) :
    Settled u (u.changeChannel audioCh setCh mode) := by
  unfold changeChannel
  split
  · exact .inl (frames_replaceChannel audioCh setCh u)
  · split
    · exact settled_setVolume_zero u _
    · exact (settled_showChannel u setCh mode _).powerOff audioCh _ _

theorem settled_enterAgain (u : AudioUnit) : Settled u u.enterAgain := by
  unfold enterAgain
  dsimp only
  split
  · split
    · exact .inl rfl
    · exact settled_setMute_zero u
  · split
    · exact settled_changeChannel _ _ _ u
    · exact .inl rfl

theorem settled_enterChannel (setCh : U32) (mode : Bool) (u : AudioUnit) :
    Settled u (u.enterChannel setCh mode) := by
  unfold enterChannel
  dsimp only
  split
  · unfold enterChannelSelected
    split
    · exact settled_setVolume_zero u _
    · split
      · exact .inl (frames_enterSelected setCh u)
      · exact .inl (frames_leaveSelected setCh u)
  · split
    · split
      · exact settled_enterAgain u
      · exact settled_changeChannel _ _ _ u
    · split
      · exact .inl rfl
      · exact settled_changeChannel _ _ _ u

/-! ## The other routines -/

theorem settled_ajxChannel (mode : U32) (u : AudioUnit) : Settled u (u.ajxChannel mode) := by
  unfold ajxChannel
  split <;> exact settled_setVolume_zero u _

theorem settled_taChannel (mode : U32) (u : AudioUnit) : Settled u (u.taChannel mode) := by
  unfold taChannel
  split
  · exact .inl rfl
  · rename_i hbusy
    split
    · split
      · -- the step is `ch_mode`, which is 0 here
        have hzero : u.state.chMode = 0 := by
          have hpos : ¬ 0 < u.state.chMode := fun hc => hbusy (.inr hc)
          exact BitVec.not_lt.mp hpos |> BitVec.le_zero_iff.mp
        rw [hzero]
        exact settled_setVolume_zero u _
      · exact settled_setVolume_zero u _
    · split <;> exact settled_setVolume_zero u _

theorem hangUp_mute (u : AudioUnit) : u.hangUp.state.mute = u.state.mute := by
  rw [state, hangUp_audio]
  rfl

/-- `Audio_PhoneChannel` with another argument, in AJX or of a muted unit. -/
theorem settled_phoneChannel (mode : U32) (u : AudioUnit)
    (h : mode = 0 → u.state.ajxActive = 0 → u.state.mute ≠ 0) : Settled u (u.phoneChannel mode) := by
  unfold phoneChannel
  split
  · exact .inl rfl
  · rename_i hajx
    split
    · exact settled_setVolume_zero u _
    · rename_i hmode
      have hmute : u.hangUp.state.mute ≠ 0 := by
        rw [hangUp_mute]
        exact h (not_not.mp hmode) (not_not.mp hajx)
      rw [if_pos hmute]
      exact settled_setVolume_zero u _

/-! ## The end of a phone call -/

theorem phoneChannel_zero (u : AudioUnit) (hajx : u.state.ajxActive = 0) (hmute : u.state.mute = 0) :
    u.phoneChannel 0 = u.hangUp := by
  unfold phoneChannel
  rw [if_neg (not_not.mpr hajx), if_neg (not_not.mpr rfl), if_neg]
  rw [hangUp_mute]
  exact not_not.mpr hmute

/-- An unmuted unit is silenced. -/
theorem hangUp_frames (u : AudioUnit) (hmute : u.state.mute = 0) :
    u.hangUp.frames = (0xFF, 0xFF) :: u.frames := by
  show (u.sendVolume 60).frames = _
  unfold sendVolume
  rw [if_neg (by decide), if_pos (by rw [hmute]; decide)]
  rfl

theorem sameVolume_hangUp (u : AudioUnit) : SameVolume (VolumeRoutine.withoutPhone u) u.hangUp := by
  have hsend := sameVolume_sendVolume 60 u
  refine ⟨?_, hsend.cfgBt, hsend.backviewVol, hsend.avGpsSwitch⟩
  rw [state, hangUp_audio]
  rfl

end AudioUnit

namespace VolumeRoutine

open AudioUnit

theorem restores_of_settled (r : VolumeRoutine) (u : AudioUnit) (h : Settled u (r.run u)) :
    r.Restores u := by
  intro sent hsent hmute frame hframe
  rcases h with hnone | hmuted | ⟨rest, hrest⟩
  · have hnil : sent = [] := List.self_eq_append_left.mp (hnone.symm.trans hsent)
    rw [hnil] at hframe
    cases hframe
  · exact absurd hmute hmuted
  · obtain ⟨tail, rfl⟩ := List.head?_eq_some_iff.mp hframe
    rw [hrest] at hsent
    exact (List.cons.inj hsent).1.symm

/-- The call that ends a phone call of an unmuted unit. -/
theorem restores_hangUp_iff (u : AudioUnit) (hajx : u.state.ajxActive = 0) (hmute : u.state.mute = 0) :
    (phone 0).Restores u ↔ (withoutPhone u).volumeFrame 0 = (0xFF, 0xFF) := by
  have hrun : (phone 0).run u = u.hangUp := phoneChannel_zero u hajx hmute
  have hframe : u.hangUp.volumeFrame 0 = (withoutPhone u).volumeFrame 0 :=
    (sameVolume_hangUp u).volumeFrame 0
  unfold Restores
  rw [hrun, hangUp_frames u hmute, hframe]
  constructor
  · intro h
    exact (h [(0xFF, 0xFF)] rfl (by rw [hangUp_mute, hmute]) _ rfl).symm
  · intro hsilent sent hsent _ frame hhead
    obtain ⟨tail, rfl⟩ := List.head?_eq_some_iff.mp hhead
    rw [hsilent]
    exact (List.cons.inj hsent).1.symm

/-- The volume is restored unless an unmuted unit ends a phone call that leaves something to hear. -/
theorem restores_iff (r : VolumeRoutine) (u : AudioUnit) : r.Restores u ↔ r.NotHungUp u := by
  by_cases hcall : r = phone 0 ∧ u.state.ajxActive = 0 ∧ u.state.mute = 0
  · obtain ⟨rfl, hajx, hmute⟩ := hcall
    rw [restores_hangUp_iff u hajx hmute]
    exact ⟨fun hsilent _ _ _ => hsilent, fun h => h rfl hajx hmute⟩
  · have hnot : r.NotHungUp u := fun hr hajx hmute => absurd ⟨hr, hajx, hmute⟩ hcall
    refine iff_of_true (restores_of_settled r u ?_) hnot
    cases r with
    | phone mode =>
      refine settled_phoneChannel mode u fun hmode hajx hmute => hcall ?_
      exact ⟨by rw [hmode], hajx, hmute⟩
    | ajx mode => exact settled_ajxChannel mode u
    | ta mode => exact settled_taChannel mode u
    | enter setCh mode => exact settled_enterChannel setCh mode u

/-- The radio is tuned in, at full volume and unmuted, while a phone call comes to its end. -/
def inCall : AudioUnit :=
  (default : AudioUnit).map fun s =>
    { s with audioCh := 4, audioSrc := 0x1E, volMain := 0x1E, chMode := 1 }

/-- The radio stays silent behind the call. -/
theorem not_restores_inCall : ¬ (phone 0).Restores inCall := by
  intro h
  have hframe := h [(0xFF, 0xFF)] (by decide) (by decide) (0xFF, 0xFF) rfl
  exact absurd hframe (by decide)

end VolumeRoutine

end MtcDrivers
