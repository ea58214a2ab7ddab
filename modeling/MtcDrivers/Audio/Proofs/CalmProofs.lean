import MtcDrivers.Audio.Follow
import MtcDrivers.Audio.Proofs.LoudnessProofs
import MtcDrivers.Audio.Proofs.WorkerProofs

/-!
# Proofs: the audio work of an undisturbed unit

Every item of the requests keeps the unit undisturbed, and a current volume current; the items that are queued
for the navigation make it current.
-/

namespace MtcDrivers

namespace AudioWork

/-- The volume that an item brings. -/
def volMain (w : AudioWork) : Option U8 := if w.cmd1.toNat = 3 then some (w.cmd2.setWidth 8) else none

/-- The phone volume that an item brings. -/
def volAux (w : AudioWork) : Option U8 := if w.cmd1.toNat = 4 then some (w.cmd2.setWidth 8) else none

/-- What an item leaves of `mute`, if it does not leave it as it is; behind a change of the channel it is not
    known. -/
def mute (w : AudioWork) : Option (Option U8) :=
  match w.cmd1.toNat with
  | 0 => some none
  | 1 => some none
  | 2 => some (some (if w.cmd2 = 1 then 1 else 0))
  | 3 => some (some 0)
  | _ => none

end AudioWork

/-- The settings behind an item. -/
def Dials.work (d : Dials) (w : AudioWork) : Dials :=
  { d with volMain := w.volMain.getD d.volMain, volAux := w.volAux.getD d.volAux }

theorem Dials.work_other {w : AudioWork} (h3 : w.cmd1.toNat ≠ 3) (h4 : w.cmd1.toNat ≠ 4) (d : Dials) :
    d.work w = d := by
  unfold Dials.work AudioWork.volMain AudioWork.volAux
  rw [if_neg h3, if_neg h4]
  rfl

namespace AudioUnit

open VolumeSystem

/-- An unmuted unit has the volume of the settings. -/
def Fresh (u : AudioUnit) : Prop := u.state.mute = 0 → Current u

/-- The unit is undisturbed, has these settings, and if the volume is 0 it is silent. -/
structure Calm (d : Dials) (u : AudioUnit) : Prop where
  undisturbed : Undisturbed u.state
  dials : Dials.ofUnit u = d
  ready : u.audio.audioReady ≠ 0
  silent : u.state.volMain = 0 → u.frames.head? = some (0xFF, 0xFF)

variable {d : Dials} {u v : AudioUnit}

/-! ## The frames of an undisturbed unit -/

/-- The system is heard. -/
def systemShown (u : AudioUnit) : Prop := u.state.audioCh = 1 ∨ u.state.audioCh = 0 ∧ u.bt267 = true

/-- The levels of the other channels. -/
def quietLevels (u : AudioUnit) : U32 × U32 :=
  let s := u.state
  let v12 := scale s.volMain
  let v3 : U32 :=
    if s.gap11_1 = 1 ∨ s.gap11_0 = 1 ∨ s.actBit2 ≠ 0 then 0
    else if s.avGpsMonitor ≠ 0 then
      if s.actBit1 ≠ 0 then if u.avGpsSwitch = 0 then if v12 ≤ 0xB then 0 else v12 - 12 else 0
      else v12
    else if s.actBit3 ≠ 0 then 0
    else v12
  (if s.audioSrc ≠ 3 then 0 else if s.volMain ≠ 0 then v12 + 8 else 0, v3)

/-- While the navigation is mixed in, `act_bit3` does not matter. -/
theorem quietLevels_mixed (h : u.state.avGpsMonitor ≠ 0) :
    u.quietLevels = (if u.state.audioSrc ≠ 3 then 0 else if u.state.volMain ≠ 0 then scale u.state.volMain + 8 else 0,
      if u.state.gap11_1 = 1 ∨ u.state.gap11_0 = 1 ∨ u.state.actBit2 ≠ 0 then 0
      else if u.state.actBit1 ≠ 0 then
        if u.avGpsSwitch = 0 then if scale u.state.volMain ≤ 0xB then 0 else scale u.state.volMain - 12 else 0
      else scale u.state.volMain) := by
  unfold quietLevels
  dsimp only
  rw [if_pos h]

/-- And otherwise the switch of the navigation does not. -/
theorem quietLevels_unmixed (h : u.state.avGpsMonitor = 0) :
    u.quietLevels = (if u.state.audioSrc ≠ 3 then 0 else if u.state.volMain ≠ 0 then scale u.state.volMain + 8 else 0,
      if u.state.gap11_1 = 1 ∨ u.state.gap11_0 = 1 ∨ u.state.actBit2 ≠ 0 then 0
      else if u.state.actBit3 ≠ 0 then 0 else scale u.state.volMain) := by
  unfold quietLevels
  dsimp only
  rw [if_neg (not_not.mpr h)]

theorem levels_shown (h : Undisturbed u.state) (hshown : u.systemShown) : u.levels = systemLevels u.state := by
  have hch : shownChannel u.state = u.state.audioCh := if_neg h.selection
  unfold levels
  dsimp only
  rw [if_neg (not_not.mpr h.ajx), if_neg (not_not.mpr h.phone), hch, if_pos ⟨h.announcement, hshown⟩]
  exact if_neg (not_not.mpr h.camera)

theorem levels_quiet (h : Undisturbed u.state) (hshown : ¬ u.systemShown) : u.levels = u.quietLevels := by
  have hch : shownChannel u.state = u.state.audioCh := if_neg h.selection
  have hcamera : u.cameraLevels u.sourceLevels = u.sourceLevels := if_neg (not_not.mpr h.camera)
  unfold levels
  dsimp only
  rw [if_neg (not_not.mpr h.ajx), if_neg (not_not.mpr h.phone), hch, if_neg fun hs => hshown hs.2, hcamera]
  unfold sourceLevels quietLevels
  dsimp only
  rw [if_neg (not_not.mpr h.announcement)]
  by_cases hsource : u.state.audioSrc ≠ 3
  · rw [if_pos hsource, if_pos hsource]
  · rw [if_neg hsource, if_neg hsource]
    by_cases hvol : u.state.volMain ≠ 0
    · rw [if_pos hvol, if_pos hvol]
    · rw [if_neg hvol, if_neg hvol]

/-- What the frames of an undisturbed unit depend on. -/
structure SameSound (u v : AudioUnit) : Prop where
  audioCh : v.state.audioCh = u.state.audioCh
  cfgBt : v.cfgBt = u.cfgBt
  audioSrc : v.state.audioSrc = u.state.audioSrc
  volMain : v.state.volMain = u.state.volMain
  quiet : v.quietLevels = u.quietLevels

theorem SameSound.volumeFrame (h : SameSound u v) (hu : Undisturbed u.state) (hv : Undisturbed v.state)
    (volume : U32) : v.volumeFrame volume = u.volumeFrame volume := by
  have hshown : v.systemShown ↔ u.systemShown := by
    unfold systemShown bt267
    rw [h.audioCh, h.cfgBt]
  have hlevels : v.levels = u.levels := by
    by_cases hs : u.systemShown
    · rw [levels_shown hu hs, levels_shown hv (hshown.mpr hs)]
      unfold systemLevels
      rw [h.audioSrc, h.volMain]
    · rw [levels_quiet hu hs, levels_quiet hv fun hs' => hs (hshown.mp hs'), h.quiet]
  unfold AudioUnit.volumeFrame
  rw [hlevels]

/-- With the volume 0 every frame is silent. -/
theorem volumeFrame_silent (h : Undisturbed u.state) (hvol : u.state.volMain = 0) {volume : U32}
    (hle : volume ≤ 60) : u.volumeFrame volume = (0xFF, 0xFF) := by
  have hlevels : u.levels = (0, 0) := by
    by_cases hs : u.systemShown
    · rw [levels_shown h hs]
      unfold systemLevels
      simp [hvol]
    · rw [levels_quiet h hs]
      unfold quietLevels
      have hscale : scale 0#8 = 0#32 := by decide
      simp [hvol, hscale]
  have hlast : (0xFF : U32) + volume > 0xCF := by bv_omega
  unfold AudioUnit.volumeFrame
  rw [hlevels]
  by_cases hsixty : volume = 60
  · rw [if_pos hsixty]
  rw [if_neg hsixty]
  have hmain : (register 0).setWidth 32 + volume > (0xCF : U32) := hlast
  dsimp only
  rw [if_pos hmain]
  by_cases hzero : volume = 0
  · rw [if_pos hzero]
    rfl
  · rw [if_neg hzero]

/-! ## The volume that a step leaves -/

/-- Where every earlier state allows it, the last frame is the one of the settings. -/
theorem fresh_of_settled (h : ∀ u₀, Settled u₀ v) : v.Fresh := by
  intro hmute
  rcases h { v with frames := (0, 0) :: v.frames } with hnone | hmuted | ⟨rest, hrest⟩
  · exact absurd (congrArg List.length hnone) (by simp)
  · exact absurd hmute hmuted
  · unfold Current
    rw [hrest]
    rfl

theorem fresh_setVolume_zero (u : AudioUnit) : (u.setVolume 0).Fresh :=
  fresh_of_settled fun u₀ => settled_setVolume_zero u₀ u

theorem Fresh.of_sameVolume (h : u.Fresh) (hframes : v.frames = u.frames) (hsame : SameVolume u v) :
    v.Fresh := by
  intro hmute
  rw [hsame.state] at hmute
  unfold Current
  rw [hframes, hsame.volumeFrame]
  exact h hmute

theorem Fresh.of_sameSound (h : u.Fresh) (hframes : v.frames = u.frames) (hmute : v.state.mute = u.state.mute)
    (hsame : SameSound u v) (hu : Undisturbed u.state) (hv : Undisturbed v.state) : v.Fresh := by
  intro hon
  rw [hmute] at hon
  unfold Current
  rw [hframes, hsame.volumeFrame hu hv]
  exact h hon

/-! ## What keeps the unit calm -/

theorem Calm.of_state (h : Calm d u) (hstate : Undisturbed v.state)
    (hready : v.audio.audioReady = u.audio.audioReady) (hdials : Dials.ofUnit v = Dials.ofUnit u)
    (hframes : v.frames = u.frames) : Calm d v where
  undisturbed := hstate
  dials := hdials.trans h.dials
  ready := by
    rw [hready]
    exact h.ready
  silent := by
    rw [show v.state.volMain = u.state.volMain from congrArg Dials.volMain hdials, hframes]
    exact h.silent

theorem Calm.map (h : Calm d u) {f : AudioState → AudioState} (hf : Undisturbed (f u.state))
    (hdials : Dials.ofUnit (u.map f) = Dials.ofUnit u) : Calm d (u.map f) := h.of_state hf rfl hdials rfl

theorem Calm.emit (h : Calm d u) (e : AudioEvent) : Calm d (u.emit e) := h.of_state h.undisturbed rfl rfl rfl

theorem Calm.sendMute (h : Calm d u) : Calm d u.sendMute := (h.emit _).emit _

theorem Calm.setMutePin (h : Calm d u) (pin : U8) : Calm d (u.mapAudio (Audio.setMutePin pin)) := by
  have hstate : Undisturbed (u.audio.setMutePin pin).state ∧
      (u.audio.setMutePin pin).audioReady = u.audio.audioReady ∧
      Dials.ofUnit (u.mapAudio (Audio.setMutePin pin)) = Dials.ofUnit u := by
    unfold AudioUnit.mapAudio
    unfold Audio.setMutePin
    split
    · exact ⟨h.undisturbed, rfl, rfl⟩
    · exact ⟨{ h.undisturbed with }, rfl, rfl⟩
  exact h.of_state hstate.1 hstate.2.1 hstate.2.2 rfl

theorem dials_sameVolume (h : SameVolume u v) : Dials.ofUnit v = Dials.ofUnit u := by
  unfold Dials.ofUnit
  rw [h.state, h.avGpsSwitch]

theorem Calm.sameVolume (h : Calm d u) (hsame : SameVolume u v)
    (hready : v.audio.audioReady = u.audio.audioReady) (hframes : v.frames = u.frames) : Calm d v := by
  refine h.of_state ?_ hready (dials_sameVolume hsame) hframes
  rw [hsame.state]
  exact h.undisturbed

theorem Calm.radioPower (h : Calm d u) (on : Bool) : Calm d (u.radioPower on) := by
  refine h.sameVolume (sameVolume_radioPower on u).1 ?_ (sameVolume_radioPower on u).2
  unfold AudioUnit.radioPower
  extract_lets power
  split <;> rfl

theorem Calm.tvPower (h : Calm d u) (on : Bool) : Calm d (u.tvPower on) :=
  h.sameVolume ⟨rfl, rfl, rfl, rfl⟩ rfl rfl

theorem Calm.dvdPower (h : Calm d u) (on : Bool) : Calm d (u.dvdPower on) :=
  h.sameVolume ⟨rfl, rfl, rfl, rfl⟩ rfl rfl

theorem Calm.setChannel (h : Calm d u) (ch : U32) : Calm d (u.setChannel ch) :=
  h.map { h.undisturbed with } rfl

theorem Calm.mute (h : Calm d u) {b : U8} (hb : b = 0 ∨ b = 1) : Calm d (u.map fun s => { s with mute := b }) :=
  h.map { h.undisturbed with mute := hb } rfl

/-- A frame changes no setting. -/
theorem dials_sendVolume (volume : U32) (u : AudioUnit) : Dials.ofUnit (u.sendVolume volume) = Dials.ofUnit u :=
  dials_sameVolume (sameVolume_sendVolume volume u)

theorem Calm.sendVolume (h : Calm d u) (volume : U32) : Calm d (u.sendVolume volume) := by
  refine ⟨?_, (dials_sendVolume volume u).trans h.dials, ?_, ?_⟩
  · rw [sendVolume_state]
    exact h.undisturbed
  · rw [sendVolume_audio]
    exact h.ready
  · rw [sendVolume_state]
    intro hvol
    unfold AudioUnit.sendVolume
    split
    · exact h.silent hvol
    · rename_i hle
      split
      · rw [List.head?_cons, volumeFrame_silent h.undisturbed hvol (BitVec.not_lt.mp hle)]
      · exact h.silent hvol

theorem Calm.setVolume (h : Calm d u) (volume : U32) : Calm d (u.setVolume volume) :=
  (h.sendVolume volume).emit _

theorem Calm.foldl_sendVolume (h : Calm d u) (fade : List U32) :
    Calm d (fade.foldl (fun u volume => u.sendVolume volume) u) := by
  induction fade generalizing u with
  | nil => exact h
  | cons volume rest ih => exact ih (h.sendVolume volume)

theorem Calm.fadeIn (h : Calm d u) : Calm d u.fadeIn := by
  refine Calm.emit ?_ _
  split
  · split
    · exact h.sendVolume 0
    · exact h.foldl_sendVolume _
  · exact h

theorem Calm.fadeOutSteps (h : Calm d u) (fade : List U32) : Calm d (fadeOutSteps fade u) := by
  induction fade generalizing u with
  | nil => exact h
  | cons volume rest ih =>
    unfold AudioUnit.fadeOutSteps
    split
    · exact h.sendVolume volume
    · exact ih (h.sendVolume volume)

theorem Calm.fadeOut (h : Calm d u) : Calm d u.fadeOut := by
  refine Calm.emit ?_ _
  split
  · split
    · exact h.sendVolume 60
    · exact h.fadeOutSteps _
  · exact h

/-- Behind a frame of an unmuted unit nothing before it matters. -/
theorem calm_setVolume_zero (hu : Undisturbed u.state) (hdials : Dials.ofUnit u = d)
    (hready : u.audio.audioReady ≠ 0) (hmute : u.state.mute = 0) : Calm d (u.setVolume 0) := by
  have hstate : (u.setVolume 0).state = u.state := sendVolume_state 0 u
  refine ⟨?_, (dials_sendVolume 0 u).trans hdials, ?_, ?_⟩
  · rw [hstate]
    exact hu
  · rw [setVolume_audio]
    exact hready
  · rw [hstate]
    intro hvol
    have hfresh : Current (u.setVolume 0) := fresh_setVolume_zero u (by rw [hstate, hmute])
    have hframe : (u.setVolume 0).volumeFrame 0 = (0xFF, 0xFF) := by
      refine volumeFrame_silent ?_ ?_ (by decide)
      · rw [hstate]
        exact hu
      · rw [hstate, hvol]
    unfold Current at hfresh
    rw [hfresh, hframe]

/-! ## Muting -/

/-- A fade in that is left out would have been silent. -/
theorem Calm.fresh_fadeIn (h : Calm d u) : u.fadeIn.Fresh := by
  intro hmute
  have hfade : ∃ w, OnlyFrames u w ∧ u.fadeIn = w.emit .fadeIn := u.fadeIn_eq
  have hstate : u.fadeIn.state = u.state := by
    obtain ⟨w, hw, hfade⟩ := hfade
    rw [hfade, hw]
    rfl
  have hframe : u.fadeIn.volumeFrame 0 = u.volumeFrame 0 := by
    obtain ⟨w, hw, hfade⟩ := hfade
    rw [hfade, hw]
    exact SameVolume.volumeFrame (u := u) ⟨rfl, rfl, rfl, rfl⟩ 0
  unfold Current
  rw [hframe]
  by_cases hon : u.isAudioEnable = true
  · obtain ⟨sent, hsent, hhead, _⟩ := fadesIn u hon
    obtain ⟨rest, rfl⟩ := List.head?_eq_some_iff.mp hhead
    rw [hsent]
    rfl
  · rw [hstate] at hmute
    have hvol : u.state.volMain = 0 := by
      by_contra hvol
      refine hon ?_
      have hcalm := h.undisturbed
      have hsource : u.state.audioSrc ≤ 3#8 := hcalm.source
      have hpos : ¬ u.state.volMain = 0#8 := hvol
      unfold isAudioEnable
      simp [hmute, hcalm.ajx, hcalm.announcement, hcalm.phone, hpos, hsource]
    have hoff : u.fadeIn.frames = u.frames := by
      unfold AudioUnit.fadeIn
      rw [if_neg hon]
      rfl
    rw [hoff, h.silent hvol, volumeFrame_silent h.undisturbed hvol (by decide)]

theorem Calm.unmute (h : Calm d u) : Calm d ((u.map fun s => { s with mute := 0 }).sendMute) :=
  (h.mute (Or.inl rfl)).sendMute

theorem Calm.setMute (h : Calm d u) (mute : U32) : Calm d (u.setMute mute) := by
  unfold AudioUnit.setMute
  split
  · exact h
  · split
    · exact (h.fadeOut.mute (Or.inr rfl)).sendMute
    · exact h.unmute.fadeIn

theorem Calm.fresh_setMute (h : Calm d u) (hfresh : u.Fresh) (mute : U32) : (u.setMute mute).Fresh := by
  unfold AudioUnit.setMute
  split
  · exact hfresh
  · split
    · have hmuted : (1 : U8) ≠ 0 := by decide
      exact fun hon => absurd hon hmuted
    · exact h.unmute.fresh_fadeIn

/-! ## Channels -/

theorem Calm.powerOff (h : Calm d u) (audioCh : U32) (v8 v10 : Bool) : Calm d (u.powerOff audioCh v8 v10) := by
  have hunmute : ∀ (b : Bool) {v : AudioUnit}, Calm d v →
      Calm d (if b then v.mapAudio (Audio.setMutePin 0) else v) := by
    intro b v hv
    split
    · exact hv.setMutePin 0
    · exact hv
  unfold AudioUnit.powerOff
  dsimp only
  split
  · exact hunmute v8 (h.radioPower false)
  · split
    · exact hunmute v8 (h.tvPower false)
    · split
      · exact hunmute v8 h
      · exact (hunmute v10 h).dvdPower false

theorem Calm.powerOn (h : Calm d u) (setCh : U32) : Calm d (u.powerOn setCh) := by
  unfold AudioUnit.powerOn
  split
  · exact h.radioPower true
  · split
    · exact h.tvPower true
    · split
      · exact h.dvdPower true
      · exact h

theorem Calm.fadeAndMute (h : Calm d u) (audioCh setCh : U32) : Calm d (u.fadeAndMute audioCh setCh) := by
  unfold AudioUnit.fadeAndMute
  extract_lets u1 u2
  have h1 : Calm d u1 := by
    show Calm d (if audioCh = channelDvd then _ else u)
    split
    · exact h.sameVolume ⟨rfl, rfl, rfl, rfl⟩ rfl rfl
    · exact h
  split
  · exact h1.fadeOut.setMutePin 1
  · exact h1.fadeOut

theorem Calm.showChannel (h : Calm d u) (setCh : U32) (mode : Bool) : Calm d (u.showChannel setCh mode) := by
  unfold AudioUnit.showChannel
  extract_lets u1 u2 u3 u4
  have h1 : Calm d u1 := by
    show Calm d (if mode then _ else u)
    split
    · exact h.unmute
    · exact h
  have h2 : Calm d u2 := (h1.setChannel setCh).emit _
  have h3 : Calm d u3 := h2.sameVolume ⟨rfl, rfl, rfl, rfl⟩ rfl rfl
  have h4 : Calm d u4 := h3.map { h3.undisturbed with } rfl
  split
  · exact h4.setVolume 0
  · exact h4

theorem Calm.enterSimple (h : Calm d u) (setCh : U32) : Calm d (u.enterSimple setCh) :=
  (h.map { h.undisturbed with mute := Or.inl rfl } rfl).sendMute.setVolume 0

theorem Calm.not_busy (h : Calm d u) : ¬ u.busy = true := by
  have hcalm := h.undisturbed
  simp [busy, hcalm.phone, hcalm.ajx, hcalm.announcement]

theorem Calm.changeChannel (h : Calm d u) (audioCh setCh : U32) (mode : Bool) :
    Calm d (u.changeChannel audioCh setCh mode) ∧ (u.changeChannel audioCh setCh mode).Fresh := by
  unfold AudioUnit.changeChannel
  rw [if_neg h.not_busy]
  split
  · exact ⟨h.enterSimple setCh, fresh_setVolume_zero _⟩
  · refine ⟨((h.fadeAndMute audioCh setCh).powerOn setCh).showChannel setCh mode |>.powerOff _ _ _, ?_⟩
    exact fresh_of_settled fun u₀ => (settled_showChannel u₀ setCh mode _).powerOff audioCh _ _

/-- A step from `u` to `v` leaves the unit calm with these settings, and a volume that was current. -/
structure Tended (d : Dials) (u v : AudioUnit) : Prop where
  calm : Calm d v
  fresh : u.Fresh → v.Fresh

theorem Calm.tended (h : Calm d u) : Tended d u u := ⟨h, id⟩

theorem Calm.tended_setMute (h : Calm d u) (mute : U32) : Tended d u (u.setMute mute) :=
  ⟨h.setMute mute, fun hfresh => h.fresh_setMute hfresh mute⟩

theorem Calm.tended_changeChannel (h : Calm d u) (audioCh setCh : U32) (mode : Bool) :
    Tended d u (u.changeChannel audioCh setCh mode) :=
  ⟨(h.changeChannel audioCh setCh mode).1, fun _ => (h.changeChannel audioCh setCh mode).2⟩

theorem Calm.tended_enterAgain (h : Calm d u) : Tended d u u.enterAgain := by
  unfold AudioUnit.enterAgain
  dsimp only
  split
  · split
    · exact h.tended
    · exact h.tended_setMute 0
  · split
    · exact h.tended_changeChannel _ _ true
    · exact h.tended

theorem Calm.tended_enterChannel (h : Calm d u) (setCh : U32) (mode : Bool) :
    Tended d u (u.enterChannel setCh mode) := by
  unfold AudioUnit.enterChannel
  dsimp only
  rw [if_neg h.undisturbed.selection]
  split
  · split
    · exact h.tended_enterAgain
    · exact h.tended_changeChannel _ setCh true
  · split
    · exact h.tended
    · exact h.tended_changeChannel _ channelSys false

/-! ## The items -/

/-- A change that no frame depends on. -/
theorem Calm.tended_map (h : Calm d u) {f : AudioState → AudioState} (hf : Undisturbed (f u.state))
    (hdials : Dials.ofUnit (u.map f) = Dials.ofUnit u) (hmute : (f u.state).mute = u.state.mute)
    (hsame : SameSound u (u.map f)) : Tended d u (u.map f) where
  calm := h.map hf hdials
  fresh hfresh := hfresh.of_sameSound rfl hmute hsame h.undisturbed hf

theorem Calm.tended_setVolume (h : Calm d u) : Tended d v (u.setVolume 0) :=
  ⟨h.setVolume 0, fun _ => fresh_setVolume_zero u⟩

theorem Tended.emit (h : Tended d u v) (e : AudioEvent) : Tended d u (v.emit e) where
  calm := h.calm.emit e
  fresh hfresh := (h.fresh hfresh).of_sameVolume rfl (sameVolume_emit e v)

/-- An item that changes nothing but the balance or the equaliser. -/
theorem Calm.tended_mapAudio (h : Calm d u) {f : Audio → Audio} (hf : Undisturbed (f u.audio).state)
    (hready : (f u.audio).audioReady = u.audio.audioReady)
    (hdials : Dials.ofUnit (u.mapAudio f) = Dials.ofUnit u)
    (hmute : (f u.audio).state.mute = u.audio.state.mute) (hsame : SameSound u (u.mapAudio f)) :
    Tended d u (u.mapAudio f) where
  calm := h.of_state hf hready hdials rfl
  fresh hfresh := hfresh.of_sameSound rfl hmute hsame h.undisturbed hf

theorem Calm.tended_workBalance (h : Calm d u) (w : AudioWork) :
    Tended d u (u.mapAudio (Audio.workBalance w)) := by
  have hcases : ∃ b1 b2 log, Audio.workBalance w u.audio =
      { u.audio with state := { u.audio.state with balance1 := b1, balance2 := b2 }, log := log } := by
    unfold Audio.workBalance
    split
    · extract_lets active a1
      split
      · exact ⟨_, _, _, rfl⟩
      · exact ⟨_, _, u.audio.log, rfl⟩
    · exact ⟨u.audio.state.balance1, u.audio.state.balance2, u.audio.log, rfl⟩
  obtain ⟨b1, b2, log, hwork⟩ := hcases
  unfold AudioUnit.mapAudio
  rw [hwork]
  exact h.tended_mapAudio (f := fun _ => _) { h.undisturbed with } rfl rfl rfl ⟨rfl, rfl, rfl, rfl, rfl⟩

theorem Calm.tended_workEq (h : Calm d u) (w : AudioWork) : Tended d u (u.mapAudio (Audio.workEq w)) := by
  have hcases : ∃ e2 e3 e4 log, Audio.workEq w u.audio =
      { u.audio with state := { u.audio.state with eq2 := e2, eq3 := e3, eq4 := e4 }, log := log } := by
    unfold Audio.workEq
    split
    · extract_lets active a1
      split
      · exact ⟨_, _, _, _, rfl⟩
      · exact ⟨_, _, _, u.audio.log, rfl⟩
    · exact ⟨u.audio.state.eq2, u.audio.state.eq3, u.audio.state.eq4, u.audio.log, rfl⟩
  obtain ⟨e2, e3, e4, log, hwork⟩ := hcases
  unfold AudioUnit.mapAudio
  rw [hwork]
  exact h.tended_mapAudio (f := fun _ => _) { h.undisturbed with } rfl rfl rfl ⟨rfl, rfl, rfl, rfl, rfl⟩

theorem Calm.tended_applyActiveCmd (h : Calm d u) : Tended d u u.applyActiveCmd := by
  unfold AudioUnit.applyActiveCmd
  extract_lets v8 src bit1 bit2 bit3 u1 u2
  split
  · have hsrc : src ≤ 3 := by
      show (if v8 &&& 3 ≠ 0 then 3 else 0 : U8) ≤ 3
      split <;> decide
    have h1 : Calm d u1 := by
      show Calm d (if v8 &&& 0x80 ≠ 0 then _ else u)
      split
      · exact h.map { h.undisturbed with } rfl
      · exact h
    have h2 : Calm d u2 := h1.map { h1.undisturbed with source := hsrc } rfl
    rw [if_pos h2.undisturbed.active]
    exact h2.tended_setVolume
  · exact h.tended

theorem Calm.tended_workPause (h : Calm d u) (w : AudioWork) : Tended d u (u.workPause w) := by
  unfold AudioUnit.workPause
  extract_lets pause u1
  have h1 : Calm d u1 := h.map { h.undisturbed with } rfl
  split
  · exact h.tended
  · split
    · rename_i hoff
      have hmute : u1.state.mute ≠ 0 := hoff.resolve_right h1.undisturbed.active
      exact ⟨h1, fun _ hon => absurd hon hmute⟩
    · rename_i hon
      have hmute : u1.state.mute = 0 := by
        by_contra hmute
        exact hon (Or.inl hmute)
      split
      · rw [hmute]
        exact h1.tended_setVolume
      · exact ⟨h1.fadeIn, fun _ => h1.fresh_fadeIn⟩

/-- The item that ends the silence behind a switch of the channel. -/
theorem Calm.tended_switchUnmute (h : Calm d u) :
    Tended d u (if u.state.gap11_0 ≠ 0 then
      let u := u.map fun s => { s with gap11_0 := 0, gap11_1 := 0 }
      if u.state.mute = 0 ∧ u.state.audioActive ≠ 0 then u.setVolume 0 else u
    else u) := by
  extract_lets u1
  have h1 : Calm d u1 := h.map { h.undisturbed with } rfl
  split
  · split
    · exact h1.tended_setVolume
    · rename_i hoff
      exact ⟨h1, fun _ hon => absurd ⟨hon, h1.undisturbed.active⟩ hoff⟩
  · exact h.tended

theorem avGpsSwitch_fadeIn (u : AudioUnit) : u.fadeIn.avGpsSwitch = u.avGpsSwitch := by
  obtain ⟨v, hv, hfade⟩ := u.fadeIn_eq
  rw [hfade, hv]
  rfl

/-- The item with the volume: a muted unit is unmuted. -/
theorem Calm.tended_volume (h : Calm d u) (b : U8) :
    Tended { d with volMain := b } u
      (let u := (u.map fun s => { s with volMain := b }).emit
        (.armSendMulti 0x9023 [u.audio.mtcGetSetVolume b])
       if u.state.audioActive ≠ 0 ∧ u.state.chMode = 0 then
         (if u.state.mute ≠ 1 then u else u.setMute 0).setVolume 0
       else u) := by
  extract_lets u1
  have h1 : Undisturbed u1.state := { h.undisturbed with }
  have hdials : Dials.ofUnit u1 = { d with volMain := b } :=
    congrArg (fun d : Dials => { d with volMain := b }) h.dials
  rw [if_pos ⟨h1.active, h1.phone⟩]
  refine ⟨?_, fun _ => fresh_setVolume_zero _⟩
  split
  · rename_i hmute
    exact calm_setVolume_zero h1 hdials h.ready (h1.mute.resolve_right hmute)
  · rename_i hmute
    have hone : u1.state.mute = 1 := not_not.mp hmute
    have hne : ¬ u1.state.mute.setWidth 32 = (0 : U32) := by
      rw [hone]
      decide
    have hfade : u1.setMute 0 = ((u1.map fun s => { s with mute := 0 }).sendMute).fadeIn := by
      unfold AudioUnit.setMute
      rw [if_neg hne, if_neg (by decide)]
    have hunmuted : (u1.setMute 0).audio = ((u1.audio.map fun s => { s with mute := 0 }).sendMute).emit .fadeIn := by
      rw [hfade, fadeIn_audio]
      rfl
    have hswitch : (u1.setMute 0).avGpsSwitch = u1.avGpsSwitch := by
      rw [hfade, avGpsSwitch_fadeIn]
      rfl
    refine calm_setVolume_zero ?_ ?_ ?_ ?_
    · rw [state, hunmuted]
      exact { h1 with mute := Or.inl rfl }
    · unfold Dials.ofUnit
      rw [hswitch, state, hunmuted]
      exact hdials
    · rw [hunmuted]
      exact h.ready
    · rw [state, hunmuted]
      rfl

/-- The items of the requests, but the one that puts speech on a channel of its own. -/
def Ordinary (w : AudioWork) : Prop :=
  w.cmd1.toNat ∈ [0, 1, 2, 3, 4, 6, 7, 8, 10, 11, 12, 14, 18, 19, 26] ∨
    w.cmd1.toNat = 27 ∧ w.cmd2.setWidth 8 ≠ (4 : U8)

theorem ordinary_mk {cmd1 cmd2 cmd3 val1 : U32}
    (h : cmd1.toNat ∈ [0, 1, 2, 3, 4, 6, 7, 8, 10, 11, 12, 14, 18, 19, 26]) :
    Ordinary ⟨cmd1, cmd2, cmd3, val1⟩ := Or.inl h

/-- The items but the two with a volume change no setting. -/
theorem Calm.tended_others (h : Calm d u) {w : AudioWork} (hw : Ordinary w) (h3 : w.cmd1.toNat ≠ 3)
    (h4 : w.cmd1.toNat ≠ 4) : Tended d u (u.workSwitch w) := by
  unfold AudioUnit.workSwitch
  split
  · rw [if_pos h.undisturbed.active]
    exact h.tended_enterChannel _ true
  · rw [if_pos h.undisturbed.active]
    exact h.tended_enterChannel _ false
  · rw [if_pos h.undisturbed.active]
    exact h.tended_setMute w.cmd2
  · rename_i hitem
    exact absurd hitem h3
  · rename_i hitem
    exact absurd hitem h4
  · extract_lets u1
    have h1 : Calm d u1 := h.map { h.undisturbed with } rfl
    split
    · exact h1.tended_setVolume
    · rename_i hoff
      have hmonitor : u.state.avGpsMonitor ≠ 0 := fun hmonitor => hoff ⟨h.undisturbed.active, hmonitor⟩
      refine h.tended_map h1.undisturbed rfl rfl ⟨rfl, rfl, rfl, rfl, ?_⟩
      rw [quietLevels_mixed (show u1.state.avGpsMonitor ≠ 0 from hmonitor), quietLevels_mixed hmonitor]
      rfl
  · rw [if_pos h.undisturbed.active]
    exact h.tended_setVolume
  · split
    · exact h.tended_setVolume
    · exact h.tended
  · exact h.tended_workBalance w
  · exact h.tended_workEq w
  · extract_lets u1
    have hone : Tended d u u1 := h.tended_map { h.undisturbed with } rfl rfl ⟨rfl, rfl, rfl, rfl, rfl⟩
    split
    · exact hone.emit _
    · exact hone
  · rename_i hitem
    exact absurd hw (by simp [Ordinary, hitem])
  · have hone := h.tended_map (f := fun s => { s with activeCmd := w.cmd2.setWidth 8 })
      { h.undisturbed with } rfl rfl ⟨rfl, rfl, rfl, rfl, rfl⟩
    have htwo := hone.calm.tended_applyActiveCmd
    exact ⟨htwo.calm, fun hfresh => htwo.fresh (hone.fresh hfresh)⟩
  · exact h.tended_applyActiveCmd
  · rename_i hitem
    exact absurd hw (by simp [Ordinary, hitem])
  · exact h.tended_workPause w
  · split
    · exact h.tended
    · exact h.tended_workPause w
  · rename_i hitem
    exact absurd hw (by simp [Ordinary, hitem])
  · rename_i hitem
    exact absurd hw (by simp [Ordinary, hitem])
  · rename_i hitem
    exact absurd hw (by simp [Ordinary, hitem])
  · rename_i hitem
    exact absurd hw (by simp [Ordinary, hitem])
  · rename_i hitem
    exact absurd hw (by simp [Ordinary, hitem])
  · rename_i hitem
    exact absurd hw (by simp [Ordinary, hitem])
  · exact h.tended_switchUnmute
  · rename_i hitem
    have hselection : w.cmd2.setWidth 8 ≠ (4 : U8) := by
      rcases hw with hw | hw
      · simp [hitem] at hw
      · exact hw.2
    exact (h.tended_map { h.undisturbed with selection := hselection } rfl rfl ⟨rfl, rfl, rfl, rfl, rfl⟩).emit _
  · exact h.tended

/-- The item with the phone volume: no phone call has the sound. -/
theorem Calm.tended_phoneVolume (h : Calm d u) (b : U8) :
    Tended { d with volAux := b } u
      (let u := (u.map fun s => { s with volAux := b }).emit
        (.armSendMulti 0x9022 [u.audio.mtcGetSetVolume b])
       if u.state.chMode ≠ 0 then (if u.state.mute = 1 then u.setMute 0 else u).setVolume 0 else u) := by
  extract_lets u1
  have h1 : Calm { d with volAux := b } u1 :=
    ⟨{ h.undisturbed with }, congrArg (fun d : Dials => { d with volAux := b }) h.dials, h.ready, h.silent⟩
  rw [if_neg (not_not.mpr h1.undisturbed.phone)]
  refine ⟨h1, fun hfresh => ?_⟩
  exact hfresh.of_sameSound rfl rfl ⟨rfl, rfl, rfl, rfl, rfl⟩ h.undisturbed h1.undisturbed

theorem Calm.tended_workSwitch (h : Calm d u) {w : AudioWork} (hw : Ordinary w) :
    Tended (d.work w) u (u.workSwitch w) := by
  by_cases h3 : w.cmd1.toNat = 3
  · have hdials : d.work w = { d with volMain := w.cmd2.setWidth 8 } := by
      unfold Dials.work AudioWork.volMain AudioWork.volAux
      rw [h3]
      rfl
    rw [hdials]
    unfold AudioUnit.workSwitch
    rw [h3]
    exact h.tended_volume (w.cmd2.setWidth 8)
  · by_cases h4 : w.cmd1.toNat = 4
    · have hdials : d.work w = { d with volAux := w.cmd2.setWidth 8 } := by
        unfold Dials.work AudioWork.volMain AudioWork.volAux
        rw [h4]
        rfl
      rw [hdials]
      unfold AudioUnit.workSwitch
      rw [h4]
      exact h.tended_phoneVolume (w.cmd2.setWidth 8)
    · rw [Dials.work_other h3 h4]
      exact h.tended_others hw h3 h4

theorem Calm.tended_releaseMutePin (h : Calm d u) : Tended d u (u.mapAudio Audio.releaseMutePin) := by
  unfold AudioUnit.mapAudio Audio.releaseMutePin
  split
  · unfold Audio.setMutePin
    split
    · exact h.tended_mapAudio (f := fun _ => _) { h.undisturbed with } rfl rfl rfl ⟨rfl, rfl, rfl, rfl, rfl⟩
    · exact h.tended_mapAudio (f := fun _ => _) { h.undisturbed with } rfl rfl rfl ⟨rfl, rfl, rfl, rfl, rfl⟩
  · exact h.tended

theorem Calm.tended_work (h : Calm d u) {w : AudioWork} (hw : Ordinary w) : Tended (d.work w) u (u.work w) := by
  have hrelease := h.tended_releaseMutePin
  have hwork := hrelease.calm.tended_workSwitch hw
  exact ⟨hwork.calm, fun hfresh => hwork.fresh (hrelease.fresh hfresh)⟩

/-- The item of the request that mixes the navigation in or out, and that of its switch while it is mixed
    in, make the volume current. -/
theorem Calm.fresh_navigation (h : Calm d u) {w : AudioWork}
    (hw : w.cmd1.toNat = 7 ∨ w.cmd1.toNat = 8 ∧ d.gpsMonitor ≠ 0) : (u.work w).Fresh := by
  have hcalm := h.tended_releaseMutePin.calm
  have hsent : u.work w = (u.mapAudio Audio.releaseMutePin).setVolume 0 := by
    unfold AudioUnit.work AudioUnit.workSwitch
    rcases hw with hw | ⟨hw, hmonitor⟩
    · rw [hw]
      exact if_pos hcalm.undisturbed.active
    · rw [hw]
      rw [← hcalm.dials] at hmonitor
      exact if_pos ⟨hcalm.undisturbed.active, hmonitor⟩
  rw [hsent]
  exact fresh_setVolume_zero _

/-! ## What an item leaves of `mute` -/

theorem mute_setMute {a : Audio} (h : a.state.mute = 0 ∨ a.state.mute = 1) (mute : U32) :
    (a.setMute mute).state.mute = if mute = 1 then 1 else 0 := by
  unfold Audio.setMute
  split
  · rename_i hsame
    rcases h with h | h
    · rw [h] at hsame
      rw [h, ← hsame]
      rfl
    · rw [h] at hsame
      rw [h, ← hsame]
      rfl
  · split
    · rfl
    · rfl

theorem mute_applyActiveCmd (a : Audio) : a.applyActiveCmd.state.mute = a.state.mute := by
  unfold Audio.applyActiveCmd
  extract_lets v8 src bit1 bit2 bit3 a1 a2
  have h2 : a2.state.mute = a.state.mute := by
    show a1.state.mute = a.state.mute
    show (if v8 &&& 0x80 ≠ 0 then _ else a : Audio).state.mute = a.state.mute
    split <;> rfl
  split
  · split
    · exact h2
    · exact h2
  · rfl

theorem mute_workPause (w : AudioWork) (a : Audio) : (a.workPause w).state.mute = a.state.mute := by
  unfold Audio.workPause
  extract_lets pause a1
  split
  · rfl
  · split
    · rfl
    · split <;> rfl

theorem mute_workBalance (w : AudioWork) (a : Audio) : (a.workBalance w).state.mute = a.state.mute := by
  unfold Audio.workBalance
  split
  · extract_lets active a1
    split <;> rfl
  · rfl

theorem mute_workEq (w : AudioWork) (a : Audio) : (a.workEq w).state.mute = a.state.mute := by
  unfold Audio.workEq
  split
  · extract_lets active a1
    split <;> rfl
  · rfl

theorem Calm.mute_workSwitch (h : Calm d u) {w : AudioWork} (hw : Ordinary w) {b : U8}
    (hb : w.mute.getD (some u.state.mute) = some b) : (u.workSwitch w).state.mute = b := by
  have hmute : u.audio.state.mute = 0 ∨ u.audio.state.mute = 1 := h.undisturbed.mute
  have hsame : ∀ {m : U8}, m = u.state.mute → w.mute = none → m = b := by
    intro m hm hnone
    rw [hnone] at hb
    exact hm.trans (Option.some.inj hb)
  rw [state, workSwitch_audio]
  unfold AudioWork.mute at hb hsame
  unfold Audio.workSwitch
  generalize hitem : w.cmd1.toNat = item at hb hsame
  unfold Ordinary at hw
  rw [hitem] at hw
  split
  · cases hb
  · cases hb
  · rw [if_pos (show u.audio.state.audioActive ≠ 0 from h.undisturbed.active), mute_setMute hmute]
    exact Option.some.inj hb
  · extract_lets a1
    rw [if_pos (show a1.state.audioActive ≠ 0 ∧ a1.state.chMode = 0 from
      ⟨h.undisturbed.active, h.undisturbed.phone⟩)]
    refine Eq.trans ?_ (Option.some.inj hb)
    show (if a1.state.mute ≠ 1 then a1 else a1.setMute 0).state.mute = 0
    split
    · rename_i hone
      exact hmute.resolve_right hone
    · exact mute_setMute (a := a1) hmute 0
  · extract_lets a1
    rw [if_neg (not_not.mpr (show a1.state.chMode = 0 from h.undisturbed.phone))]
    exact hsame rfl rfl
  · extract_lets a1
    refine hsame ?_ rfl
    split <;> rfl
  · refine hsame ?_ rfl
    split <;> rfl
  · refine hsame ?_ rfl
    split <;> rfl
  · exact hsame (mute_workBalance w u.audio) rfl
  · exact hsame (mute_workEq w u.audio) rfl
  · extract_lets a1
    refine hsame ?_ rfl
    split <;> rfl
  · exact absurd hw (by simp)
  · exact hsame (mute_applyActiveCmd _) rfl
  · exact hsame (mute_applyActiveCmd _) rfl
  · exact absurd hw (by simp)
  · exact hsame (mute_workPause w u.audio) rfl
  · refine hsame ?_ rfl
    split
    · rfl
    · exact mute_workPause w u.audio
  · exact absurd hw (by simp)
  · exact absurd hw (by simp)
  · exact absurd hw (by simp)
  · exact absurd hw (by simp)
  · exact absurd hw (by simp)
  · exact absurd hw (by simp)
  · refine hsame ?_ rfl
    split
    · extract_lets a1
      split <;> rfl
    · rfl
  · exact hsame rfl rfl
  · refine hsame rfl ?_
    simp [*]

/-- An item leaves `mute` as its number says. -/
theorem Calm.mute_work (h : Calm d u) {w : AudioWork} (hw : Ordinary w) {b : U8}
    (hb : w.mute.getD (some u.state.mute) = some b) : (u.work w).state.mute = b := by
  have hrelease : (u.mapAudio Audio.releaseMutePin).state.mute = u.state.mute := by
    show u.audio.releaseMutePin.state.mute = u.audio.state.mute
    unfold Audio.releaseMutePin Audio.setMutePin
    split
    · split <;> rfl
    · rfl
  refine h.tended_releaseMutePin.calm.mute_workSwitch hw ?_
  rw [hrelease]
  exact hb

end AudioUnit

end MtcDrivers
