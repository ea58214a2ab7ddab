import MtcDrivers.Audio.Unit

/-!
# Loudness

How loud the unit is for its volumes, as a number of steps of the sound processor, and what that asks of
the frames of `Audio_SetVolume`, `Audio_FadeOut` and `Audio_FadeIn`.
-/

namespace MtcDrivers

namespace AudioUnit

/-! ## Loudness -/

/-- A volume in the 60 steps of the sound processor. -/
def steps (vol : U8) : ℕ := 60 * (vol.toNat + 1) / 100

/-- The system channel is heard only while the navigation speaks. -/
def systemLoudness (s : AudioState) : ℕ :=
  if s.audioSrc = 3 ∧ s.volMain ≠ 0 then steps s.volMain + 8 else 0

/-- The other channels make way for what goes before them. -/
def sourceLoudness (u : AudioUnit) : ℕ :=
  let s := u.state
  if s.gap11_1 = 1 ∨ s.gap11_0 = 1 then 0
  else if s.chStatus ≠ 0 then steps s.volMain
  else if s.actBit2 ≠ 0 then 0
  else if s.avGpsMonitor ≠ 0 ∧ s.actBit1 ≠ 0 then
    if u.avGpsSwitch = 0 then steps s.volMain - 12 else 0
  else if s.avGpsMonitor = 0 ∧ s.actBit3 ≠ 0 then 0
  else steps s.volMain

/-- The camera turns the sound down by `backview_vol` elevenths, and off above 10. -/
def behindCamera (u : AudioUnit) (loudness : ℕ) : ℕ :=
  if u.state.camState ≠ 0 then (11 - u.backviewVol.toNat) * loudness / 11 else loudness

/-- The Bluetooth module has an output of its own for the call. -/
def PhoneApart (u : AudioUnit) : Prop :=
  u.cfgBt = 6 ∨ u.cfgBt = 7 ∨ u.cfgBt = 2 ∧ u.state.chMode = 1

instance (u : AudioUnit) : Decidable u.PhoneApart := inferInstanceAs (Decidable (_ ∨ _ ∨ _ ∧ _))

/-- How loud the main output is. -/
def loudness (u : AudioUnit) : ℕ :=
  let s := u.state
  if s.ajxActive ≠ 0 then steps s.volMain
  else if s.chMode ≠ 0 then if u.PhoneApart then 0 else steps s.volAux
  else if s.chStatus = 0 ∧ (shownChannel s = 1 ∨ shownChannel s = 0 ∧ u.bt267) then
    u.behindCamera (systemLoudness s)
  else u.behindCamera u.sourceLoudness

/-- The attenuation of the main output for a loudness and a fade step; 255 is silence. -/
def attenuation (loudness step : ℕ) : ℕ :=
  if step = 60 ∨ loudness = 0 ∨ 207 < 189 - loudness + step then 255 else 189 - loudness + step

/-! ## The volume law -/

def setVolMain (vol : U8) (u : AudioUnit) : AudioUnit := u.map fun s => { s with volMain := vol }

def setVolAux (vol : U8) (u : AudioUnit) : AudioUnit := u.map fun s => { s with volAux := vol }

/-- `Audio_SetVolume` sends one frame, whose main byte is in range, falls with the volumes and rises with the
fade step. -/
structure VolumeLaw (u : AudioUnit) (step : U32) : Prop where
  sends : (u.sendVolume step).frames = u.volumeFrame step :: u.frames
  range : (u.volumeFrame step).1 = 0xFF ∨
    121 ≤ (u.volumeFrame step).1.toNat ∧ (u.volumeFrame step).1.toNat ≤ 207
  volMain : ∀ vol : U8, u.state.volMain ≤ vol → vol ≤ 100 →
    ((u.setVolMain vol).volumeFrame step).1 ≤ (u.volumeFrame step).1
  volAux : ∀ vol : U8, u.state.volAux ≤ vol → vol ≤ 100 →
    ((u.setVolAux vol).volumeFrame step).1 ≤ (u.volumeFrame step).1
  rises : ∀ step' : U32, step ≤ step' → step' ≤ 60 →
    (u.volumeFrame step).1 ≤ (u.volumeFrame step').1
  silent : step = 60 → (u.volumeFrame step).1 = 0xFF

/-! ## Fades -/

/-- `Audio_FadeOut` ends with the frame of fade step 60, and the sound does not get louder on the way. -/
def FadesOut (u : AudioUnit) : Prop :=
  ∃ sent, u.fadeOut.frames = sent ++ u.frames ∧ sent.head? = some (u.volumeFrame 60) ∧
    sent.Pairwise fun later earlier => earlier.1 ≤ later.1

/-- `Audio_FadeIn` ends with the frame of fade step 0, and the sound does not get softer on the way. -/
def FadesIn (u : AudioUnit) : Prop :=
  ∃ sent, u.fadeIn.frames = sent ++ u.frames ∧ sent.head? = some (u.volumeFrame 0) ∧
    sent.Pairwise fun later earlier => later.1 ≤ earlier.1

/-- Both fades reach their ends, where they are not left out. -/
structure FadesRight (u : AudioUnit) : Prop where
  out : u.state.muteAll ≠ 1 → u.FadesOut
  back : u.isAudioEnable = true → u.FadesIn

end AudioUnit

end MtcDrivers
