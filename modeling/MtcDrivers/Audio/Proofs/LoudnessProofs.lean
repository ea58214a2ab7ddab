import Mathlib.Tactic.SplitIfs
import MtcDrivers.Audio.Loudness
import MtcDrivers.Audio.Proofs.VolumeProofs

/-!
# The volume law

The levels that `Audio_SetVolume` computes are the loudness, its frames carry the attenuation for it, and the
rest is arithmetic. The fade out stops after two steps, since the second result is not zero.
-/

namespace MtcDrivers

namespace AudioUnit

variable {u : AudioUnit}

/-! ## Levels -/

theorem toNat_scale (vol : U8) : (scale vol).toNat = steps vol := by
  have hvol := vol.isLt
  unfold scale steps
  rw [BitVec.toNat_and, BitVec.toNat_udiv, BitVec.toNat_mul, BitVec.toNat_add, BitVec.toNat_setWidth]
  show 60 * ((vol.toNat % 2 ^ 32 + 1) % 2 ^ 32) % 2 ^ 32 / 100 &&& 2 ^ 8 - 1 = _
  have hwide : (vol.toNat % 2 ^ 32 + 1) % 2 ^ 32 = vol.toNat + 1 := by omega
  have hprod : 60 * (vol.toNat + 1) % 2 ^ 32 = 60 * (vol.toNat + 1) := by omega
  rw [Nat.and_two_pow_sub_one_eq_mod, hwide, hprod, Nat.mod_eq_of_lt (by omega)]

theorem steps_le (vol : U8) : steps vol ≤ 153 := by
  have hvol := vol.isLt
  unfold steps
  omega

theorem steps_mono {v w : U8} (h : v ≤ w) : steps v ≤ steps w := by
  have hle : v.toNat ≤ w.toNat := h
  unfold steps
  omega

theorem toNat_systemLevels (s : AudioState) : (systemLevels s).2.toNat = systemLoudness s := by
  unfold systemLevels systemLoudness
  by_cases hsrc : s.audioSrc = 3
  · by_cases hvol : s.volMain ≠ 0
    · rw [if_pos hsrc, if_pos hvol, if_pos ⟨hsrc, hvol⟩]
      have hsteps := steps_le s.volMain
      show (scale s.volMain + 8).toNat = _
      rw [BitVec.toNat_add, toNat_scale]
      exact Nat.mod_eq_of_lt (show steps s.volMain + 8 < 2 ^ 32 by omega)
    · rw [if_pos hsrc, if_neg hvol, if_neg (fun h => hvol h.2)]
      rfl
  · rw [if_neg hsrc, if_neg (fun h => hsrc h.1)]
    rfl

/-- While the navigation is mixed in, the rest is 12 steps softer. -/
theorem toNat_softer (vol : U8) :
    (if scale vol ≤ 0xB then 0 else scale vol - 12 : U32).toNat = steps vol - 12 := by
  have hscale := toNat_scale vol
  have hsteps := steps_le vol
  by_cases hlow : scale vol ≤ 0xB
  · rw [if_pos hlow]
    have hle : (scale vol).toNat ≤ 11 := hlow
    have hzero : (0 : U32).toNat = 0 := rfl
    omega
  · rw [if_neg hlow]
    have hlt : 11 < (scale vol).toNat := Nat.lt_of_not_le hlow
    rw [BitVec.toNat_sub_of_le (show (12 : U32) ≤ scale vol from hlt), hscale]
    rfl

theorem toNat_sourceLevels (u : AudioUnit) : u.sourceLevels.2.toNat = u.sourceLoudness := by
  have hscale := toNat_scale u.state.volMain
  have hsofter := toNat_softer u.state.volMain
  have hzero : (0 : U32).toNat = 0 := rfl
  unfold sourceLevels sourceLoudness
  extract_lets s v12 v3 v3'
  by_cases hgap : s.gap11_1 = 1 ∨ s.gap11_0 = 1
  · have hv3 : v3 = 0 := if_pos (hgap.imp_right .inl)
    have hv3' : v3' = 0 := by
      by_cases h1 : s.gap11_1 = 1
      · exact if_pos h1
      · exact (if_neg h1).trans (if_pos (hgap.resolve_left h1))
    rw [if_pos hgap, hv3, hv3']
    split_ifs <;> rfl
  have hgap1 : ¬ s.gap11_1 = 1 := fun h => hgap (.inl h)
  have hgap0 : ¬ s.gap11_0 = 1 := fun h => hgap (.inr h)
  rw [if_neg hgap]
  by_cases hta : s.chStatus ≠ 0
  · have hv3' : v3' = v12 := (if_neg hgap1).trans (if_neg hgap0)
    rw [if_pos hta, if_pos hta, hv3', ← hscale]
    split_ifs <;> rfl
  · rw [if_neg hta, if_neg hta]
    have hsnd : (if s.audioSrc ≠ 3 then (0, v3) else if s.volMain ≠ 0 then (v12 + 8, v3) else (0, v3)).2 =
        v3 := by
      split_ifs <;> rfl
    rw [hsnd]
    by_cases hbit2 : s.actBit2 ≠ 0
    · rw [if_pos hbit2, show v3 = 0 from if_pos (.inr (.inr hbit2)), hzero]
    have hopen : ¬ (s.gap11_1 = 1 ∨ s.gap11_0 = 1 ∨ s.actBit2 ≠ 0) := by
      rintro (h | h | h) <;> contradiction
    rw [if_neg hbit2, show v3 = _ from if_neg hopen]
    by_cases hgps : s.avGpsMonitor = 0
    · by_cases hbit3 : s.actBit3 = 0
      · simpa only [hgps, hbit3, ne_eq, not_true_eq_false, if_false, and_false, false_and] using hscale
      · simp only [hgps, hbit3, ne_eq, not_true_eq_false, not_false_eq_true, if_true, if_false, false_and,
          and_self, hzero]
    · by_cases hbit1 : s.actBit1 = 0
      · simpa only [hgps, hbit1, ne_eq, not_true_eq_false, not_false_eq_true, if_true, if_false, and_false,
          false_and] using hscale
      · by_cases hswitch : u.avGpsSwitch = 0
        · simpa only [hgps, hbit1, hswitch, ne_eq, not_false_eq_true, if_true, and_self] using hsofter
        · simp only [hgps, hbit1, hswitch, ne_eq, not_false_eq_true, if_true, if_false, and_self, hzero]

/-- Behind the camera the level is that of the loudness. -/
theorem toNat_cameraLevels (u : AudioUnit) {v : U32 × U32} {loudness : ℕ} (hv : v.2.toNat = loudness)
    (hle : loudness ≤ 161) : (u.cameraLevels v).2.toNat = u.behindCamera loudness := by
  unfold cameraLevels behindCamera
  by_cases hcam : u.state.camState ≠ 0
  · rw [if_pos hcam, if_pos hcam]
    by_cases hoff : u.backviewVol > 0xA
    · have hlt : 10 < u.backviewVol.toNat := hoff
      rw [if_pos hoff, show 11 - u.backviewVol.toNat = 0 by omega, Nat.zero_mul]
      rfl
    · have hb : u.backviewVol.toNat ≤ 10 := Nat.le_of_not_lt hoff
      have hv13 : (11 - u.backviewVol.setWidth 32 : U32).toNat = 11 - u.backviewVol.toNat := by
        have hwide : (u.backviewVol.setWidth 32 : U32).toNat = u.backviewVol.toNat := by
          rw [BitVec.toNat_setWidth]
          omega
        have hle11 : (u.backviewVol.setWidth 32 : U32) ≤ 11 := by
          show (u.backviewVol.setWidth 32 : U32).toNat ≤ 11
          omega
        rw [BitVec.toNat_sub_of_le hle11, hwide]
        rfl
      rw [if_neg hoff]
      show ((11 - u.backviewVol.setWidth 32 : U32) * v.2 / 0xB).toNat = _
      rw [BitVec.toNat_udiv, BitVec.toNat_mul, hv13, hv]
      have hprod : (11 - u.backviewVol.toNat) * loudness ≤ 11 * 161 := Nat.mul_le_mul (by omega) hle
      show _ % 2 ^ 32 / 11 = _
      rw [Nat.mod_eq_of_lt (by omega)]
  · rw [if_neg hcam, if_neg hcam, hv]

theorem systemLoudness_le (s : AudioState) : systemLoudness s ≤ 161 := by
  have hsteps := steps_le s.volMain
  unfold systemLoudness
  split_ifs <;> omega

theorem sourceLoudness_le (u : AudioUnit) : u.sourceLoudness ≤ 153 := by
  have hsteps := steps_le u.state.volMain
  unfold sourceLoudness
  dsimp only
  split_ifs <;> omega

theorem behindCamera_le (u : AudioUnit) (loudness : ℕ) : u.behindCamera loudness ≤ loudness := by
  unfold behindCamera
  split_ifs
  · have hprod : (11 - u.backviewVol.toNat) * loudness ≤ 11 * loudness :=
      Nat.mul_le_mul_right _ (Nat.sub_le _ _)
    omega
  · exact Nat.le_refl _

theorem toNat_phoneLevels (u : AudioUnit) :
    u.phoneLevels.2.toNat = if u.PhoneApart then 0 else steps u.state.volAux := by
  have hscale := toNat_scale u.state.volAux
  have hapart : u.cfgBt ≠ 2 → (u.cfgBt.setWidth 32 - 6 ≤ (1 : U32) ↔ u.PhoneApart) := by
    intro h2
    have hlt := u.cfgBt.isLt
    unfold PhoneApart
    constructor
    · intro hle
      have hor : u.cfgBt.toNat = 6 ∨ u.cfgBt.toNat = 7 := by bv_omega
      exact hor.imp (fun h => BitVec.eq_of_toNat_eq h) fun h => .inl (BitVec.eq_of_toNat_eq h)
    · rintro (h | h | h)
      · rw [h]
        decide
      · rw [h]
        decide
      · exact absurd h.1 h2
  unfold phoneLevels
  dsimp only
  by_cases h2 : u.cfgBt ≠ 2
  · rw [if_pos h2]
    by_cases hle : u.cfgBt.setWidth 32 - 6 ≤ (1 : U32)
    · rw [if_pos hle, if_pos ((hapart h2).mp hle)]
      rfl
    · rw [if_neg hle, if_neg (fun h => hle ((hapart h2).mpr h))]
      exact hscale
  · rw [if_neg h2]
    have hbt : u.cfgBt = 2 := Decidable.of_not_not h2
    by_cases hmode : u.state.chMode = 1
    · have hpart : u.PhoneApart := .inr (.inr ⟨hbt, hmode⟩)
      rw [show (if u.PhoneApart then 0 else steps u.state.volAux) = 0 from if_pos hpart, if_pos hmode]
      rfl
    · have hnot : ¬ u.PhoneApart := by
        rintro (h | h | h)
        · exact absurd (hbt.symm.trans h) (by decide)
        · exact absurd (hbt.symm.trans h) (by decide)
        · exact hmode h.2
      rw [if_neg hmode, if_neg hnot, ← hscale]
      split_ifs <;> rfl

/-- The level of the main output is the loudness. -/
theorem toNat_levels (u : AudioUnit) : u.levels.2.toNat = u.loudness := by
  have hsource := toNat_cameraLevels u (toNat_sourceLevels u) (by have := sourceLoudness_le u; omega)
  have hsystem := toNat_cameraLevels u (toNat_systemLevels u.state) (systemLoudness_le _)
  unfold levels loudness
  dsimp only
  split_ifs with hajx hmode hshown
  · exact toNat_scale _
  · rw [toNat_phoneLevels, if_pos ‹_›]
  · rw [toNat_phoneLevels, if_neg ‹_›]
  · exact hsystem
  · exact hsource

theorem loudness_le (u : AudioUnit) : u.loudness ≤ 161 := by
  have hmain := steps_le u.state.volMain
  have haux := steps_le u.state.volAux
  have hsystem := Nat.le_trans (behindCamera_le u _) (systemLoudness_le u.state)
  have hsource := Nat.le_trans (behindCamera_le u _) (sourceLoudness_le u)
  unfold loudness
  dsimp only
  split_ifs <;> omega

/-! ## Attenuation -/

theorem toNat_register {v : U32} (hv : v.toNat ≤ 161) :
    (register v).toNat = if v.toNat = 0 then 255 else 189 - v.toNat := by
  unfold register
  by_cases hzero : v = 0
  · rw [if_neg (not_not.mpr hzero), hzero]
    rfl
  · have hpos : v.toNat ≠ 0 := fun h => hzero (BitVec.eq_of_toNat_eq h)
    rw [if_pos hzero, if_neg hpos, BitVec.toNat_setWidth, BitVec.toNat_sub]
    show (2 ^ 32 - v.toNat + 4294967229) % 2 ^ 32 % 2 ^ 8 = _
    omega

/-- The main byte of a frame is the attenuation for the loudness. -/
theorem toNat_volumeFrame (u : AudioUnit) {step : U32} (hstep : step ≤ 60) :
    (u.volumeFrame step).1.toNat = attenuation u.loudness step.toNat := by
  have hsixty : step.toNat ≤ 60 := hstep
  have hle := loudness_le u
  unfold volumeFrame attenuation
  by_cases hlast : step = 60
  · rw [if_pos hlast, if_pos (.inl (congrArg BitVec.toNat hlast))]
    rfl
  have hbyte : ∀ (c : Prop) [Decidable c] (a b b' : U8), (if c then (a, b) else (a, b')).1 = a := by
    intro c _ a b b'
    split <;> rfl
  have hreg := toNat_register (v := u.levels.2) (by rw [toNat_levels]; exact hle)
  rw [toNat_levels] at hreg
  have hwide : ((register u.levels.2).setWidth 32 + step : U32).toNat =
      (register u.levels.2).toNat + step.toNat := by
    have hlt := (register u.levels.2).isLt
    rw [BitVec.toNat_add, BitVec.toNat_setWidth]
    omega
  have hover : ((register u.levels.2).setWidth 32 + step : U32) > 0xCF ↔
      u.loudness = 0 ∨ 207 < 189 - u.loudness + step.toNat := by
    show 207 < ((register u.levels.2).setWidth 32 + step : U32).toNat ↔ _
    rw [hwide, hreg]
    split_ifs <;> omega
  have hne : ¬ step.toNat = 60 := fun h => hlast (BitVec.eq_of_toNat_eq h)
  rw [if_neg hlast, hbyte]
  by_cases hsilent : u.loudness = 0 ∨ 207 < 189 - u.loudness + step.toNat
  · rw [if_pos (hover.mpr hsilent), if_pos (.inr hsilent)]
    rfl
  · rw [if_neg (fun h => hsilent (hover.mp h)), if_neg (by rintro (h | h); exacts [hne h, hsilent h]),
      BitVec.toNat_setWidth, hwide, hreg, if_neg (fun h => hsilent (.inl h))]
    omega

theorem attenuation_range {loudness step : ℕ} (h : loudness ≤ 68) :
    attenuation loudness step = 255 ∨ 121 ≤ attenuation loudness step ∧ attenuation loudness step ≤ 207 := by
  unfold attenuation
  split_ifs <;> omega

theorem attenuation_anti {loudness loudness' step : ℕ} (h : loudness ≤ loudness') :
    attenuation loudness' step ≤ attenuation loudness step := by
  unfold attenuation
  split_ifs <;> omega

theorem attenuation_mono {loudness step step' : ℕ} (h : step ≤ step') (h' : step' ≤ 60) :
    attenuation loudness step ≤ attenuation loudness step' := by
  unfold attenuation
  split_ifs <;> omega

/-! ## The volumes -/

theorem ite_le_ite {c : Prop} [Decidable c] {a b a' b' : ℕ} (h : a ≤ a') (h' : b ≤ b') :
    (if c then a else b) ≤ if c then a' else b' := by
  split_ifs
  · exact h
  · exact h'

theorem behindCamera_mono (u : AudioUnit) {loudness loudness' : ℕ} (h : loudness ≤ loudness') :
    u.behindCamera loudness ≤ u.behindCamera loudness' := by
  unfold behindCamera
  split_ifs
  · exact Nat.div_le_div_right (Nat.mul_le_mul_left _ h)
  · exact h

theorem systemLoudness_mono (s : AudioState) {vol : U8} (h : s.volMain ≤ vol) :
    systemLoudness s ≤ systemLoudness { s with volMain := vol } := by
  have hsteps := steps_mono h
  unfold systemLoudness
  by_cases hon : s.audioSrc = 3 ∧ s.volMain ≠ 0
  · have hvol : vol ≠ 0 := by
      rintro rfl
      exact hon.2 (BitVec.le_zero_iff.mp h)
    rw [if_pos hon, if_pos ⟨hon.1, hvol⟩]
    exact Nat.add_le_add_right hsteps 8
  · rw [if_neg hon]
    exact Nat.zero_le _

theorem sourceLoudness_mono (u : AudioUnit) {vol : U8} (h : u.state.volMain ≤ vol) :
    u.sourceLoudness ≤ (u.setVolMain vol).sourceLoudness := by
  have hsteps := steps_mono h
  have hsofter : steps u.state.volMain - 12 ≤ steps vol - 12 := Nat.sub_le_sub_right hsteps 12
  have hmixed := ite_le_ite (c := u.avGpsSwitch = 0) hsofter (Nat.le_refl 0)
  have hopen := ite_le_ite (c := u.state.avGpsMonitor = 0 ∧ u.state.actBit3 ≠ 0) (Nat.le_refl 0) hsteps
  have hrest := ite_le_ite (c := u.state.avGpsMonitor ≠ 0 ∧ u.state.actBit1 ≠ 0) hmixed hopen
  have hgap := ite_le_ite (c := u.state.actBit2 ≠ 0) (Nat.le_refl 0) hrest
  exact ite_le_ite (Nat.le_refl 0) (ite_le_ite hsteps hgap)

/-- A higher main volume is not softer. -/
theorem loudness_setVolMain (u : AudioUnit) {vol : U8} (h : u.state.volMain ≤ vol) :
    u.loudness ≤ (u.setVolMain vol).loudness := by
  have hsystem := behindCamera_mono u (systemLoudness_mono u.state h)
  have hsource := behindCamera_mono u (sourceLoudness_mono u h)
  exact ite_le_ite (steps_mono h) (ite_le_ite (Nat.le_refl _) (ite_le_ite hsystem hsource))

theorem loudness_setVolAux (u : AudioUnit) {vol : U8} (h : u.state.volAux ≤ vol) :
    u.loudness ≤ (u.setVolAux vol).loudness := by
  have hphone := ite_le_ite (c := u.PhoneApart) (Nat.le_refl 0) (steps_mono h)
  exact ite_le_ite (Nat.le_refl _) (ite_le_ite hphone (Nat.le_refl _))

/-- With volumes up to 100 the loudness is at most 68 steps. -/
theorem loudness_le_of (u : AudioUnit) (hmain : u.state.volMain ≤ 100) (haux : u.state.volAux ≤ 100) :
    u.loudness ≤ 68 := by
  have hstepsMain : steps u.state.volMain ≤ 60 := steps_mono hmain
  have hstepsAux : steps u.state.volAux ≤ 60 := steps_mono haux
  have hsystem : systemLoudness u.state ≤ 68 := by
    unfold systemLoudness
    split_ifs <;> omega
  have hsource : u.sourceLoudness ≤ 60 := by
    unfold sourceLoudness
    dsimp only
    split_ifs <;> omega
  have hbehind := Nat.le_trans (behindCamera_le u _) hsystem
  have hbehind' := Nat.le_trans (behindCamera_le u _) hsource
  unfold loudness
  dsimp only
  split_ifs <;> omega

/-! ## The volume law -/

theorem volumeLaw (u : AudioUnit) (step : U32) (hmute : u.state.mute ≠ 1) (hmain : u.state.volMain ≤ 100)
    (haux : u.state.volAux ≤ 100) (hstep : step ≤ 60) : VolumeLaw u step where
  sends := by
    have hnot : ¬ step > 60 := BitVec.not_lt.mpr hstep
    unfold sendVolume
    rw [if_neg hnot, if_pos hmute]
  range := by
    rcases attenuation_range (loudness_le_of u hmain haux) with hsilent | hrange
    · exact .inl (BitVec.eq_of_toNat_eq ((toNat_volumeFrame u hstep).trans hsilent))
    · rw [toNat_volumeFrame u hstep]
      exact .inr hrange
  volMain vol hle _ := by
    show ((u.setVolMain vol).volumeFrame step).1.toNat ≤ (u.volumeFrame step).1.toNat
    rw [toNat_volumeFrame _ hstep, toNat_volumeFrame u hstep]
    exact attenuation_anti (loudness_setVolMain u hle)
  volAux vol hle _ := by
    show ((u.setVolAux vol).volumeFrame step).1.toNat ≤ (u.volumeFrame step).1.toNat
    rw [toNat_volumeFrame _ hstep, toNat_volumeFrame u hstep]
    exact attenuation_anti (loudness_setVolAux u hle)
  rises step' hle hle' := by
    show (u.volumeFrame step).1.toNat ≤ (u.volumeFrame step').1.toNat
    rw [toNat_volumeFrame u hstep, toNat_volumeFrame u hle']
    exact attenuation_mono hle hle'
  silent hsixty := by
    unfold volumeFrame
    rw [if_pos hsixty]

theorem volumeLaw_inCall : VolumeLaw VolumeRoutine.inCall 10 :=
  volumeLaw _ 10 (by decide) (by decide) (by decide) (by decide)

/-! ## Fades -/

theorem sendVolume_frames (u : AudioUnit) {step : U32} (hmute : u.state.mute ≠ 1) (hstep : step ≤ 60) :
    (u.sendVolume step).frames = u.volumeFrame step :: u.frames := by
  unfold sendVolume
  rw [if_neg (BitVec.not_lt.mpr hstep), if_pos hmute]

theorem emit_frames (e : AudioEvent) (u : AudioUnit) : (u.emit e).frames = u.frames := rfl

/-- A fade sends the frames of its steps in their order. -/
theorem foldl_sendVolume_frames (fade : List U32) (u : AudioUnit) (hmute : u.state.mute ≠ 1)
    (hfade : ∀ step ∈ fade, step ≤ 60) :
    (fade.foldl (fun u step => u.sendVolume step) u).frames =
      (fade.map u.volumeFrame).reverse ++ u.frames := by
  induction fade generalizing u with
  | nil => rfl
  | cons step rest ih =>
    have hstep := hfade step List.mem_cons_self
    have hsame := (sameVolume_sendVolume step u).volumeFrame
    have hrest := ih (u.sendVolume step) (by rwa [sendVolume_state])
      fun step' hmem => hfade step' (List.mem_cons_of_mem _ hmem)
    rw [List.foldl_cons, hrest, sendVolume_frames u hmute hstep, funext hsame, List.map_cons,
      List.reverse_cons, List.append_assoc]
    rfl

theorem fadesIn (u : AudioUnit) (hon : u.isAudioEnable = true) : u.FadesIn := by
  have hmute : u.state.mute ≠ 1 := by
    intro h
    unfold isAudioEnable at hon
    rw [if_pos h] at hon
    cases hon
  unfold FadesIn fadeIn
  rw [if_pos hon]
  by_cases ham : u.mtcCustomer = customerAm
  · rw [if_pos ham]
    exact ⟨[u.volumeFrame 0], sendVolume_frames u hmute (by decide), rfl, List.pairwise_singleton _ _⟩
  · have hfalls : ([60, 55, 50, 45, 40, 35, 30, 25, 20, 15, 10, 5, 0] : List U32).Pairwise
        fun step step' => step' ≤ step ∧ step ≤ 60 := by decide
    have hframes : u.fadeInSteps.frames = _ := foldl_sendVolume_frames _ u hmute (by simp)
    rw [if_neg ham]
    rw [emit_frames, hframes]
    refine ⟨_, rfl, rfl, ?_⟩
    rw [List.pairwise_reverse, List.pairwise_map]
    refine hfalls.imp fun {step step'} h => ?_
    show (u.volumeFrame step').1.toNat ≤ (u.volumeFrame step).1.toNat
    rw [toNat_volumeFrame u (BitVec.le_trans h.1 h.2), toNat_volumeFrame u h.2]
    exact attenuation_mono h.1 h.2

/-- The loop of `Audio_FadeOut` ends at its second step. -/
theorem fadeOut_frames (u : AudioUnit) (hmute : u.state.mute ≠ 1) (hpin : u.state.muteAll ≠ 1)
    (ham : u.mtcCustomer ≠ customerAm) :
    u.fadeOut.frames = [u.volumeFrame 5, u.volumeFrame 0] ++ u.frames := by
  have hsteps : fadeOutSteps [0, 5, 10, 15, 20, 25, 30, 35, 40, 45, 50, 55, 60] u =
      [0, 5].foldl (fun u step => u.sendVolume step) u := by
    unfold fadeOutSteps
    rw [if_neg (by decide)]
    unfold fadeOutSteps
    rw [if_pos (by decide)]
    rfl
  unfold fadeOut
  rw [if_pos hpin, if_neg ham, hsteps, emit_frames]
  exact foldl_sendVolume_frames [0, 5] u hmute (by simp)

/-- At step 5 there is silence only if there was before. -/
theorem volumeFrame_five_iff (u : AudioUnit) : u.volumeFrame 5 = (0xFF, 0xFF) ↔ u.loudness = 0 := by
  have hbyte : (u.volumeFrame 5).1.toNat = attenuation u.loudness 5 := toNat_volumeFrame u (by decide)
  have hsnd : (u.volumeFrame 5).2 = 0xFF := rfl
  have hle := loudness_le u
  have hsilent : attenuation u.loudness 5 = 255 ↔ u.loudness = 0 := by
    unfold attenuation
    split_ifs <;> omega
  rw [← hsilent]
  constructor
  · intro h
    rw [← hbyte, h]
    rfl
  · intro h
    exact Prod.ext (BitVec.eq_of_toNat_eq (hbyte.trans h)) hsnd

theorem fadesOut_iff (u : AudioUnit) (hmute : u.state.mute ≠ 1) (hpin : u.state.muteAll ≠ 1) :
    u.FadesOut ↔ u.mtcCustomer = customerAm ∨ u.loudness = 0 := by
  by_cases ham : u.mtcCustomer = customerAm
  · refine iff_of_true ⟨[u.volumeFrame 60], ?_, rfl, List.pairwise_singleton _ _⟩ (.inl ham)
    unfold fadeOut
    rw [if_pos hpin, if_pos ham]
    exact sendVolume_frames u hmute (by decide)
  have hframes := fadeOut_frames u hmute hpin ham
  have hrises : (u.volumeFrame 0).1 ≤ (u.volumeFrame 5).1 := by
    show (u.volumeFrame 0).1.toNat ≤ (u.volumeFrame 5).1.toNat
    rw [toNat_volumeFrame u (by decide), toNat_volumeFrame u (by decide)]
    exact attenuation_mono (by decide) (by decide)
  rw [or_iff_right ham, ← volumeFrame_five_iff]
  constructor
  · rintro ⟨sent, hsent, hlast, -⟩
    rw [List.append_cancel_right (hsent.symm.trans hframes)] at hlast
    exact Option.some.inj hlast
  · intro hsilent
    refine ⟨_, hframes, congrArg some hsilent, ?_⟩
    exact List.pairwise_pair.mpr hrises

/-- The fades of a unit that is not muted reach their ends if there is nothing to fade out: the mute pin is
set, the customer does without the fade, or the main output is silent already. -/
theorem fadesRight_iff (u : AudioUnit) (hmute : u.state.mute ≠ 1) :
    u.FadesRight ↔ u.state.muteAll = 1 ∨ u.mtcCustomer = customerAm ∨ u.loudness = 0 := by
  by_cases hpin : u.state.muteAll = 1
  · exact iff_of_true ⟨fun h => absurd hpin h, fadesIn u⟩ (.inl hpin)
  · rw [or_iff_right hpin, ← fadesOut_iff u hmute hpin]
    exact ⟨fun h => h.out hpin, fun h => ⟨fun _ => h, fadesIn u⟩⟩

/-- The radio is tuned in at volume 30. -/
def listening : AudioUnit :=
  (default : AudioUnit).map fun s => { s with audioCh := 4, audioSrc := 0x1E, volMain := 0x1E }

theorem fadesRight_inCall : VolumeRoutine.inCall.FadesRight ↔
    VolumeRoutine.inCall.state.muteAll = 1 ∨ VolumeRoutine.inCall.mtcCustomer = customerAm ∨
      VolumeRoutine.inCall.loudness = 0 :=
  fadesRight_iff _ (by decide)

theorem not_fadesRight_listening : ¬ listening.FadesRight := by
  intro h
  have hsilent := (fadesOut_iff listening (by decide) (by decide)).mp (h.out (by decide))
  exact absurd hsilent (by decide)

end AudioUnit

end MtcDrivers
