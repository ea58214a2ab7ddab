import MtcDrivers.Power.System

/-!
# The power reference count covers its users

In a run without a lost reference the count is at least the number of references that the main power and
the users hold.
-/

namespace MtcDrivers

namespace Audio

/-- What the reference count depends on: the count, the phone mode and the AJX channel. -/
def calls (a : Audio) : U8 × U8 × U8 := (a.powerRefcnt, a.state.chMode, a.state.ajxActive)

@[simp] theorem calls_emit (a : Audio) (e : AudioEvent) : (a.emit e).calls = a.calls := rfl

theorem calls_map (a : Audio) (f : AudioState → AudioState)
    (hmode : (f a.state).chMode = a.state.chMode) (hajx : (f a.state).ajxActive = a.state.ajxActive) :
    (a.map f).calls = a.calls := by
  unfold calls
  rw [map_state, hmode, hajx]
  rfl

theorem calls_ite {c : Prop} [Decidable c] {a b : Audio} {v : U8 × U8 × U8} (ha : a.calls = v)
    (hb : b.calls = v) : (if c then a else b).calls = v := by
  by_cases hc : c
  · rw [if_pos hc]
    exact ha
  · rw [if_neg hc]
    exact hb

theorem calls_setMutePin (pin : U8) (a : Audio) : (a.setMutePin pin).calls = a.calls := by
  apply calls_ite
  · rfl
  · rfl

@[simp] theorem calls_releaseMutePin (a : Audio) : a.releaseMutePin.calls = a.calls := by
  apply calls_ite
  · exact calls_setMutePin 0 (a.map fun s => { s with mutePinLatch := 0 })
  · rfl

theorem calls_applyActiveCmd (a : Audio) : a.applyActiveCmd.calls = a.calls := by
  apply calls_ite
  · have hbit3 : ∀ (c : Prop) [Decidable c] (bit3 : U8),
        (if c then a.map fun s => { s with actBit3 := bit3 } else a).calls = a.calls := by
      intro c _ bit3
      exact calls_ite rfl rfl
    apply calls_ite
    · rw [calls_emit, calls_map _ _ rfl rfl]
      exact hbit3 _ _
    · rw [calls_map _ _ rfl rfl]
      exact hbit3 _ _
  · rfl

@[simp] theorem calls_activate (a : Audio) : a.activate.calls = a.calls := by
  apply calls_ite
  · rfl
  · rw [calls_applyActiveCmd, calls_setMutePin]
    rfl

@[simp] theorem calls_deactivate (a : Audio) :
    a.deactivate.calls =
      (a.calls.1, if a.state.audioActive ≠ 0 then 0 else a.calls.2.1, a.calls.2.2) := by
  unfold deactivate
  by_cases h : a.state.audioActive = 0
  · rw [if_pos h, if_neg (fun hne => hne h)]
  · rw [if_neg h, if_pos h]
    rfl

theorem calls_phoneChannel (mode : U8) (a : Audio) :
    (a.phoneChannel mode).calls = (a.calls.1, mode, a.calls.2.2) := by
  apply calls_ite
  · rfl
  · by_cases hmode : mode ≠ 0
    · rw [if_pos hmode]
      rfl
    · have hzero : mode = 0 := Decidable.of_not_not hmode
      rw [if_neg hmode, hzero]
      apply calls_ite
      · rfl
      · rfl

theorem calls_ajxChannel (mode : Bool) (a : Audio) :
    (a.ajxChannel mode).calls = (a.calls.1, a.calls.2.1, if mode then 1 else 0) := by
  cases mode with
  | true => rfl
  | false => rfl

end Audio

namespace Power

/-- The count, the main power, the phone mode and the AJX channel. -/
def calls (p : Power) : U8 × U8 × U8 × U8 := (p.powerOn, p.audio.calls)

theorem calls_emit (p : Power) (e : PowerEvent) : (p.emit e).calls = p.calls := rfl

theorem calls_ite {c : Prop} [Decidable c] {p q : Power} {v : U8 × U8 × U8 × U8} (hp : p.calls = v)
    (hq : q.calls = v) : (if c then p else q).calls = v := by
  by_cases hc : c
  · rw [if_pos hc]
    exact hp
  · rw [if_neg hc]
    exact hq

theorem calls_workAcquire (p : Power) :
    p.workAcquire.calls =
      (p.powerOn, p.refcnt + 1, p.audio.state.chMode, p.audio.state.ajxActive) := by
  apply calls_ite
  · rw [calls_emit]
    unfold calls audioActive
    rw [Audio.calls_activate]
    rfl
  · rfl

theorem calls_workOn (cmd2 : U32) (p : Power) :
    (p.workOn cmd2).calls = (1, 1, p.audio.state.chMode, p.audio.state.ajxActive) := by
  apply calls_ite
  · rw [calls_emit]
    apply calls_ite
    · exact calls_ite rfl rfl
    · rfl
  · apply calls_ite
    · exact calls_ite rfl rfl
    · rfl

theorem calls_powerSoftOff (p : Power) :
    p.powerSoftOff.calls = (0, 0, p.audio.state.chMode, p.audio.state.ajxActive) := by
  unfold powerSoftOff
  dsimp only
  rw [calls_emit]
  exact calls_ite rfl rfl

theorem calls_workOff (p : Power) :
    p.workOff.calls = (0, 0, p.audio.state.chMode, p.audio.state.ajxActive) := by
  have hstate : ∀ (c d : Prop) [Decidable c] [Decidable d] (e e' : PowerEvent),
      let q := if c then (p.setRefcnt 0).emit e else p.setRefcnt 0
      (if d then { q with rptPower := 1 }.emit e' else q).audio.state = p.audio.state := by
    intro c d _ _ e e'
    by_cases hc : c
    · by_cases hd : d
      · simp only [if_pos hc, if_pos hd]
        rfl
      · simp only [if_pos hc, if_neg hd]
        rfl
    · by_cases hd : d
      · simp only [if_neg hc, if_pos hd]
        rfl
      · simp only [if_neg hc, if_neg hd]
        rfl
  unfold workOff
  dsimp only
  rw [calls_emit, calls_powerSoftOff, hstate]

theorem calls_workOffAcc (p : Power) :
    p.workOffAcc.calls = (0, 0, p.audio.state.chMode, p.audio.state.ajxActive) := by
  have hcamera : ∀ (c d : Prop) [Decidable c] [Decidable d] (q : Power) (e e' : PowerEvent),
      (if c then q.emit e else if d then q.emit e' else q).audio.state = q.audio.state := by
    intro c d _ _ q e e'
    by_cases hc : c
    · rw [if_pos hc]
      rfl
    · rw [if_neg hc]
      by_cases hd : d
      · rw [if_pos hd]
        rfl
      · rw [if_neg hd]
  have hreport : ∀ (c : Prop) [Decidable c] (q : Power) (e : PowerEvent),
      (if c then { q.setRefcnt 0 with rptPower := 1 }.emit e else q).audio.state = q.audio.state := by
    intro c _ q e
    by_cases hc : c
    · rw [if_pos hc]
      rfl
    · rw [if_neg hc]
  unfold workOffAcc
  dsimp only
  rw [calls_powerSoftOff, hreport, hcamera]
  rfl

theorem workRelease_zero {p : Power} (h : p.refcnt = 0) : p.workRelease = p := if_pos h

/-- The last reference: the phone is hung up if the audio module is active. -/
theorem calls_workRelease_last {p : Power} (h : p.refcnt = 1) :
    p.workRelease.calls =
      (p.powerOn, 0, if p.audio.state.audioActive ≠ 0 then 0 else p.audio.state.chMode,
        p.audio.state.ajxActive) := by
  have hne : p.refcnt ≠ 0 := by
    rw [h]
    decide
  have hlast : (p.setRefcnt (p.refcnt - 1)).refcnt = 0 := by
    show p.refcnt - 1 = 0
    rw [h]
    rfl
  have hcalls : (p.setRefcnt (p.refcnt - 1)).audioDeactive.calls =
      (p.powerOn, 0, if p.audio.state.audioActive ≠ 0 then 0 else p.audio.state.chMode,
        p.audio.state.ajxActive) := by
    unfold calls audioDeactive
    rw [Audio.calls_deactivate]
    exact congrArg (fun n => (p.powerOn, n, _, _)) hlast
  unfold workRelease
  dsimp only
  rw [if_neg hne, if_neg fun hrest => hrest hlast]
  apply calls_ite
  · exact hcalls
  · exact hcalls

/-- While references remain, item 30 only counts. -/
theorem workRelease_rest {p : Power} (h0 : p.refcnt ≠ 0) (h1 : p.refcnt ≠ 1) :
    p.workRelease = p.setRefcnt (p.refcnt - 1) := by
  have hrest : (p.setRefcnt (p.refcnt - 1)).refcnt ≠ 0 := by
    show p.refcnt - 1 ≠ 0
    intro h
    exact h1 (by bv_omega)
  unfold workRelease
  dsimp only
  rw [if_neg h0, if_pos hrest]

/-- Only the last reference is logged. -/
theorem log_workRelease_rest {p : Power} (h1 : p.refcnt ≠ 1) : p.workRelease.log = p.log := by
  by_cases h0 : p.refcnt = 0
  · rw [workRelease_zero h0]
  · rw [workRelease_rest h0 h1]
    rfl

end Power

namespace PowerSystem

variable {s s' : PowerSystem}

/-- The references of the main power, the phone and the AJX channel. -/
def references (s : PowerSystem) : ℕ :=
  (if s.power.powerOn = 1 then 1 else 0) + (s.session .phone).held.toNat + (s.session .ajx).held.toNat

/-- The invariant of a run without a lost reference. -/
structure Covered (s : PowerSystem) : Prop where
  count : s.references ≤ s.power.refcnt.toNat
  active : ∀ user, s.active user → (s.session user).entered → (s.session user).held
  left : ∀ user, s.phase = .left user → (s.session user).entered = false

theorem refcnt_ne_zero {p : Power} (h : 0 < p.refcnt.toNat) : p.refcnt ≠ 0 := by
  intro h0
  rw [h0] at h
  exact absurd h (by decide)

theorem held_le_references (s : PowerSystem) (user : User) (h : (s.session user).held = true) :
    0 < s.references := by
  unfold references
  cases user with
  | phone =>
    rw [h, Bool.toNat_true]
    omega
  | ajx =>
    rw [h, Bool.toNat_true]
    omega

/-- The invariant says what is to hold in every state. -/
theorem Covered.counted (h : Covered s) : Counted s where
  powerOn := by
    intro hon
    apply refcnt_ne_zero
    have hcount := h.count
    unfold references at hcount
    rw [if_pos hon] at hcount
    omega
  session := by
    intro user hactive hentered
    apply refcnt_ne_zero
    have hheld := held_le_references s user (h.active user hactive hentered)
    exact Nat.lt_of_lt_of_le hheld h.count

theorem Start.covered (h : Start s) : Covered s where
  count := by
    unfold references session
    rw [h.refcnt, h.phone, h.ajx]
    rcases h.powerOn with hoff | hon
    · rw [hoff]
      decide
    · rw [hon]
      decide
  active := by
    intro user _ hentered
    cases user with
    | phone => exact absurd (h.phone ▸ hentered : (⟨false, false⟩ : UserSession).entered = true) (by decide)
    | ajx => exact absurd (h.ajx ▸ hentered : (⟨false, false⟩ : UserSession).entered = true) (by decide)
  left := by
    intro user hleft
    rw [h.phase] at hleft
    cases hleft

theorem active_mono (hmode : s'.power.audio.state.chMode ≠ 0 → s.power.audio.state.chMode ≠ 0)
    (hajx : s'.power.audio.state.ajxActive ≠ 0 → s.power.audio.state.ajxActive ≠ 0) (user : User)
    (h : s'.active user) : s.active user := by
  cases user with
  | phone => exact decide_eq_true (hmode (of_decide_eq_true h))
  | ajx => exact decide_eq_true (hajx (of_decide_eq_true h))

/-- Audio work that starts no session. -/
theorem Covered.setAudio (h : Covered s) {a : Audio} {mode ajx : U8}
    (hcalls : a.calls = (s.power.refcnt, mode, ajx))
    (hmode : mode ≠ 0 → s.power.audio.state.chMode ≠ 0)
    (hajx : ajx ≠ 0 → s.power.audio.state.ajxActive ≠ 0) : Covered (s.setAudio a) where
  count := by
    have hcount : (s.setAudio a).power.refcnt = s.power.refcnt := congrArg Prod.fst hcalls
    rw [hcount]
    exact h.count
  active := by
    intro user hactive hentered
    have hmode' : a.state.chMode = mode := congrArg (fun v => v.2.1) hcalls
    have hajx' : a.state.ajxActive = ajx := congrArg (fun v => v.2.2) hcalls
    refine h.active user (active_mono ?_ ?_ user hactive) hentered
    · exact fun hne => hmode (hmode' ▸ hne)
    · exact fun hne => hajx (hajx' ▸ hne)
  left := h.left

theorem Covered.setPhase (h : Covered s) (phase : Phase) (hphase : ∀ user, phase ≠ .left user) :
    Covered { s with phase := phase } where
  count := h.count
  active := h.active
  left := fun user hleft => absurd hleft (hphase user)

theorem session_go (s : PowerSystem) (p : Power) (phase : Phase) (user : User) :
    ({ s with power := p, phase := phase } : PowerSystem).session user = s.session user := by
  cases user with
  | phone => rfl
  | ajx => rfl

theorem session_setSession (s : PowerSystem) (r : UserSession) (user user' : User) :
    (s.setSession r user).session user' = if user' = user then r else s.session user' := by
  cases user with
  | phone => cases user' <;> rfl
  | ajx => cases user' <;> rfl

theorem power_setSession (s : PowerSystem) (r : UserSession) (user : User) :
    (s.setSession r user).power = s.power := by
  cases user with
  | phone => rfl
  | ajx => rfl

theorem phase_setSession (s : PowerSystem) (r : UserSession) (user : User) :
    (s.setSession r user).phase = s.phase := by
  cases user with
  | phone => rfl
  | ajx => rfl

theorem active_setSession (s : PowerSystem) (r : UserSession) (user user' : User) :
    (s.setSession r user).active user' = s.active user' := by
  cases user' with
  | phone =>
    unfold active
    rw [power_setSession]
  | ajx =>
    unfold active
    rw [power_setSession]

/-- After a change of one session the active users hold their references, if that user does and the others
    did before. -/
theorem active_of_setSession {r : UserSession} {user : User} (hself : s.active user → r.entered → r.held)
    (hother : ∀ user', user' ≠ user → s.active user' → (s.session user').entered → (s.session user').held)
    (user' : User) (hactive : (s.setSession r user).active user')
    (hentered : ((s.setSession r user).session user').entered) :
    ((s.setSession r user).session user').held := by
  rw [active_setSession] at hactive
  rw [session_setSession] at hentered ⊢
  by_cases hsame : user' = user
  · subst hsame
    rw [if_pos rfl] at hentered ⊢
    exact hself hactive hentered
  · rw [if_neg hsame] at hentered ⊢
    exact hother user' hsame hactive hentered

/-- A user that leaves is not in a session any more, and still holds its reference. -/
theorem Covered.leave (h : Covered s) (user : User) :
    Covered ({ s with phase := .left user }.setSession { s.session user with entered := false } user) where
  count := by
    have hcount := h.count
    unfold references at hcount ⊢
    rw [power_setSession, session_setSession, session_setSession]
    cases user with
    | phone => exact hcount
    | ajx => exact hcount
  active := active_of_setSession (fun _ hentered => absurd hentered Bool.false_ne_true)
    fun user' _ hactive hentered => h.active user' hactive hentered
  left := by
    intro user' hleft
    rw [phase_setSession] at hleft
    rw [session_setSession]
    cases hleft
    rw [if_pos rfl]

theorem Covered.startPhone (h : Covered s) (cmd2 : U32) : Covered (s.startPhone cmd2) := by
  have hcalls := Audio.calls_releaseMutePin s.power.audio
  have hmode : s.power.audio.releaseMutePin.state.chMode = s.power.audio.state.chMode :=
    congrArg (fun v => v.2.1) hcalls
  unfold PowerSystem.startPhone
  dsimp only
  by_cases hsame : cmd2 = s.power.audio.releaseMutePin.state.chMode.setWidth 32
  · rw [if_pos hsame]
    exact h.setAudio hcalls id id
  rw [if_neg hsame]
  by_cases hon : s.power.audio.releaseMutePin.state.chMode ≠ 0
  · rw [if_pos hon]
    by_cases hchange : cmd2 ≠ 0
    · -- another mode of the session that the phone is in
      rw [if_pos hchange]
      have hnew : ∀ b : Audio, b.calls = (s.power.audio.releaseMutePin.calls.1, cmd2.setWidth 8,
          s.power.audio.releaseMutePin.calls.2.2) → Covered (s.setAudio b) := by
        intro b hb
        rw [hcalls] at hb
        exact h.setAudio hb (fun _ => hmode ▸ hon) id
      exact hnew _ rfl
    · rw [if_neg hchange]
      have hout : ((s.power.audio.releaseMutePin.phoneChannel 0).emit (.carAddWork 30)).calls =
          (s.power.refcnt, 0, s.power.audio.state.ajxActive) := by
        rw [Audio.calls_emit, Audio.calls_phoneChannel, hcalls]
        rfl
      have hzero : (0 : U8) ≠ 0 → s.power.audio.state.chMode ≠ 0 := fun hne => absurd rfl hne
      exact (h.setAudio hout hzero id).leave .phone
  · rw [if_neg hon]
    have hwait := h.setAudio (a := s.power.audio.releaseMutePin.emit (.carAddWork 29)) hcalls id id
    apply hwait.setPhase
    intro user hleft
    cases hleft

theorem Covered.startAjxOn (h : Covered s) : Covered s.startAjxOn := by
  have hcalls := Audio.calls_releaseMutePin s.power.audio
  unfold PowerSystem.startAjxOn
  dsimp only
  by_cases hoff : s.power.audio.releaseMutePin.state.ajxActive = 0
  · rw [if_pos hoff]
    have hwait := h.setAudio (a := s.power.audio.releaseMutePin.emit (.carAddWork 29)) hcalls id id
    apply hwait.setPhase
    intro user hleft
    cases hleft
  · rw [if_neg hoff]
    exact h.setAudio hcalls id id

theorem Covered.startAjxOff (h : Covered s) : Covered s.startAjxOff := by
  have hcalls := Audio.calls_releaseMutePin s.power.audio
  unfold PowerSystem.startAjxOff
  dsimp only
  by_cases hon : s.power.audio.releaseMutePin.state.ajxActive ≠ 0
  · rw [if_pos hon]
    have hout : ((s.power.audio.releaseMutePin.ajxChannel false).emit (.carAddWork 30)).calls =
        (s.power.refcnt, s.power.audio.state.chMode, 0) := by
      rw [Audio.calls_emit, Audio.calls_ajxChannel, hcalls]
      rfl
    have hzero : (0 : U8) ≠ 0 → s.power.audio.state.ajxActive ≠ 0 := fun hne => absurd rfl hne
    exact (h.setAudio hout id hzero).leave .ajx
  · rw [if_neg hon]
    exact h.setAudio hcalls id id

theorem Covered.dropPhone (h : Covered s) : Covered s.dropPhone := by
  unfold PowerSystem.dropPhone
  by_cases hactive : s.power.audio.state.audioActive ≠ 0
  · rw [if_pos hactive]
    refine ⟨?_, ?_, ?_⟩
    · refine Nat.le_trans ?_ h.count
      unfold references session
      simp only [Bool.toNat_false]
      omega
    · intro user hactive' hentered
      cases user with
      | phone => cases hentered
      | ajx => exact h.active .ajx hactive' hentered
    · intro user hleft
      cases user with
      | phone => rfl
      | ajx => exact h.left .ajx hleft
  · rw [if_neg hactive]
    exact h

theorem power_dropPhone (s : PowerSystem) : s.dropPhone.power = s.power := by
  unfold PowerSystem.dropPhone
  by_cases hactive : s.power.audio.state.audioActive ≠ 0
  · rw [if_pos hactive]
  · rw [if_neg hactive]

theorem Covered.audioDeactive (h : Covered s) :
    Covered (s.dropPhone.setAudio s.power.audio.releaseMutePin.deactivate) := by
  have hcalls := Audio.calls_deactivate s.power.audio.releaseMutePin
  rw [Audio.calls_releaseMutePin] at hcalls
  have hpower := power_dropPhone s
  apply h.dropPhone.setAudio (hcalls.trans (by rw [hpower]; rfl))
  · rw [hpower]
    intro hne hzero
    apply hne
    by_cases hactive : s.power.audio.releaseMutePin.state.audioActive ≠ 0
    · rw [if_pos hactive]
    · rw [if_neg hactive]
      exact hzero
  · rw [hpower]
    exact id

theorem toNat_add_one {n : U8} (h : n ≠ 255) : (n + 1).toNat = n.toNat + 1 := by bv_omega

theorem toNat_sub_one {n : U8} (h : n ≠ 0) : (n - 1).toNat = n.toNat - 1 := by bv_omega

/-- The other one of the two. -/
def otherUser : User → User
  | .phone => .ajx
  | .ajx => .phone

theorem eq_otherUser {user user' : User} (h : user' ≠ user) : user' = otherUser user := by
  cases user with
  | phone =>
    cases user' with
    | phone => exact absurd rfl h
    | ajx => rfl
  | ajx =>
    cases user' with
    | phone => rfl
    | ajx => exact absurd rfl h

theorem references_eq (s : PowerSystem) (user : User) :
    s.references = (if s.power.powerOn = 1 then 1 else 0) + (s.session user).held.toNat +
      (s.session (otherUser user)).held.toNat := by
  cases user with
  | phone => rfl
  | ajx => exact Nat.add_right_comm _ _ _

theorem references_setSession (s : PowerSystem) (r : UserSession) (user : User) :
    (s.setSession r user).references = (if s.power.powerOn = 1 then 1 else 0) + r.held.toNat +
      (s.session (otherUser user)).held.toNat := by
  cases user with
  | phone => rfl
  | ajx => exact Nat.add_right_comm _ _ _

/-- Item 29 counts the reference that its user gets. -/
theorem Covered.item29 (h : Covered s) (hwrap : s.power.refcnt ≠ 255) (user : User) (mode : U8) :
    Covered ({ s with power := s.power.workAcquire, phase := .granted user mode }.setSession
      { s.session user with held := true } user) := by
  have hcalls := Power.calls_workAcquire s.power
  have hon : s.power.workAcquire.powerOn = s.power.powerOn := congrArg Prod.fst hcalls
  have hcnt : s.power.workAcquire.refcnt = s.power.refcnt + 1 := congrArg (fun v => v.2.1) hcalls
  have hmode : s.power.workAcquire.audio.state.chMode = s.power.audio.state.chMode :=
    congrArg (fun v => v.2.2.1) hcalls
  have hajx : s.power.workAcquire.audio.state.ajxActive = s.power.audio.state.ajxActive :=
    congrArg (fun v => v.2.2.2) hcalls
  refine ⟨?_, ?_, ?_⟩
  · have hcount := h.count
    rw [references_eq s user] at hcount
    rw [references_setSession, power_setSession, session_go s _ _ (otherUser user), hon, hcnt, toNat_add_one hwrap,
      Bool.toNat_true]
    omega
  · refine active_of_setSession (fun _ _ => rfl) fun user' _ hactive hentered => ?_
    exact h.active user' (active_mono (fun hne => hmode ▸ hne) (fun hne => hajx ▸ hne) user' hactive) hentered
  · intro user' hleft
    rw [phase_setSession] at hleft
    cases hleft

/-- After an item 30 that has counted, with the references of the others. -/
theorem Covered.returned {p : Power} (h : Covered s) {user : User} (hleft : s.phase = .left user)
    (hcount : (if p.powerOn = 1 then 1 else 0) + (s.session (otherUser user)).held.toNat ≤ p.refcnt.toNat)
    (hmode : p.audio.state.chMode ≠ 0 → s.power.audio.state.chMode ≠ 0)
    (hajx : p.audio.state.ajxActive ≠ 0 → s.power.audio.state.ajxActive ≠ 0) :
    Covered ({ s with power := p, phase := .idle }.setSession
      { s.session user with held := false } user) where
  count := by
    rw [references_setSession, power_setSession, session_go s _ _ (otherUser user), Bool.toNat_false]
    exact hcount
  active := by
    refine active_of_setSession (fun _ hentered => ?_) fun user' _ hactive hentered => ?_
    · exact absurd (h.left user hleft) (ne_false_of_eq_true hentered)
    · rw [session_go] at hentered ⊢
      exact h.active user' (active_mono hmode hajx user' hactive) hentered
  left := by
    intro user' hleft
    rw [phase_setSession] at hleft
    cases hleft

theorem phase_dropPhone (s : PowerSystem) : s.dropPhone.phase = s.phase := by
  unfold PowerSystem.dropPhone
  by_cases hactive : s.power.audio.state.audioActive ≠ 0
  · rw [if_pos hactive]
  · rw [if_neg hactive]

/-- `audio_deactive` gives no reference. -/
theorem held_dropPhone (s : PowerSystem) (user : User) (h : (s.session user).held = false) :
    (s.dropPhone.session user).held = false := by
  unfold PowerSystem.dropPhone
  by_cases hactive : s.power.audio.state.audioActive ≠ 0
  · rw [if_pos hactive]
    cases user with
    | phone => rfl
    | ajx => exact h
  · rw [if_neg hactive]
    exact h

theorem held_eq_false {b : Bool} (h : b.toNat = 0) : b = false := by
  cases b with
  | false => rfl
  | true => cases h

theorem next_item29 (h : next .item29 s = some s') : ∃ user mode, s.phase = .wanting user mode ∧
    s' = { s with power := s.power.workAcquire, phase := .granted user mode }.setSession
      { s.session user with held := true } user := by
  unfold next at h
  dsimp only at h
  split at h
  · rename_i user mode hphase
    exact ⟨user, mode, hphase, (Option.some.inj h).symm⟩
  · cases h

theorem next_item30 (h : next .item30 s = some s') : ∃ user, s.phase = .left user ∧
    s' = { (if s.power.refcnt = 1 then s.dropPhone else s) with
      power := s.power.workRelease, phase := .idle }.setSession
        { (if s.power.refcnt = 1 then s.dropPhone else s).session user with held := false } user := by
  unfold next at h
  dsimp only at h
  split at h
  · rename_i user hphase
    exact ⟨user, hphase, (Option.some.inj h).symm⟩
  · cases h

theorem next_enter (h : next .enter s = some s') : ∃ user mode, s.phase = .granted user mode ∧
    s' = { s.setAudio (channelOf user mode s.power.audio) with phase := .idle }.setSession
      { s.session user with entered := true } user := by
  unfold next at h
  dsimp only at h
  split at h
  · rename_i user mode hphase
    exact ⟨user, mode, hphase, (Option.some.inj h).symm⟩
  · cases h

/-- When a user returns the last reference, neither the main power nor the other user holds one. -/
theorem Covered.only_holder (h : Covered s) {user : User} (hmine : (s.session user).held = true)
    (h1 : s.power.refcnt = 1) :
    s.power.powerOn ≠ 1 ∧ (s.session (otherUser user)).held = false := by
  have hcount := h.count
  have hone : (1 : U8).toNat = 1 := rfl
  rw [references_eq s user, hmine, Bool.toNat_true, h1, hone] at hcount
  constructor
  · intro hon
    rw [if_pos hon] at hcount
    omega
  · apply held_eq_false
    omega

/-- Item 30 with the last reference. -/
theorem Covered.release_last (h : Covered s) {user : User} (hleft : s.phase = .left user)
    (h1 : s.power.refcnt = 1) (hoff : s.power.powerOn ≠ 1)
    (hother : (s.session (otherUser user)).held = false) :
    Covered ({ s.dropPhone with power := s.power.workRelease, phase := .idle }.setSession
      { s.dropPhone.session user with held := false } user) := by
  have hcalls := Power.calls_workRelease_last h1
  have hpower : s.power.workRelease.powerOn = s.power.powerOn := congrArg Prod.fst hcalls
  have hmode : s.power.workRelease.audio.state.chMode = _ := congrArg (fun v => v.2.2.1) hcalls
  have hajx : s.power.workRelease.audio.state.ajxActive = s.power.audio.state.ajxActive :=
    congrArg (fun v => v.2.2.2) hcalls
  refine h.dropPhone.returned ((phase_dropPhone s).trans hleft) ?_ ?_ ?_
  · rw [hpower, if_neg hoff, held_dropPhone s _ hother]
    exact Nat.zero_le _
  · rw [hmode, power_dropPhone]
    intro hne hzero
    apply hne
    by_cases hactive : s.power.audio.state.audioActive ≠ 0
    · simp only [if_pos hactive]
    · simp only [if_neg hactive]
      exact hzero
  · rw [hajx, power_dropPhone]
    exact id

/-- Item 30 with one of several references, or with none. -/
theorem Covered.release_rest (h : Covered s) {user : User} (hleft : s.phase = .left user)
    (hheld : (s.session user).held = true ∨ s.power.refcnt = 0) (h1 : s.power.refcnt ≠ 1) :
    Covered ({ s with power := s.power.workRelease, phase := .idle }.setSession
      { s.session user with held := false } user) := by
  have hcount := h.count
  rw [references_eq s user] at hcount
  by_cases h0 : s.power.refcnt = 0
  · rw [Power.workRelease_zero h0]
    refine h.returned hleft ?_ id id
    omega
  · rw [hheld.resolve_right h0, Bool.toNat_true] at hcount
    rw [Power.workRelease_rest h0 h1]
    refine h.returned hleft ?_ id id
    have hsub : ((s.power.setRefcnt (s.power.refcnt - 1)).refcnt).toNat = s.power.refcnt.toNat - 1 :=
      toNat_sub_one h0
    rw [hsub]
    show (if s.power.powerOn = 1 then 1 else 0) + _ ≤ _
    omega

/-- Item 30 returns one reference, and the last one only if nobody else holds any. -/
theorem Covered.item30 (h : Covered s) (hstep : Lossless .item30 s)
    (hs' : next .item30 s = some s') : Covered s' ∧ ReleasedLast .item30 s s' := by
  obtain ⟨user, hleft, rfl⟩ := next_item30 hs'
  have hheld : (s.session user).held = true ∨ s.power.refcnt = 0 := hstep user hleft
  by_cases h1 : s.power.refcnt = 1
  · have hne : s.power.refcnt ≠ 0 := by
      rw [h1]
      decide
    obtain ⟨hoff, hother⟩ := h.only_holder (hheld.resolve_right hne) h1
    rw [if_pos h1]
    refine ⟨h.release_last hleft h1 hoff hother, fun _ _ => ⟨hoff, fun user' hne => ?_⟩⟩
    have huser : user' = otherUser user := eq_otherUser fun heq => hne (heq ▸ hleft)
    rw [huser]
    exact hother
  · rw [if_neg h1]
    refine ⟨h.release_rest hleft hheld h1, fun _ hlog => ?_⟩
    rw [power_setSession] at hlog
    exact absurd (Power.log_workRelease_rest h1) hlog

/-- A user that enters on a reference that it holds. -/
theorem Covered.enter (h : Covered s) {user : User} {mode : U8} (hheld : (s.session user).held = true) :
    Covered ({ s.setAudio (channelOf user mode s.power.audio) with phase := .idle }.setSession
      { s.session user with entered := true } user) := by
  have hcnt : (channelOf user mode s.power.audio).powerRefcnt = s.power.refcnt := by
    cases user with
    | phone => exact congrArg Prod.fst (Audio.calls_phoneChannel mode s.power.audio)
    | ajx => exact congrArg Prod.fst (Audio.calls_ajxChannel true s.power.audio)
  have hother : ∀ user', user' ≠ user →
      (s.setAudio (channelOf user mode s.power.audio)).active user' = s.active user' := by
    intro user' hne
    rw [eq_otherUser hne]
    cases user with
    | phone =>
      have hajx : (s.power.audio.phoneChannel mode).state.ajxActive = s.power.audio.state.ajxActive :=
        congrArg (fun v => v.2.2) (Audio.calls_phoneChannel mode s.power.audio)
      exact congrArg (fun n : U8 => decide (n ≠ 0)) hajx
    | ajx =>
      have hmode : (s.power.audio.ajxChannel true).state.chMode = s.power.audio.state.chMode :=
        congrArg (fun v => v.2.1) (Audio.calls_ajxChannel true s.power.audio)
      exact congrArg (fun n : U8 => decide (n ≠ 0)) hmode
  refine ⟨?_, ?_, ?_⟩
  · have hcount := h.count
    rw [references_eq s user] at hcount
    rw [references_setSession, power_setSession]
    have hrefcnt : (s.setAudio (channelOf user mode s.power.audio)).power.refcnt = s.power.refcnt := hcnt
    show (if s.power.powerOn = 1 then 1 else 0) + (s.session user).held.toNat +
      ((PowerSystem.mk (s.setAudio (channelOf user mode s.power.audio)).power .idle s.phone s.ajx).session
        (otherUser user)).held.toNat ≤
      (s.setAudio (channelOf user mode s.power.audio)).power.refcnt.toNat
    rw [session_go s _ _ (otherUser user), hrefcnt]
    exact hcount
  · refine active_of_setSession (fun _ _ => hheld) fun user' hsame hactive hentered => ?_
    have hsession : (PowerSystem.mk (s.setAudio (channelOf user mode s.power.audio)).power .idle s.phone
        s.ajx).session user' = s.session user' := session_go s _ _ _
    have hactive' : s.active user' := (hother user' hsame).symm.trans hactive
    have hentered' : (s.session user').entered := hsession ▸ hentered
    have hheld' := h.active user' hactive' hentered'
    rw [← hsession] at hheld'
    exact hheld'
  · intro user' hleft
    rw [phase_setSession] at hleft
    cases hleft

/-- After item 42 the count is that of the main power. -/
theorem Covered.item42 (h : Covered s) (cmd2 : U32) (hnone : ∀ user, (s.session user).held = false) :
    Covered { s with power := s.power.workOn cmd2 } := by
  have hcalls := Power.calls_workOn cmd2 s.power
  have hcnt : (s.power.workOn cmd2).refcnt = 1 := congrArg (fun v => v.2.1) hcalls
  have hmode : (s.power.workOn cmd2).audio.state.chMode = s.power.audio.state.chMode :=
    congrArg (fun v => v.2.2.1) hcalls
  have hajx : (s.power.workOn cmd2).audio.state.ajxActive = s.power.audio.state.ajxActive :=
    congrArg (fun v => v.2.2.2) hcalls
  refine ⟨?_, ?_, h.left⟩
  · have hphone : s.phone.held = false := hnone .phone
    have hajx : s.ajx.held = false := hnone .ajx
    unfold references session
    dsimp only
    rw [hphone, hajx, hcnt]
    split <;> decide
  · intro user hactive hentered
    exact h.active user (active_mono (fun hne => hmode ▸ hne) (fun hne => hajx ▸ hne) user hactive)
      hentered

/-- After a power-off nothing is counted. -/
theorem covered_powerOff (s : PowerSystem) {p : Power} (hon : p.powerOn = 0) :
    Covered (s.powerOff p) where
  count := by
    have hne : ¬ (s.powerOff p).power.powerOn = 1 := by
      show ¬ p.powerOn = 1
      rw [hon]
      decide
    unfold references
    rw [if_neg hne]
    exact Nat.zero_le _
  active := by
    intro user _ hentered
    cases user with
    | phone => cases hentered
    | ajx => cases hentered
  left := by
    intro user _
    cases user with
    | phone => rfl
    | ajx => rfl

/-- A lossless step keeps the invariant. -/
theorem Covered.next (h : Covered s) {step : PowerStep} (hstep : Lossless step s)
    (hs' : PowerSystem.next step s = some s') : Covered s' ∧ ReleasedLast step s s' := by
  have hreleased : step ≠ .item30 → ReleasedLast step s s' := fun hne heq => absurd heq hne
  have hidle : ∀ t : PowerSystem, (if s.phase = .idle then some t else none) = some s' →
      Covered t → Covered s' := by
    intro t ht hcovered
    by_cases hphase : s.phase = .idle
    · rw [if_pos hphase] at ht
      exact Option.some.inj ht ▸ hcovered
    · rw [if_neg hphase] at ht
      cases ht
  cases step with
  | phone cmd2 => exact ⟨hidle _ hs' (h.startPhone cmd2), hreleased (by simp)⟩
  | ajxOn => exact ⟨hidle _ hs' h.startAjxOn, hreleased (by simp)⟩
  | ajxOff => exact ⟨hidle _ hs' h.startAjxOff, hreleased (by simp)⟩
  | audioActive =>
    have hcalls : s.power.audio.releaseMutePin.activate.calls = s.power.audio.calls := by
      rw [Audio.calls_activate, Audio.calls_releaseMutePin]
    exact ⟨hidle _ hs' (h.setAudio hcalls id id), hreleased (by simp)⟩
  | audioDeactive => exact ⟨hidle _ hs' h.audioDeactive, hreleased (by simp)⟩
  | item29 =>
    obtain ⟨user, mode, -, rfl⟩ := next_item29 hs'
    exact ⟨h.item29 hstep user mode, hreleased (by simp)⟩
  | item30 => exact h.item30 hstep hs'
  | enter =>
    obtain ⟨user, mode, hphase, rfl⟩ := next_enter hs'
    exact ⟨h.enter (hstep user mode hphase), hreleased (by simp)⟩
  | item42 cmd2 =>
    exact ⟨Option.some.inj hs' ▸ h.item42 cmd2 hstep, hreleased (by simp)⟩
  | item43 =>
    have hoff : s.power.workOff.powerOn = 0 := congrArg Prod.fst (Power.calls_workOff s.power)
    exact ⟨Option.some.inj hs' ▸ covered_powerOff s hoff, hreleased (by simp)⟩
  | item45 =>
    have hoff : s.power.workOffAcc.powerOn = 0 := congrArg Prod.fst (Power.calls_workOffAcc s.power)
    exact ⟨Option.some.inj hs' ▸ covered_powerOff s hoff, hreleased (by simp)⟩
  | other callActive camState camSignal =>
    refine ⟨Option.some.inj hs' ▸ ⟨h.count, ?_, h.left⟩, hreleased (by simp)⟩
    intro user hactive hentered
    exact h.active user (active_mono id id user hactive) hentered

theorem Covered.kept (h : Covered s) (steps : List PowerStep) (hsteps : AllLossless steps s) :
    Kept steps s := by
  induction steps generalizing s with
  | nil => exact h.counted
  | cons step steps ih =>
    refine ⟨h.counted, fun s' hs' => ?_⟩
    have ⟨hnext, hreleased⟩ := h.next hsteps.1 hs'
    exact ⟨hreleased, ih hnext (hsteps.2 s' hs')⟩

/-- In every run in which no item loses a reference, the count is positive while the main power is on or
    a session is active, and item 30 switches off only after the last reference. -/
theorem power_refcount_kept (steps : List PowerStep) (s : PowerSystem) (hs : Start s)
    (hsteps : AllLossless steps s) : Kept steps s :=
  hs.covered.kept steps hsteps

section AudioWork

variable (enterChannel : U8 → Bool → Audio → Audio) (w : AudioWork)

/-- The steps of the worker are `audio_work` on item 0xD, cut at its item 29. -/
theorem audioWork_phone (hw : w.cmd1 = 0xD) :
    s.power.audio.audioWork enterChannel w = (s.startPhone w.cmd2).power.audio ∨
      ∃ mode, (s.startPhone w.cmd2).phase = .wanting .phone mode ∧
        s.power.audio.audioWork enterChannel w =
          channelOf .phone mode (s.startPhone w.cmd2).power.audio := by
  have hwork : s.power.audio.audioWork enterChannel w = s.power.audio.releaseMutePin.workPhone w := by
    unfold Audio.audioWork Audio.workSwitch
    rw [hw]
    rfl
  rw [hwork]
  unfold Audio.workPhone PowerSystem.startPhone
  dsimp only
  by_cases hsame : w.cmd2 = s.power.audio.releaseMutePin.state.chMode.setWidth 32
  · rw [if_pos hsame, if_pos hsame]
    exact .inl rfl
  rw [if_neg hsame, if_neg hsame]
  by_cases hon : s.power.audio.releaseMutePin.state.chMode ≠ 0
  · rw [if_pos hon, if_pos hon]
    by_cases hchange : w.cmd2 ≠ 0
    · rw [if_pos hchange, if_pos hchange]
      exact .inl rfl
    · rw [if_neg hchange, if_neg hchange]
      exact .inl rfl
  · rw [if_neg hon, if_neg hon]
    exact .inr ⟨_, rfl, rfl⟩

theorem audioWork_ajxOn (hw : w.cmd1 = 0x16) :
    s.power.audio.audioWork enterChannel w = s.startAjxOn.power.audio ∨
      ∃ mode, s.startAjxOn.phase = .wanting .ajx mode ∧
        s.power.audio.audioWork enterChannel w = channelOf .ajx mode s.startAjxOn.power.audio := by
  have hwork : s.power.audio.audioWork enterChannel w =
      if s.power.audio.releaseMutePin.state.ajxActive = 0 then
        (s.power.audio.releaseMutePin.emit (.carAddWork 29)).ajxChannel true
      else s.power.audio.releaseMutePin := by
    unfold Audio.audioWork Audio.workSwitch
    rw [hw]
    rfl
  rw [hwork]
  unfold PowerSystem.startAjxOn
  dsimp only
  by_cases hoff : s.power.audio.releaseMutePin.state.ajxActive = 0
  · rw [if_pos hoff, if_pos hoff]
    exact .inr ⟨_, rfl, rfl⟩
  · rw [if_neg hoff, if_neg hoff]
    exact .inl rfl

theorem audioWork_ajxOff (hw : w.cmd1 = 0x17) :
    s.power.audio.audioWork enterChannel w = s.startAjxOff.power.audio := by
  have hwork : s.power.audio.audioWork enterChannel w =
      if s.power.audio.releaseMutePin.state.ajxActive ≠ 0 then
        (s.power.audio.releaseMutePin.ajxChannel false).emit (.carAddWork 30)
      else s.power.audio.releaseMutePin := by
    unfold Audio.audioWork Audio.workSwitch
    rw [hw]
    rfl
  rw [hwork]
  unfold PowerSystem.startAjxOff
  dsimp only
  by_cases hon : s.power.audio.releaseMutePin.state.ajxActive ≠ 0
  · rw [if_pos hon, if_pos hon]
    rfl
  · rw [if_neg hon, if_neg hon]
    rfl

end AudioWork

/-- The main power is on, and nobody else uses it. -/
def mainPower : PowerSystem where
  power :=
    { audio := { state := default, log := [], audioReady := 1, powerRefcnt := 1, defaultAjxCh := 0, cfgMaxvolume := 0 }
      powerOn := 1
      callActive := 1
      camSignal := 0
      rptPower := 0
      log := [] }
  phase := .idle
  phone := ⟨false, false⟩
  ajx := ⟨false, false⟩

theorem start_mainPower : Start mainPower := ⟨.inr rfl, rfl, rfl, rfl, rfl⟩

theorem AllLossless.cons {step : PowerStep} {steps : List PowerStep} (hstep : Lossless step s)
    (hnext : next step s = some s') (h : AllLossless steps s') : AllLossless (step :: steps) s := by
  refine ⟨hstep, fun t ht => ?_⟩
  rw [hnext] at ht
  cases ht
  exact h

theorem Kept.tail {step : PowerStep} {steps : List PowerStep} (h : Kept (step :: steps) s)
    (hnext : next step s = some s') : Kept steps s' := (h.2 s' hnext).2

/-- A call that ends before the power goes off. -/
theorem power_refcount_kept_call :
    Kept [.phone 1, .item29, .enter, .phone 0, .item30, .item43] mainPower := by
  apply power_refcount_kept _ _ start_mainPower
  refine AllLossless.cons ?_ rfl ?_
  · exact trivial
  refine AllLossless.cons ?_ rfl ?_
  · exact (by decide : (1 : U8) ≠ 255)
  refine AllLossless.cons ?_ rfl ?_
  · rintro user mode hphase
    cases hphase
    rfl
  refine AllLossless.cons ?_ rfl ?_
  · exact trivial
  refine AllLossless.cons ?_ rfl ?_
  · rintro user hphase
    cases hphase
    exact .inl rfl
  refine AllLossless.cons ?_ rfl ?_
  · exact trivial
  exact trivial

/-- A power-on message during a call: when the call ends, the main power is on without a reference. -/
theorem not_kept_power_on_during_call :
    ¬ Kept [.phone 1, .item29, .enter, .item42 1, .phone 0, .item30] mainPower := by
  intro h
  have hcall := ((h.tail rfl).tail rfl).tail rfl
  have hend := ((hcall.tail rfl).tail rfl).tail rfl
  have hcounted : Counted _ := hend
  have hrefcnt := hcounted.powerOn rfl
  exact hrefcnt rfl

end PowerSystem

end MtcDrivers
