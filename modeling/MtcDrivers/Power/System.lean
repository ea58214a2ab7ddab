import MtcDrivers.Power.Work

/-!
# The power reference count and its users

The car worker and the audio worker. The audio worker runs one item at a time; for the phone (item 0xD)
and the AJX channel (items 0x16 and 0x17) it adds item 29 before it enters or item 30 after it has left,
and waits for that item. Power messages come at any time, and the items of the car worker are atomic.
-/

namespace MtcDrivers

/-- The two users of the power besides the main power. -/
inductive User where
  | phone
  | ajx
deriving DecidableEq, Repr

/-- Where the audio worker is. -/
inductive Phase where
  | idle
  /-- It has added item 29 and waits; `mode` is the mode of the phone. -/
  | wanting (user : User) (mode : U8)
  /-- Item 29 has run, and the worker has not entered yet. -/
  | granted (user : User) (mode : U8)
  /-- It has left and added item 30. -/
  | left (user : User)
deriving DecidableEq, Repr

/-- What is known of a user since the last power-off: an item 29 of its own has run and no item 30 yet,
    and it has entered the session that it is in. -/
structure UserSession where
  held : Bool
  entered : Bool
deriving DecidableEq, Repr

structure PowerSystem where
  power : Power
  phase : Phase
  phone : UserSession
  ajx : UserSession

/-- The steps. -/
inductive PowerStep where
  /-- The audio worker takes a phone item. -/
  | phone (cmd2 : U32)
  | ajxOn
  | ajxOff
  /-- Items 20 and 21 of the audio worker. -/
  | audioActive
  | audioDeactive
  /-- `car_work` runs the item 29 or 30 that the audio worker waits for. -/
  | item29
  | item30
  /-- The audio worker goes on after item 29. -/
  | enter
  /-- `car_work` runs the item of a power message. -/
  | item42 (cmd2 : U32)
  | item43
  | item45
  /-- Fields that other code changes. -/
  | other (callActive camState camSignal : U8)
deriving DecidableEq, Repr

namespace PowerSystem

def session (s : PowerSystem) : User → UserSession
  | .phone => s.phone
  | .ajx => s.ajx

def setSession (s : PowerSystem) (session : UserSession) : User → PowerSystem
  | .phone => { s with phone := session }
  | .ajx => { s with ajx := session }

/-- The user is in a session: `ch_mode` or `ajx_active` is set. -/
def active (s : PowerSystem) : User → Bool
  | .phone => s.power.audio.state.chMode ≠ 0
  | .ajx => s.power.audio.state.ajxActive ≠ 0

def setAudio (s : PowerSystem) (a : Audio) : PowerSystem :=
  { s with power := { s.power with audio := a } }

/-- A call of `audio_deactive` ends the session of the phone, if there is one. -/
def dropPhone (s : PowerSystem) : PowerSystem :=
  if s.power.audio.state.audioActive ≠ 0 then { s with phone := ⟨false, false⟩ } else s

/-- `case 0xD` of `audio_work` up to its item 29, or as a whole. -/
def startPhone (cmd2 : U32) (s : PowerSystem) : PowerSystem :=
  let a := s.power.audio.releaseMutePin
  if cmd2 = a.state.chMode.setWidth 32 then s.setAudio a
  else if a.state.chMode ≠ 0 then
    if cmd2 ≠ 0 then
      s.setAudio (((a.map fun t => { t with chMode := cmd2.setWidth 8 }).emit (.setVolume 0)).emit
        (.btMicControl (cmd2.setWidth 8)))
    else { s.setAudio ((a.phoneChannel 0).emit (.carAddWork 30)) with
      phase := .left .phone, phone := { s.phone with entered := false } }
  else { s.setAudio (a.emit (.carAddWork 29)) with phase := .wanting .phone (cmd2.setWidth 8) }

/-- `case 0x16` of `audio_work` up to its item 29. -/
def startAjxOn (s : PowerSystem) : PowerSystem :=
  let a := s.power.audio.releaseMutePin
  if a.state.ajxActive = 0 then { s.setAudio (a.emit (.carAddWork 29)) with phase := .wanting .ajx 1 }
  else s.setAudio a

/-- `case 0x17` of `audio_work` -/
def startAjxOff (s : PowerSystem) : PowerSystem :=
  let a := s.power.audio.releaseMutePin
  if a.state.ajxActive ≠ 0 then
    { s.setAudio ((a.ajxChannel false).emit (.carAddWork 30)) with
      phase := .left .ajx, ajx := { s.ajx with entered := false } }
  else s.setAudio a

/-- The rest of `case 0xD` and `case 0x16` after item 29. -/
def channelOf (user : User) (mode : U8) (a : Audio) : Audio :=
  match user with
  | .phone => a.phoneChannel mode
  | .ajx => a.ajxChannel true

/-- After a power-off nobody holds a reference. -/
def powerOff (s : PowerSystem) (p : Power) : PowerSystem :=
  { s with power := p, phone := ⟨false, false⟩, ajx := ⟨false, false⟩ }

/-- One step; `none` where it is not possible. -/
def next : PowerStep → PowerSystem → Option PowerSystem
  | .phone cmd2, s => if s.phase = .idle then some (s.startPhone cmd2) else none
  | .ajxOn, s => if s.phase = .idle then some s.startAjxOn else none
  | .ajxOff, s => if s.phase = .idle then some s.startAjxOff else none
  | .audioActive, s =>
    if s.phase = .idle then some (s.setAudio s.power.audio.releaseMutePin.activate) else none
  | .audioDeactive, s =>
    if s.phase = .idle then some (s.dropPhone.setAudio s.power.audio.releaseMutePin.deactivate)
    else none
  | .item29, s =>
    match s.phase with
    | .wanting user mode =>
      some ({ s with power := s.power.workAcquire, phase := .granted user mode }.setSession
        { s.session user with held := true } user)
    | _ => none
  | .item30, s =>
    match s.phase with
    | .left user =>
      let s' := if s.power.refcnt = 1 then s.dropPhone else s
      some ({ s' with power := s.power.workRelease, phase := .idle }.setSession
        { s'.session user with held := false } user)
    | _ => none
  | .enter, s =>
    match s.phase with
    | .granted user mode =>
      some ({ s.setAudio (channelOf user mode s.power.audio) with phase := .idle }.setSession
        { s.session user with entered := true } user)
    | _ => none
  | .item42 cmd2, s => some { s with power := s.power.workOn cmd2 }
  | .item43, s => some (s.powerOff s.power.workOff)
  | .item45, s => some (s.powerOff s.power.workOffAcc)
  | .other callActive camState camSignal, s =>
    some { s with power := { s.power with
      callActive := callActive, camSignal := camSignal,
      audio := s.power.audio.map fun t => { t with camState := camState } } }

/-- Nobody has a reference, and the count is that of the main power. -/
structure Start (s : PowerSystem) : Prop where
  powerOn : s.power.powerOn = 0 ∨ s.power.powerOn = 1
  refcnt : s.power.refcnt = s.power.powerOn
  phase : s.phase = .idle
  phone : s.phone = ⟨false, false⟩
  ajx : s.ajx = ⟨false, false⟩

/-- What is to hold in every state. -/
structure Counted (s : PowerSystem) : Prop where
  powerOn : s.power.powerOn = 1 → s.power.refcnt ≠ 0
  session : ∀ user, s.active user → (s.session user).entered → s.power.refcnt ≠ 0

/-- What is to hold of a step: if it is an item 30 that runs `audio_deactive` or `backlight_off`, then
    neither the main power nor the other user holds a reference. -/
def ReleasedLast (step : PowerStep) (s s' : PowerSystem) : Prop :=
  step = .item30 → s'.power.log ≠ s.power.log →
    s.power.powerOn ≠ 1 ∧ ∀ user, s.phase ≠ .left user → (s.session user).held = false

/-- The run through `steps` from `s` keeps both, as far as it is possible. -/
def Kept : List PowerStep → PowerSystem → Prop
  | [], s => Counted s
  | step :: steps, s => Counted s ∧ ∀ s', next step s = some s' → ReleasedLast step s s' ∧ Kept steps s'

/-- No item loses a reference: item 29 does not wrap around, item 42 comes when no user holds a
    reference, and a user enters and returns only a reference that it holds. -/
def Lossless (step : PowerStep) (s : PowerSystem) : Prop :=
  match step with
  | .item29 => s.power.refcnt ≠ 255
  | .item42 _ => ∀ user, (s.session user).held = false
  | .enter => ∀ user mode, s.phase = .granted user mode → (s.session user).held = true
  | .item30 => ∀ user, s.phase = .left user → (s.session user).held = true ∨ s.power.refcnt = 0
  | _ => True

/-- Every step of the run is lossless. -/
def AllLossless : List PowerStep → PowerSystem → Prop
  | [], _ => True
  | step :: steps, s => Lossless step s ∧ ∀ s', next step s = some s' → AllLossless steps s'

end PowerSystem

end MtcDrivers
