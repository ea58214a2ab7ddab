import MtcDrivers.Audio.Work

/-!
# Power work

The cases 29, 30, 42, 43 and 45 of `car_work`, and `power_soft_off`. The waiting for the reports of the
power state takes time only and is not part of the model.
-/

namespace MtcDrivers

/-- What these cases do besides storing. -/
inductive PowerEvent where
  | audioActive
  | audioDeactive
  | backlightOn
  | backlightOff
  | vsSend (cmd : U8)
  | armSend (cmd : U32)
  | audioAddWork (cmd1 : U32)
  | captureAddWork (cmd1 cmd2 : U32) (flush : Bool)
deriving DecidableEq, Repr

/-- The audio module, with `power_refcnt`, and further fields of `car_status`. -/
structure Power where
  audio : Audio
  powerOn : U8
  callActive : U8
  camSignal : U8
  rptPower : U8
  log : List PowerEvent
deriving Inhabited

namespace Power

def emit (p : Power) (e : PowerEvent) : Power := { p with log := e :: p.log }

/-- `car_status.power_refcnt` -/
def refcnt (p : Power) : U8 := p.audio.powerRefcnt

def setRefcnt (p : Power) (n : U8) : Power := { p with audio := { p.audio with powerRefcnt := n } }

/-- A call of `audio_active`. -/
def audioActive (p : Power) : Power :=
  { p.emit .audioActive with audio := p.audio.activate }

/-- A call of `audio_deactive`. -/
def audioDeactive (p : Power) : Power :=
  { p.emit .audioDeactive with audio := p.audio.deactivate }

/-- `case 29` -/
def workAcquire (p : Power) : Power :=
  let p := p.setRefcnt (p.refcnt + 1)
  if p.refcnt ≠ 0 then p.audioActive.emit .backlightOn else p.emit .backlightOn

/-- `case 30` -/
def workRelease (p : Power) : Power :=
  if p.refcnt = 0 then p
  else
    let p := p.setRefcnt (p.refcnt - 1)
    if p.refcnt ≠ 0 then p
    else
      let p := p.audioDeactive
      if p.audio.state.camState ≠ 0 then p else p.emit .backlightOff

/-- `case 42` -/
def workOn (cmd2 : U32) (p : Power) : Power :=
  let p :=
    if p.callActive ≠ 0 then
      let p := (p.emit (.vsSend 0xF1)).setRefcnt 1
      let p := ({ p with powerOn := 1 }.emit (.audioAddWork 20)).emit (.captureAddWork 46 1 false)
      if cmd2 ≠ 0 then p.emit .backlightOn else p
    else
      let p := { p.setRefcnt 1 with powerOn := 1 }
      (p.emit (.captureAddWork 47 0 false)).emit .backlightOn
  if cmd2 = 0 then p.emit (.captureAddWork 56 1000 false) else p

/-- `power_soft_off` -/
def powerSoftOff (p : Power) : Power :=
  let p : Power := { p with audio := p.audio.map fun s => { s with chStatus := 0 } }
  let p : Power := { p.setRefcnt 0 with powerOn := 0 }
  let p :=
    if p.callActive ≠ 0 then (p.emit (.captureAddWork 46 255 false)).emit (.audioAddWork 21)
    else p.emit (.captureAddWork 47 0 false)
  p.emit .backlightOff

/-- `case 43` -/
def workOff (p : Power) : Power :=
  let p := p.setRefcnt 0
  let p := if p.camSignal ≠ 0 then p.emit (.captureAddWork 0x37 0 true) else p
  let p := if p.callActive ≠ 0 then { p with rptPower := 1 }.emit (.vsSend 0xF0) else p
  p.powerSoftOff.emit (.armSend 0x20B)

/-- `case 45` -/
def workOffAcc (p : Power) : Power :=
  let p := p.emit (.vsSend 0x8A)
  let p :=
    if p.audio.state.camState ≠ 0 then p.emit (.captureAddWork 0x3B 0 true)
    else if p.camSignal ≠ 0 then p.emit (.captureAddWork 0x37 0 true)
    else p
  let p := if p.refcnt ≠ 0 then { p.setRefcnt 0 with rptPower := 1 }.emit (.vsSend 0xF0) else p
  p.powerSoftOff

end Power

end MtcDrivers
