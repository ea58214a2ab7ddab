import Mathlib.Data.List.Chain
import MtcDrivers.Car.Memory
import MtcDrivers.Camera.Capture
import MtcDrivers.Audio.Work
import MtcDrivers.Link.Command

/-!
# Blocking the touch panel and the keys

`isTouchDisable`, which reads the car status by offsets, `isKeyDisable`, which reads it by fields, and the
code that changes the status meanwhile: the commands of `capture_work`, the phone items of `audio_work` and
the messages from the MCU. The state of these parts is the one of their own models; the bytes of the status
that they share are loaded before a step and stored after it.
-/

namespace MtcDrivers

namespace StatusBytes

/-! ## The two tests -/

/-- `isTouchDisable`; `cs[0xBA]` is behind the status, it is `reserved_176[14]` of `car_struct`. -/
def isTouchDisable (cs : StatusBytes) (cs0xBA : U8) : ℕ :=
  if ((cs.byte 38 ≠ 0 ∨ cs.byte 41 ≠ 0) ∧ cs.byte 42 ≠ 0) ∨ cs.byte 113 ≠ 0 then 0
  else if cs.byte 1 = 0 ∨ cs.byte 38 ≠ 0 ∨ cs.byte 41 ≠ 0 then 1
  else if cs.byte 3 = 0 then 1
  else if cs.byte 79 ≠ 0 ∧ cs0xBA ≠ 5 then if cs0xBA ≠ 55 then 1 else 0
  else (cs.byte 38).toNat

/-- `isKeyDisable` -/
def isKeyDisable (cs : StatusBytes) : ℕ :=
  if cs.byte rptBootAndroid = 0 ∧ cs.byte keyMode ≠ 3 ∨ cs.byte powerRefcnt = 0 ∨ cs.byte camState ≠ 0 ∨
      cs.byte camSignal ≠ 0 ∨ cs.byte callActive = 0 then 1
  else if cs.byte videoSrcReady ≠ 0 then 1
  else (cs.byte chStatus).toNat

/-! ## The parts that share the status -/

def loadCamera (m : StatusBytes) (s : Camera) : Camera :=
  { s with
    callActive := m.byte callActive, powerRefcnt := m.byte powerRefcnt, camState := m.byte camState,
    reserved8 := m.byte reserved8, reserved9 := m.byte reserved9, camSignal := m.byte camSignal,
    reserved10 := m.byte reserved10, reserved11 := m.byte reserved11, staView := m.byte staView,
    staVideoSignal := m.byte staVideoSignal, videoMode := m.byte videoMode,
    reserved13 := m.byte reserved13, decoderState := m.byte decoderState, radarVal := m.byte radarVal,
    reserved19 := m.byte reserved19, uValue := m.byte uValue, vValue := m.byte vValue,
    uvCal := m.byte uvCal, mtcCustomer := m.byte customer, mcuCmdState := m.byte mcuCmdState }

/-- What `capture_work` writes. -/
def storeCamera (m : StatusBytes) (s : Camera) : StatusBytes :=
  m.puts [(camState, s.camState), (reserved8, s.reserved8), (reserved9, s.reserved9),
    (camSignal, s.camSignal), (reserved10, s.reserved10), (reserved11, s.reserved11), (staView, s.staView),
    (staVideoSignal, s.staVideoSignal), (videoMode, s.videoMode), (reserved13, s.reserved13),
    (radarVal, s.radarVal), (reserved19, s.reserved19), (uValue, s.uValue), (vValue, s.vValue),
    (uvCal, s.uvCal)]

def loadAudio (m : StatusBytes) (a : Audio) : Audio :=
  { a with
    state := { a.state with
      chMode := m.byte chMode, ajxActive := m.byte ajxActive, chStatus := m.byte chStatus,
      avGpsMonitor := m.byte avGpsMonitor, camState := m.byte camState }
    audioReady := m.byte audioReady, powerRefcnt := m.byte powerRefcnt }

/-- What the audio code writes. -/
def storeAudio (m : StatusBytes) (a : Audio) : StatusBytes :=
  m.puts [(chMode, a.state.chMode), (ajxActive, a.state.ajxActive), (chStatus, a.state.chStatus)]

end StatusBytes

/-- The status with the parts of the driver that share it. -/
structure BlockSystem where
  status : StatusBytes
  /-- `reserved_176[14]` of `car_struct`, which nothing writes. -/
  cs0xBA : U8
  camera : Camera
  audio : Audio
  link : World

namespace BlockSystem

/-- A command of `capture_work`. -/
def capture (c : Camera.CaptureCommand) (s : BlockSystem) : BlockSystem :=
  let camera := (s.status.loadCamera s.camera).captureWork c.cmd1 c.cmd2 c.io
  { s with camera := camera, status := s.status.storeCamera camera }

/-- A phone item of `audio_work`, `case 0xD`. -/
def phone (w : AudioWork) (s : BlockSystem) : BlockSystem :=
  let audio := (s.status.loadAudio s.audio).releaseMutePin.workPhone w
  { s with audio := audio, status := s.status.storeAudio audio }

/-- The link as `process_mcu_command` finds it. -/
def linkWorld (s : BlockSystem) : World := s.link.modifyCar fun c => { c with status := s.status.loadStatus }

inductive Step (s : BlockSystem) : BlockSystem → Prop where
  | capture (c : Camera.CaptureCommand) : Step s (s.capture c)
  | phone (w : AudioWork) : Step s (s.phone w)
  | message (cmd : U32) (r : ℤ) (w : World) (hends : (processMcuCommand cmd).Ends s.linkWorld r w) :
      Step s { s with link := w, status := s.status.storeStatus w.car.status }

/-- The states of a run, in their order. -/
structure Run where
  states : List BlockSystem
  steps : states.IsChain Step

/-- The touch panel and the keys are blocked while the camera is on, and the modes of the phone and the keys
    and the version of the MCU do not change what is blocked. -/
structure FollowsCamera (s : BlockSystem) : Prop where
  blocked : s.status.byte StatusBytes.camState ≠ 0 ∨ s.status.byte StatusBytes.camSignal ≠ 0 →
    s.status.byte StatusBytes.reserved10 = 0 → s.status.byte StatusBytes.rptBootAppinit = 0 →
      s.status.isTouchDisable s.cs0xBA ≠ 0 ∧ s.status.isKeyDisable ≠ 0
  modes : ∀ m : StatusBytes, (∀ i, i ≠ StatusBytes.chMode → i ≠ StatusBytes.keyMode →
      ¬ (56 ≤ i ∧ i < 88) → m.byte i = s.status.byte i) →
    m.isTouchDisable s.cs0xBA = s.status.isTouchDisable s.cs0xBA

/-- The byte that `isTouchDisable` takes for `rpt_boot_appinit` is set, and the camera is off or one of the
    two flags is set. -/
def Unblocking (s : BlockSystem) : Prop :=
  s.status.byte (StatusBytes.reserved22 + 12) ≠ 0 ∧
    ¬ ((s.status.byte StatusBytes.camState ≠ 0 ∨ s.status.byte StatusBytes.camSignal ≠ 0) ∧
      s.status.byte StatusBytes.reserved10 = 0 ∧ s.status.byte StatusBytes.rptBootAppinit = 0)

end BlockSystem

end MtcDrivers
