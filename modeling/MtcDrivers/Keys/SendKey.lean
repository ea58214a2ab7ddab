import MtcDrivers.Run.Basic
import MtcDrivers.Car.Blocking

/-!
# Key codes

`send_ir_key`, to which the remote control, the panel and the steering wheel report their codes, and
`send_event_key`. `backlight_on` and `backlight_off` have no definition in the source; what they change of the
car status is found by the next call, which comes with a status of its own.
-/

namespace MtcDrivers

/-- What a key does. -/
inductive KeyEffect where
  /-- `input_event` on `p_input_dev` -/
  | input (type code value : U32)
  | armSendMulti (cmd : U32) (data : List U8)
  /-- `vs_send(2, cmd, data, ...)` -/
  | vsSend (cmd : U8) (data : List U8)
  /-- `audio_add_work(cmd1, 0, 0, 0)` -/
  | audioAddWork (cmd1 : U32)
  /-- `capture_add_work(cmd1, 0, 0, 0)` -/
  | captureAddWork (cmd1 : U32)
  /-- `video_src_ready = b` -/
  | videoSrcReady (b : U8)
  | backlightOn
  | backlightOff
deriving DecidableEq

/-- A call of `send_ir_key`, with the status and the configuration that it finds. -/
structure KeyCall where
  key : U32
  status : StatusBytes
  cfgFrontview : U8
  ctlBeep : U8

namespace StatusBytes

def inputReady : ℕ := 5
def touchType : ℕ := 7
def backviewVol : ℕ := 44

/-- `isAudioKeyEnable` -/
def isAudioKeyEnable (cs : StatusBytes) : ℕ :=
  if cs.byte powerRefcnt ≠ 0 then
    if cs.byte chMode ≠ 0 ∨ cs.byte videoSrcReady ≠ 0 then 1
    else if cs.byte chStatus ≠ 0 then 1
    else if cs.byte camState = 0 ∨ cs.byte backviewVol ≤ 0xA then
      if cs.byte callActive ≠ 0 then 1 else (cs.byte callActive).toNat
    else (cs.byte chStatus).toNat
  else (cs.byte powerRefcnt).toNat

end StatusBytes

namespace KeyCall

open StatusBytes

/-- `key_beep`, which sends the first byte of `dword_C0BCA228`. -/
def keyBeep (c : KeyCall) : List KeyEffect := if c.ctlBeep ≠ 0 then [.armSendMulti 0x9520 [5]] else []

/-- The four events of a key, with 0 as `v4` has it. -/
def events (code v4 : U32) : List KeyEffect :=
  [.input 1 code 1, .input v4 v4 v4, .input 1 code v4, .input v4 v4 v4]

/-- `vs_send(2, 0x8E, v12, 1)` and `vs_send(2, 0x8F, v12, 1)` -/
def messages (v12 : U8) : List KeyEffect := [.vsSend 0x8E [v12], .vsSend 0x8F [v12]]

/-- `send_event_key` -/
def sendEventKey (c : KeyCall) : List KeyEffect := events c.key 0 ++ c.keyBeep

/-- `case '@'` -/
def videoOn (c : KeyCall) : List KeyEffect :=
  [.videoSrcReady 1] ++ c.keyBeep ++ (if c.status.byte rptBootAndroid ≠ 0 then [.audioAddWork 22] else []) ++
    (if c.status.byte callActive ≠ 0 then [.vsSend 159 []] else [])

/-- `case 'A'` -/
def videoOff (c : KeyCall) : List KeyEffect :=
  [.videoSrcReady 0] ++ c.keyBeep ++
    (if c.status.byte rptBootAndroid ≠ 0 then
      (if c.status.byte ajxActive ≠ 0 ∧ c.status.byte powerRefcnt = 1 then [.backlightOff] else []) ++
        [.audioAddWork 23]
    else []) ++
    (if c.status.byte callActive ≠ 0 then [.vsSend 160 []] else [])

/-- `v1`: the key `'O'` is one of two others. -/
def v1 (c : KeyCall) : U32 :=
  if c.key = 0x4F then if c.status.byte chMode - 2 ≤ 1 then 69 else 68 else c.key

/-- The keys that switch the picture of the camera. -/
def isCameraKey (c : KeyCall) : Bool :=
  if c.status.byte customer = 18 then c.v1 = 85 ∧ c.status.byte camState ≠ 0
  else if c.v1 = 54 ∨ c.v1 = 85 then
    (c.status.byte camState ≠ 0 ∧ c.cfgFrontview ≠ 0) ∨ (c.v1 = 85 ∧ c.status.byte camState ≠ 0)
  else false

/-- `backlight_flow`; `sw` is byte `0x78` of `keys_data`. -/
def backlightFlow (sw : U8) (c : KeyCall) : List KeyEffect × U8 :=
  if c.status.byte backlightStatus = 0 then ([.backlightOn], 1)
  else
    let v4 := sw.setWidth 32
    if sw ≠ 0 then ([], 0)
    else if c.v1 = 54 then (events 158 v4 ++ c.keyBeep, sw)
    else if c.status.byte keyMode = 1 then ([], sw)
    else if c.v1 = 56 then (messages 56 ++ c.keyBeep, sw)
    else if c.v1 ≠ 55 then
      (messages (c.v1.setWidth 8) ++
        (if ¬ (c.v1 = 26 ∨ c.v1 = 18) ∨ c.status.byte customer = 7 ∨ c.status.byte customer = 13 ∨
            c.status.byte customer = 15 then c.keyBeep else []), sw)
    else (events 139 v4 ++ c.keyBeep, sw)

/-- `send_ir_key` -/
def sendIrKey (sw : U8) (c : KeyCall) : List KeyEffect × U8 :=
  if c.status.byte chMode ≠ 0 ∧ (c.key = 54 ∨ c.key = 56) then ([], sw)
  else if c.key = 0x40 then (c.videoOn, sw)
  else if c.key = 0x41 then (c.videoOff, sw)
  else if c.status.byte inputReady = 0 then ([], sw)
  else if c.v1 = 66 ∧ c.status.byte touchType ≠ 129 then ([], sw)
  else if c.isCameraKey then (c.keyBeep ++ [.captureAddWork 66], sw)
  else if c.status.isKeyDisable = 0 ∨ (c.v1 = 26 ∨ c.v1 = 18) ∧ c.status.isAudioKeyEnable ≠ 0 then
    c.backlightFlow sw
  else ([], sw)

/-- `keys_data` after a call. -/
def keep (sw : U8) (c : KeyCall) : U8 := (c.sendIrKey sw).2

/-! ## What the keys are for -/

/-- Nothing keeps the key from the application but a dark screen or the mode of the keys. -/
structure Admitted (c : KeyCall) : Prop where
  free : c.status.byte chMode = 0 ∨ c.key ≠ 54 ∧ c.key ≠ 56
  video : c.key ≠ 0x40 ∧ c.key ≠ 0x41
  ready : c.status.byte inputReady ≠ 0
  touch : c.v1 = 66 → c.status.byte touchType = 129
  camera : c.isCameraKey = false
  enabled : c.status.isKeyDisable = 0 ∨ (c.v1 = 26 ∨ c.v1 = 18) ∧ c.status.isAudioKeyEnable ≠ 0

instance (c : KeyCall) : Decidable c.Admitted :=
  decidable_of_iff
    ((c.status.byte chMode = 0 ∨ c.key ≠ 54 ∧ c.key ≠ 56) ∧ (c.key ≠ 0x40 ∧ c.key ≠ 0x41) ∧
      c.status.byte inputReady ≠ 0 ∧ (c.v1 = 66 → c.status.byte touchType = 129) ∧ c.isCameraKey = false ∧
      (c.status.isKeyDisable = 0 ∨ (c.v1 = 26 ∨ c.v1 = 18) ∧ c.status.isAudioKeyEnable ≠ 0))
    ⟨fun ⟨h1, h2, h3, h4, h5, h6⟩ => ⟨h1, h2, h3, h4, h5, h6⟩,
      fun ⟨h1, h2, h3, h4, h5, h6⟩ => ⟨h1, h2, h3, h4, h5, h6⟩⟩

/-- The screen is dark. -/
def Dark (c : KeyCall) : Prop := c.status.byte backlightStatus = 0

instance (c : KeyCall) : Decidable c.Dark := inferInstanceAs (Decidable (_ = _))

/-- The last of the calls that was admitted found the screen dark. -/
def WokeLast (calls : List KeyCall) : Prop := ∃ c, (calls.filter (Admitted ·)).getLast? = some c ∧ c.Dark

/-- The key is reported: as a key of the input device, or as a message. -/
def reported : KeyEffect → Bool
  | .input _ _ _ => true
  | .vsSend cmd _ => cmd = 0x8E
  | _ => false

/-- Every key that is pressed is let go at once, and every message of a key is followed by that of its end. -/
inductive Complete : List KeyEffect → Prop
  | nil : Complete []
  | events (code : U32) {es : List KeyEffect} (h : Complete es) : Complete (events code 0 ++ es)
  | messages (v12 : U8) {es : List KeyEffect} (h : Complete es) : Complete (messages v12 ++ es)
  | other {e : KeyEffect} (hinput : ∀ type code value, e ≠ .input type code value)
      (hkey : ∀ data, e ≠ .vsSend 0x8E data ∧ e ≠ .vsSend 0x8F data) {es : List KeyEffect} (h : Complete es) :
      Complete (e :: es)

/-- What a call does behind some others. -/
structure KeyRight (pre : List KeyCall) (c : KeyCall) (es : List KeyEffect) : Prop where
  reports : (∃ e ∈ es, reported e = true) ↔
    c.Admitted ∧ ¬ c.Dark ∧ ¬ WokeLast pre ∧ (c.v1 = 54 ∨ c.status.byte keyMode ≠ 1)
  wakes : .backlightOn ∈ es ↔ c.Admitted ∧ c.Dark
  /-- A key that wakes the screen does nothing else. -/
  alone : .backlightOn ∈ es → es = [.backlightOn]

/-- The effects of some calls, one after the other. -/
def effects : U8 → List KeyCall → List KeyEffect
  | _, [] => []
  | sw, c :: calls => (c.sendIrKey sw).1 ++ effects (c.sendIrKey sw).2 calls

/-- The keys of a run: each is reported where nothing is against it, and none is left pressed. -/
structure KeysRight (calls : List KeyCall) : Prop where
  complete : Complete (effects 0 calls)
  right : ∀ pre c post, calls = pre ++ c :: post → KeyRight pre c (c.sendIrKey (Run.after keep 0 pre)).1

end KeyCall

end MtcDrivers
