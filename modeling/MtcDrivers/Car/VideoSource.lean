import MtcDrivers.Keys.Press
import MtcDrivers.Keys.SendKey

/-!
# The video source

A panel key switches to the video source and back: `video_src_ready`. The application and the audio module are
told by messages and audio items, as far as they have come up by then; what they have missed they are told in the
cases 37 and 38 of `car_work`, when the boot is reported to be complete. The keys come through the cases 67, 69
and 70 and from elsewhere through `send_ir_key`.
-/

namespace MtcDrivers

/-- What the cases 37, 38, 67 and 70 do. -/
inductive CarEffect
  | press (e : PressEffect)
  | armSend (cmd : U32)
  | armSendMulti (cmd : U32)
  /-- `capture_add_work(cmd1, cmd2, 0, 0)` -/
  | captureAddWork (cmd1 cmd2 : U32)
deriving DecidableEq

/-- `case 37`; it sets `call_active` as well. -/
def carWork37 (status : StatusBytes) : List CarEffect :=
  [.armSend 0x202] ++
    (if status.byte StatusBytes.powerRefcnt ≠ 0 then [.press (.vsSend 0xF2), .press (.audioAddWork 0x14)] else []) ++
    (if status.byte StatusBytes.wipeFlag &&& 0x10 ≠ 0 then [.press (.vsSend 0x88)] else []) ++
    (if status.byte StatusBytes.videoSrcReady ≠ 0 then [.press (.vsSend 0x9F)] else []) ++
    [.captureAddWork 0x3A 2000]

/-- `case 38` -/
def carWork38 (status : StatusBytes) : List CarEffect :=
  if status.byte StatusBytes.videoSrcReady ≠ 0 then [.press (.audioAddWork 0x16)] else []

/-- `case 67` -/
def carWork67 (cmd2 : U32) (status : StatusBytes) : List CarEffect :=
  [.press (.vsSend 0xA4)] ++
    if cmd2.toInt ≤ 31 then []
    else if cmd2 - 32 = 0 then [.armSendMulti 0x9527]
    else if cmd2 - 32 = 0x28 then [.armSendMulti 0x9528]
    else if cmd2 - 32 ≠ 0x63 then
      if cmd2 - 32 ≠ 0x5E then [.press (.sendIrKey (cmd2 - 32))] else [.press .carAvm]
    else (PressItem.label97 status).map .press

/-- `case 70` -/
def carWork70 (cmd2 : U32) : List CarEffect :=
  if cmd2.toInt ≤ 0x1F then
    if cmd2 = 1 then [.press (.sendIrKey 0x12)]
    else if cmd2 = 2 then [.press (.sendIrKey 0x1A)]
    else []
  else if cmd2 - 32 = 0x32 ∨ cmd2 - 32 = 0x1A then [.press (.sendIrKey (cmd2 - 32))]
  else []

/-- What a call of `send_ir_key` finds besides the state of the source. -/
structure KeyFound where
  status : StatusBytes
  cfgFrontview : U8
  ctlBeep : U8

/-- A message about the source, to the application or to the audio module. -/
inductive SourceEvent
  | app (on : Bool)
  | audio (on : Bool)
deriving DecidableEq

/-- `0x9F` and `0xA0` on the port of the application. -/
def sourceOfMessage (cmd : U8) : List SourceEvent :=
  if cmd = 0x9F then [.app true] else if cmd = 0xA0 then [.app false] else []

/-- The audio items 22 and 23. -/
def sourceOfItem (cmd1 : ℕ) : List SourceEvent :=
  if cmd1 = 22 then [.audio true] else if cmd1 = 23 then [.audio false] else []

/-- The source and what was said about it, oldest first, with the number of queued items 38, `car_struct.tv` and
    byte `0x78` of `keys_data`. -/
structure VideoSource where
  videoSrcReady : U8
  callActive : U8
  rptBootAndroid : U8
  announcing : ℕ
  kept : Timeval
  sw : U8
  log : List SourceEvent

namespace VideoSource

variable (s : VideoSource)

/-- Nothing has been reported yet, and no key pressed. -/
def boot : VideoSource := ⟨0, 0, 0, 0, .zero, 0, []⟩

/-- The status with the three bytes of the source. -/
def load (status : StatusBytes) : StatusBytes :=
  ((status.put StatusBytes.videoSrcReady s.videoSrcReady).put StatusBytes.callActive s.callActive).put
    StatusBytes.rptBootAndroid s.rptBootAndroid

def say (es : List SourceEvent) : VideoSource := { s with log := s.log ++ es }

/-- What an effect of a key does to the source. -/
def keyEffect (s : VideoSource) : KeyEffect → VideoSource
  | .videoSrcReady b => { s with videoSrcReady := b }
  | .vsSend cmd _ => s.say (sourceOfMessage cmd)
  | .audioAddWork cmd1 => s.say (sourceOfItem cmd1.toNat)
  | _ => s

/-- A call of `send_ir_key`. -/
def irKey (key : U32) (found : KeyFound) : VideoSource :=
  let call : KeyCall := ⟨key, s.load found.status, found.cfgFrontview, found.ctlBeep⟩
  let r := call.sendIrKey s.sw
  { r.1.foldl keyEffect s with sw := r.2 }

/-- What an effect of an item does to the source. -/
def pressEffect (found : KeyFound) : PressEffect → VideoSource
  | .sendIrKey key => s.irKey key found
  | .videoSrcReady b => { s with videoSrcReady := b }
  | .vsSend cmd => s.say (sourceOfMessage cmd)
  | .audioAddWork cmd1 => s.say (sourceOfItem cmd1)
  | _ => s

def carEffect (found : KeyFound) : CarEffect → VideoSource
  | .press e => s.pressEffect found e
  | _ => s

end VideoSource

/-- What happens to the source. The `i`-th effect of an item finds `found i`. -/
inductive VideoOp
  /-- The item 37, which both reports of a complete boot queue -/
  | bootComplete (status : StatusBytes)
  /-- The item 38, where one is queued -/
  | announce (status : StatusBytes)
  | panel (cmd2 : U32) (status : StatusBytes) (found : ℕ → KeyFound)
  | press (item : PressItem) (found : ℕ → KeyFound)
  | hold (cmd2 : U32) (found : ℕ → KeyFound)
  | irKey (key : U32) (found : KeyFound)
  /-- The report `rpt_boot_android`, which queues an item 38 -/
  | bootAndroid

namespace VideoSource

variable (s : VideoSource)

/-- The effects of an item, one after the other, from the `i`-th on. -/
def carEffects (found : ℕ → KeyFound) : ℕ → List CarEffect → VideoSource → VideoSource
  | _, [], s => s
  | i, e :: es, s => carEffects found (i + 1) es (s.carEffect (found i) e)

def next (s : VideoSource) : VideoOp → VideoSource
  | .bootComplete status =>
    carEffects (fun _ => ⟨status, 0, 0⟩) 0 (carWork37 (s.load status)) { s with callActive := 1 }
  | .announce status =>
    if s.announcing = 0 then s
    else
      carEffects (fun _ => ⟨status, 0, 0⟩) 0 (carWork38 (s.load status)) { s with announcing := s.announcing - 1 }
  | .panel cmd2 status found => carEffects found 0 (carWork67 cmd2 status) s
  | .press item found =>
    let r := { item with status := s.load item.status }.carWork s.kept
    carEffects found 0 (r.1.map .press) { s with kept := r.2 }
  | .hold cmd2 found => carEffects found 0 (carWork70 cmd2) s
  | .irKey key found => s.irKey key found
  | .bootAndroid => { s with rptBootAndroid := 1, announcing := s.announcing + 1 }

/-! ## What the messages are for -/

/-- What the application was told last. -/
def appSees : Bool := Run.latest (fun | .app on => some on | .audio _ => none) false s.log

/-- What the audio module was told last. -/
def audioSees : Bool := Run.latest (fun | .app _ => none | .audio on => some on) false s.log

/-- The key that switches the source on or off. -/
def switchedBy (key : U32) : Option Bool :=
  if key = 0x40 then some true else if key = 0x41 then some false else none

/-- What an operation switches the source to. -/
def switched : VideoOp → Option Bool
  | .panel cmd2 _ _ => if cmd2.toInt ≤ 31 then none else switchedBy (cmd2 - 32)
  | .press item _ => if item.cmd2.toInt ≤ 31 then none else switchedBy (item.cmd2 - 32)
  | .irKey key _ => switchedBy key
  | _ => none

/-- The boot was reported to be complete. -/
def Completed (ops : List VideoOp) : Prop := ∃ status, .bootComplete status ∈ ops

/-- The system was reported to be up, and an item that this queues was run. -/
def Announced (ops : List VideoOp) : Prop :=
  ∃ pre mid status post, ops = pre ++ .bootAndroid :: mid ++ .announce status :: post

/-- Whoever has come up was told last what the source was switched to last. -/
structure InSync (ops : List VideoOp) (s : VideoSource) : Prop where
  app : Completed ops → s.appSees = Run.latest switched false ops
  audio : Announced ops → s.audioSees = Run.latest switched false ops

end VideoSource

end MtcDrivers
