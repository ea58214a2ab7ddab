import MtcDrivers.Link.Command

/-!
# The status byte

The case `0xF004` of `process_mcu_command`, the events that it sends for the bits of the status byte, and
what the log shows of them.
-/

namespace MtcDrivers

/-- What the events of the status byte are about. -/
inductive StatusKind
  | driving
  | ipod
  | ill
deriving DecidableEq

namespace StatusKind

/-- The bit of `sta_bits`. -/
def mask : StatusKind → U8
  | driving => 0x10
  | ipod => 0x20
  | ill => 0x08

/-- The command of the event. -/
def cmd : StatusKind → U8
  | driving => 144
  | ipod => 145
  | ill => 147

/-- The byte that the event carries for this status byte. -/
def value : StatusKind → U8 → U8
  | driving, bits => if bits &&& 0x10 ≠ 0 then 1 else 0
  | ipod, bits => if bits &&& 0x20 = 0 then 1 else 0
  | ill, bits => if bits &&& 0x08 = 0 then 1 else 0

/-- The bit differs. -/
def Changed (k : StatusKind) (prev bits : U8) : Prop := bits &&& k.mask ≠ prev &&& k.mask

instance (k : StatusKind) : DecidableRel k.Changed := fun _ _ => inferInstanceAs (Decidable (_ ≠ _))

def event (k : StatusKind) (bits : U8) : Event := .vsSend 2 k.cmd [k.value bits]

end StatusKind

/-! ## The case of the message -/

/-- What the case `0xF004` does with its byte, with `update` for `backlight_update`, which is given the
byte. -/
def takeStatus (update : U8 → Link Unit) (buf : CArray) : Link ℤ := do
  let nv ← buf.load 0
  let w ← Proc.get
  let dv := nv ^^^ w.car.status.staBits
  if dv &&& 0x10 ≠ 0 then vsSend 2 144 [if nv &&& 0x10 ≠ 0 then 1 else 0]
  if dv &&& 0x20 ≠ 0 then vsSend 2 145 [if nv &&& 0x20 = 0 then 1 else 0]
  if dv &&& 0x48 ≠ 0 then
    if dv &&& 8 ≠ 0 then vsSend 2 147 [if nv &&& 8 = 0 then 1 else 0]
    modifyStatus fun s => { s with staBits := nv }
    update nv
  modifyStatus fun s => { s with staBits := nv }
  tailAck 1

/-- The case `0xF004` -/
def statusReport (update : U8 → Link Unit) (f : Frame) : Link ℤ :=
  withPayload f 1 (takeStatus update) (retTail 0xF004)

theorem mcuReport_status (f : Frame) :
    mcuReport f 0xF004 = statusReport (fun _ => emit .backlightUpdate) f := rfl

/-- `update` where `sta_bits` is `nv`, and `other` where it is not. -/
def whereStored (nv : U8) (update other : Link Unit) : Link Unit := do
  let w ← Proc.get
  if w.car.status.staBits = nv then update else other

/-! ## What the log shows -/

/-- The events of the status byte. -/
def Event.isStatus : Event → Bool
  | .vsSend port cmd _ => port == 2 && (cmd == 144 || cmd == 145 || cmd == 147)
  | .backlightUpdate => true
  | _ => false

/-- The last message that was entered. -/
def lastCommand : List Event → Option U32
  | [] => none
  | .command cmd :: _ => some cmd
  | _ :: log => lastCommand log

/-- The bytes of a reception that succeeded. -/
def Event.payload : Event → List U8
  | .received _ _ true data => data
  | _ => []

/-- The bytes of the messages `0xF004`, newest first. -/
def statusBytes : List Event → List U8
  | [] => []
  | e :: log => (if lastCommand log = some 0xF004 then e.payload else []) ++ statusBytes log

/-- The byte of an event of a kind. -/
def Event.byteOf (k : StatusKind) : Event → Option U8
  | .vsSend port cmd data => if port = 2 ∧ cmd = k.cmd then data.head? else none
  | _ => none

/-- The byte of the last event of a kind. -/
def lastEvent (k : StatusKind) (log : List Event) : Option U8 := log.findSome? (Event.byteOf k)

/-! ## What the events are for -/

/-- The events of one message, oldest first. -/
def messageEvents (prev bits : U8) : List Event :=
  ([StatusKind.driving, .ipod, .ill].filter (·.Changed prev bits)).map (·.event bits) ++
    if bits &&& 0x48 ≠ prev &&& 0x48 then [.backlightUpdate] else []

/-- The events of the bytes of the messages, all newest first. -/
def eventsOf : List U8 → List Event
  | [] => []
  | bits :: rest => (messageEvents (rest.headD 0) bits).reverse ++ eventsOf rest

end MtcDrivers
