import MtcDrivers.Run.Basic
import MtcDrivers.Ioctl.Answer
import MtcDrivers.Link.Status

/-!
# The status byte and its getters

The messages `0xF004` and the getters `sta_driving`, `sta_ipod` and `sta_ill`, which read the bits again. The
getters write to `buffer2`, so they answer with what `mtc_sta_buf` holds.
-/

namespace MtcDrivers

namespace StatusKind

/-- The key of the getter. -/
def key : StatusKind → Text
  | driving => ascii "sta_driving"
  | ipod => ascii "sta_ipod"
  | ill => ascii "sta_ill"

/-- The word that the getter takes its letters for `buffer2` from. -/
def word : StatusKind → U8 → Text
  | driving, bits => if bits &&& 0x10 ≠ 0 then ascii "true" else ascii "false"
  | ipod, bits => if bits &&& 0x20 ≠ 0 then ascii "false" else ascii "true"
  | ill, bits => if bits &&& 0x08 ≠ 0 then ascii "false" else ascii "true"

end StatusKind

structure StatusSystem where
  link : World
  answers : AnswerState

inductive StatusOp where
  /-- A message from the MCU, whose loops make at most so many passes. -/
  | message (cmd : U32) (passes : ℕ)
  /-- A request, or another change of what the getters read. -/
  | request (step : IoctlStep)

namespace StatusSystem

/-- The driver as `car_probe` leaves it, before the first message. -/
def boot (link : World) (s : GetState) : StatusSystem :=
  ⟨{ link with
      car := { link.car with status := { link.car.status with staBits := 0 } }
      log := [] },
    ⟨s, []⟩⟩

/-- A message that has not ended with so many passes has no effect yet. -/
def message (cmd : U32) (passes : ℕ) (s : StatusSystem) : StatusSystem :=
  match (processMcuCommand cmd).run passes s.link with
  | none => s
  | some (_, w) => { s with link := w }

def step (s : StatusSystem) : StatusOp → StatusSystem
  | .message cmd passes => s.message cmd passes
  | .request r => { s with answers := r.run s.answers }

/-- `sta_bits` -/
def staBits (s : StatusSystem) : U8 := s.link.car.status.staBits

/-- What the getter of a kind reports. -/
def report (s : StatusSystem) (k : StatusKind) (p : Peripherals) (pos : Text) : Text :=
  (getHalf p k.key pos s.answers).2.1

/-- The state agrees with the bytes of the messages so far, and the getters with the last events. -/
structure StatusAgrees (s : StatusSystem) : Prop where
  bits : s.staBits = (statusBytes s.link.log).headD 0
  events : s.link.log.filter Event.isStatus = eventsOf (statusBytes s.link.log)
  /-- It makes no difference what `backlight_update` would do without the new `sta_bits`. -/
  updated : ∀ f other,
    mcuReport f 0xF004 = statusReport (fun nv => whereStored nv (emit .backlightUpdate) other) f
  reported : ∀ k v, lastEvent k s.link.log = some v → ∀ p pos,
    s.report k p pos = if v = 1 then ascii "true" else ascii "false"

/-- Where an event of a kind has been sent, the answer buffer still holds the word of its getter. -/
def WordsLeft (s : StatusSystem) : Prop :=
  ∀ k, (lastEvent k s.link.log).isSome → cString s.answers.staBuf = k.word s.staBits

end StatusSystem

end MtcDrivers
