import MtcDrivers.Bits.ShiftRegister
import MtcDrivers.Link.Send
import MtcDrivers.Proc.History

/-!
# What crosses the wires

The bits on the link, read off the log: outgoing bits are the levels on `MCU_DOUT` at the moments the
driver pulls `MCU_CLK` low, and incoming bits are the levels of `MCU_DIN` sampled while the MCU holds
`MCU_CLK` low.
-/

namespace MtcDrivers

open ShiftRegister

/-- The level `MCU_DOUT` was last set to. -/
def doutLevel : List Event → Option Bool
  | [] => none
  | .setValue .mcuDout v :: _ => some v
  | .directionOutput .mcuDout v :: _ => some v
  | _ :: log => doutLevel log

/-- The levels of `MCU_DOUT` at the moments `MCU_CLK` was pulled low, newest first. -/
def clockFalls : List Event → List (Option Bool)
  | [] => []
  | .directionOutput .mcuClk false :: log => doutLevel log :: clockFalls log
  | _ :: log => clockFalls log

/-- The levels of `MCU_DIN` sampled right after `MCU_CLK` was seen low, newest first. -/
def samples : List Event → List Bool
  | [] => []
  | .level .mcuDin v :: .level .mcuClk false :: log => v :: samples log
  | _ :: log => samples log

/-- The outgoing bits so far. -/
def sentBits (w : World) : List (Option Bool) := clockFalls w.log

/-- The incoming bits so far. -/
def sampledBits (w : World) : List Bool := samples w.log

/-- The bits of the first `count` bytes of a buffer, most significant first in each byte. -/
def payloadBits (buf : CArray) (count : ℕ) : List Bool :=
  (List.range count).flatMap fun i => msbFirst (buf.val i)

/-- The state in which `arm_send` and `arm_send_multi` have taken the link. -/
def World.taken (w : World) : World := (w.emit (.sync .disableIrq)).emit (.sync .mutexLock)

/-- `w1` is the state in which `arm_send_multi`, started in `w`, has sent its command word. -/
def CommandSent (cmd : U32) (w w1 : World) : Prop := (armSendCmd cmd).Ends w.taken true w1

end MtcDrivers
