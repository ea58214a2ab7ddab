import MtcDrivers.Bits.ShiftRegister
import MtcDrivers.Proc.History
import MtcDrivers.Dvd.Handshake

/-!
# What crosses the DVD bus

The bits on the bus, read off the log: outgoing bits are the levels driven on `DATA` at the moments the
driver pulls `STB` low, and incoming bits are the levels of `DATA` sampled right after the drive has pulled
`STB` low.
-/

namespace MtcDrivers

namespace Dvd

open ShiftRegister History

/-- The level driven on `DATA`; `none` is an input. -/
def dataLevel : List Event → Option Bool
  | [] => none
  | .directionOutput .data v :: _ => some v
  | .directionInput .data :: _ => none
  | _ :: log => dataLevel log

/-- The levels driven on `DATA` at the moments `STB` was pulled low, newest first. -/
def strobes : List Event → List Bool
  | [] => []
  | .directionOutput .stb false :: log => (dataLevel log).toList ++ strobes log
  | _ :: log => strobes log

/-- The levels of `DATA` sampled right after `STB` was seen low, newest first. -/
def samples : List Event → List Bool
  | [] => []
  | .level .data v :: .level .stb false :: log => v :: samples log
  | _ :: log => samples log

/-- The words of the items of kind 5, newest first. -/
def words : List Event → List U32
  | [] => []
  | .addWork cmd1 cmd2 :: log => if cmd1 = 5 then cmd2 :: words log else words log
  | _ :: log => words log

/-- The number of errors that `cmd_send` has printed. -/
def sendErrors : List Event → ℕ
  | [] => 0
  | .printk (.dsnd _ _) :: log => sendErrors log + 1
  | _ :: log => sendErrors log

namespace World

/-- The three lines are inputs, and the mutex is free. -/
structure Released (w : World) : Prop where
  lines : ∀ p, w.lines p = none
  locked : w.locked = false

end World

/-- A word that holds exactly these bits, most significant first. -/
def Carries (word : U32) (bits : List Bool) : Prop := msbFirst word = List.replicate 16 false ++ bits

/-- Every word that was queued carries the 16 bits that were sampled for it; `rest` are the bits of a word
    that was given up. -/
def Received (w w' : World) : Prop :=
  ∃ (got : List (List Bool)) (rest : List Bool) (queued : List U32),
    (∀ bits ∈ got, bits.length = 16) ∧ rest.length ≤ 16 ∧ List.Forall₂ Carries queued got ∧
      Grew (fun w => samples w.log) (got.flatten ++ rest) w w' ∧ Grew (fun w => words w.log) queued w w'

/-- If the drive is on and no error is printed, the bits 23 to 0 of the command were driven on `DATA`, most
    significant first. -/
def Sent (cmd : U32) (w w' : World) : Prop :=
  w.power.head = true → sendErrors w'.log = sendErrors w.log →
    Grew (fun w => strobes w.log) (msbFirst (cmd.setWidth 24)) w w'

end Dvd

end MtcDrivers
