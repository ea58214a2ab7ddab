import MtcDrivers.Dvd.World
import MtcDrivers.Radio.State

/-!
# Track selection

`dvd_send_command_direct` and `media_index_work`. A track is asked for by `0xB0000 | t`; the number is
staged in `mcu_cmd_data`, and the delayed work sends it to the drive. What a function asks the kernel, the
work list and the bus to do is listed with its result, first effect first. A plain `char` is unsigned.
-/

namespace MtcDrivers

namespace Dvd

/-- The delayed works of `dvd_wq`. -/
inductive DelayedWork where
  | stop
  | media
  | mediaIndex
deriving DecidableEq, Repr

/-- What the driver asks for. -/
inductive Effect where
  /-- `cancel_delayed_work_sync` -/
  | cancel (work : DelayedWork)
  /-- `queue_delayed_work`, with the delay in milliseconds -/
  | queue (work : DelayedWork) (ms : ℕ)
  /-- `dvd_add_work` -/
  | addWork (cmd1 cmd2 : U32)
  /-- `cmd_send` -/
  | cmdSend (cmd : U32)
deriving DecidableEq, Repr

/-- The fields of `dvd_dev` that the two functions use, and `dvd_flag1`. -/
structure Player where
  dvdPowerOn : Bool
  dvdU16val3 : U16
  dvdFlag1 : U32
  mediaState : U8
  dvdByteval5 : U8
  dvdByteval6 : U8
  array1 : Vector U8 32
  array2 : Vector U8 32
  array3 : Vector U8 32
  array4 : Vector U8 32
  mediaCount : U16
  mediaIdx : U16
  dvdLength : U16
  dvdPosition : U16
  trackFlag : U8
  doMediaIndex : U8
  mcuCmdData : U32
  mcuCmdT9 : U32
  mcuCmdTD : U32
  dvdByteval16 : U8
  dvdByteval17 : U8
deriving DecidableEq

namespace Player

/-! ## `dvd_send_command_direct` -/

/-- `LABEL_36`: nothing stays staged, and a disc that plays is stopped. -/
def clearStaged (s : Player) : Player × List Effect :=
  let s := { s with mcuCmdData := 0, mcuCmdT9 := 0, mcuCmdTD := 0 }
  if s.mediaState.setWidth 32 - 2 ≤ (1 : U32) ∧ s.dvdByteval5 ≠ 0 then
    ({ s with doMediaIndex := 1 }, [.cancel .mediaIndex, .cancel .stop, .queue .stop 0])
  else (s, [.cancel .mediaIndex])

/-- `LABEL_31` -/
def stageMedia (s : Player) : Player × List Effect :=
  ({ s with dvdByteval16 := 1 }, [.cancel .media, .queue .media 2000])

/-- The track that passes the test on `media_count`. -/
def stageTrack (command : U32) (s : Player) : Player × List Effect :=
  let s := { s with mediaIdx := command.setWidth 16, mcuCmdData := (command + 1) ||| 0xB0000 }
  if s.mediaState = 1 then
    ({ s with
        dvdLength := 0
        dvdPosition := 0
        array1 := Vector.replicate 32 0
        array2 := Vector.replicate 32 0
        array3 := Vector.replicate 32 0
        array4 := Vector.replicate 32 0
        dvdByteval16 := 1 },
      [.addWork 6 0xE800, .cancel .mediaIndex, .queue .mediaIndex 500])
  else
    ({ s with doMediaIndex := 1, dvdByteval17 := 1 },
      [.addWork 6 0xE800, .cancel .stop, .queue .stop 0, .cancel .mediaIndex, .queue .mediaIndex 1500])

/-- `dvd_send_command_direct` -/
def dvdSendCommandDirect (command : U32) (s : Player) : Player × List Effect :=
  if ¬ s.dvdPowerOn then (s, [])
  else if s.dvdU16val3.setWidth 32 - 1 > (1 : U32) then (s, [.addWork 1 command])
  else
    let dvdFlag := s.dvdFlag1 &&& 0xFF
    if command = 0x22220 ∧ dvdFlag = 0 ∨ command = 0x32200 ∧ dvdFlag = 1 then s.clearStaged
    else if command &&& 0xFF0000 = 0x90000 then
      stageMedia { s with mcuCmdData := 0, mcuCmdT9 := (command + 1) ||| 0x90000 }
    else if command &&& 0xFF0000 = 0xD0000 then
      stageMedia { s with mcuCmdData := 0, mcuCmdT9 := 0, mcuCmdTD := (command >>> 8) ||| 0xD0000 }
    else if s.trackFlag &&& 1 ≠ 0 then (s, [])
    else if command = (if dvdFlag = 0 then 0x20F0D else 0x30F00) then
      ({ s with mcuCmdData := 0, mcuCmdT9 := 0, mcuCmdTD := 0, dvdByteval17 := 0 },
        [.cancel .mediaIndex, .addWork 1 command])
    else if command &&& 0xFF0000 ≠ 0xB0000 then (s, [.addWork 1 command])
    -- `media_count` is an `int`, and the tag is still in it
    else if (command + 1).sle (s.mediaCount.setWidth 32) then s.stageTrack command
    else (s, [])

/-! ## `media_index_work` -/

/-- The words that `media_index_work` sends for `mcu_cmd_data`. -/
def indexWords (dvdFlag1 dvdCmd1 : U32) : List U32 :=
  if dvdFlag1 &&& 0xFF ≠ 0 then
    [(dvdCmd1 &&& 0xFF00) ||| 0x620000, ((dvdCmd1 <<< 24) >>> 16) ||| 0x630000]
  else
    [(dvdCmd1 &&& 0xFF00) ||| 0xB0000 ||| ((dvdCmd1 ^^^ 0xB00) >>> 8),
      (dvdCmd1 ^^^ 0xC) ||| ((dvdCmd1 <<< 8) &&& 0xFFFF) ||| 0xC0000]

/-- `media_index_work` -/
def mediaIndexWork (s : Player) : Player × List Effect :=
  if ¬ s.dvdPowerOn then (s, [])
  else if s.doMediaIndex = 1 then (s, [.queue .mediaIndex 1000])
  else if s.trackFlag &&& 1 ≠ 0 then ({ s with mcuCmdData := 0, dvdByteval17 := 0 }, [])
  else if s.mcuCmdData = 0 then ({ s with dvdByteval17 := 0 }, [])
  else
    ({ s with mcuCmdData := 0, dvdByteval6 := 1, dvdByteval17 := 0 },
      (indexWords s.dvdFlag1 s.mcuCmdData).map .cmdSend)

/-- The disc has stopped: `stop_work` has cleared `do_media_index`. -/
def stopped (s : Player) : Player := { s with doMediaIndex := 0 }

end Player

/-! ## What a selection is for -/

/-- A word on the bus: the opcode, its data byte and their sum, from high to low byte. -/
def frame (op data : U8) : U32 := (op ++ data ++ (op ^^^ data)).setWidth 32

/-- The command that asks for a track. -/
def trackCommand (t : U32) : U32 := 0xB0000 ||| t

/-- The frames that select a track: the high and the low byte of its number on the disc, which counts
from 1. -/
def trackFrames (t : U32) : List U32 :=
  [frame 0x0B ((t + 1).extractLsb' 8 8), frame 0x0C ((t + 1).extractLsb' 0 8)]

namespace Player

/-- The drive is on and listens to tracks. -/
structure TakesTracks (s : Player) : Prop where
  on : s.dvdPowerOn = true
  mode : s.dvdU16val3 = 1 ∨ s.dvdU16val3 = 2
  track : s.trackFlag &&& 1 = 0

/-- The outcome of a command that selects the track `t`: the index is stored, `media_index_work` is
scheduled, and when it runs it sends the two frames. -/
structure Selected (t : U32) (outcome : Player × List Effect) : Prop where
  idx : outcome.1.mediaIdx = t.setWidth 16
  scheduled : ∃ ms, .queue .mediaIndex ms ∈ outcome.2
  sent : outcome.1.dvdFlag1 = 0 →
    outcome.1.stopped.mediaIndexWork.2 = (trackFrames t).map .cmdSend

/-- A track of the disc is selected, and another one changes nothing. -/
structure SelectsTrack (s : Player) (t : U32) : Prop where
  present : t.toNat < s.mediaCount.toNat → Selected t (s.dvdSendCommandDirect (trackCommand t))
  absent : s.mediaCount.toNat ≤ t.toNat → s.dvdSendCommandDirect (trackCommand t) = (s, [])

end Player

end Dvd

end MtcDrivers
