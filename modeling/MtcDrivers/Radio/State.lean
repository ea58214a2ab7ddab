import Mathlib.Logic.Function.Basic
import MtcDrivers.Car.State

/-!
# The state of the radio module

`mtc_radio_struct` with the fields that the RDS code reads or writes, and the configuration bytes and
status flags that it uses. What the code sends, and the timers it starts, are recorded in a log.
-/

namespace MtcDrivers

/-- `u16` -/
abbrev U16 := BitVec 16

/-- What the RDS code does to the outside. -/
inductive RadioEvent where
  /-- `vs_send(2, cmd, data, ...)` -/
  | vsSend (cmd : U8) (data : List U8)
  | armSendMulti (cmd : U32) (data : List U8)
  | audioAddWork (cmd1 cmd2 : U32)
  /-- `cancel_delayed_work(&radio.dwork_sta_valid)` -/
  | cancelStaValid
  /-- `schedule_delayed_work(&radio.dwork_sta_valid, ...)` -/
  | scheduleStaValid
  /-- `schedule_delayed_work(&radio.rdslost_dwork, ...)` -/
  | scheduleRdslost
  /-- `queue_delayed_work(radio.ta_wq, &radio.dwork_signal_low, ...)` -/
  | queueSignalLow (ms : ℕ)
  /-- A call of `rds_process`, with the word it works on and `rds_fw_a` to `rds_fw_d`. -/
  | rdsProcess (word : U16) (fw : List U8)
deriving DecidableEq, Repr

/-- `struct mtc_radio_struct2`, without `mem2` and the fields that nothing reads. -/
structure RadioStruct2 where
  /-- The bytes up to `rds_psn_buf`: `psn_data` is at 0, `rds_pti` at 12, `rds_psn_buf` at 16. -/
  front : ℕ → U8
  piWords : U8
  rdsPsBit : U8
  rdsTaCnt : U8
  rdsPsnWord : U8
  rdsPsnL : U8
  rdsPsnH : U8
  rdsPsGrp : U8
  psText : ℕ → U8
  psTextExt : U8
  rdsPtyExtra : U8
  afLastCount : U8
  rdsWordU16 : U16
  rdsFwA : U8
  rdsFwB : U8
  rdsFwC : U8
  rdsFwD : U8

namespace RadioStruct2

/-- After `memset(&radio._s2, 0, sizeof(radio._s2))`. -/
def zero : RadioStruct2 :=
  ⟨fun _ => 0, 0, 0, 0, 0, 0, 0, 0, fun _ => 0, 0, 0, 0, 0, 0, 0, 0, 0⟩

instance : Inhabited RadioStruct2 := ⟨zero⟩

/-- `psn_data[i]` -/
def psnData (s : RadioStruct2) (i : ℕ) : U8 := s.front i

/-- `rds_pti[i]` -/
def rdsPti (s : RadioStruct2) (i : ℕ) : U8 := s.front (12 + i)

/-- `rds_psn_buf[i]` -/
def rdsPsnBuf (s : RadioStruct2) (i : ℕ) : U8 := s.front (16 + i)

/-- Store a byte in the front part. -/
def putFront (s : RadioStruct2) (i : ℕ) (b : U8) : RadioStruct2 :=
  { s with front := Function.update s.front i b }

/-- Store a `u16` in the front part, low byte first. -/
def putFront16 (s : RadioStruct2) (i : ℕ) (v : U16) : RadioStruct2 :=
  (s.putFront i (v.setWidth 8)).putFront (i + 1) ((v >>> 8).setWidth 8)

end RadioStruct2

/-- `struct mtc_rds_alt_block` -/
structure RdsAltBlock where
  psnPair : U16
  rdsPti : U8
  rdsPsBit : U8
deriving DecidableEq, Inhabited

/-- The fields of `struct mtc_radio_struct` that the RDS code uses, with the alternative block, the
configuration and the car status next to it. -/
structure Radio where
  /-- `sta_valid[0]` -/
  staValid : U8
  s2 : RadioStruct2
  /-- `sta_rds_cache[0]`, the state of the block synchroniser. -/
  staRdsCache0 : U8
  /-- `sta_rds_cache[4..7]`, what `rds_send_sta` saw last. -/
  staRdsCache4 : List U8
  psnData : ℕ → U8
  radioFreq : U32
  curFreq : U32
  hasAfWork : U8
  hasTaWork : U8
  /-- `_gap9[2]` -/
  gap9_2 : U8
  /-- `tef_drv->tef_cur_band` -/
  tefCurBand : U8
  /-- `_gap11[1]` -/
  gap11_1 : U8
  /-- `_gap11[2]`, the TA state. -/
  gap11_2 : U8
  u16_1 : U16
  /-- The word of block A. -/
  u16_2 : U16
  /-- `_gap13[0..1]`, the word of block B. -/
  gap13_0 : U16
  /-- `_gap13[2..3]`, the word of block C or C'. -/
  gap13_2 : U16
  /-- `_gap13[4..5]`, the word of block D. -/
  gap13_4 : U16
  /-- `_gap13[7]`, the number of pending bits. -/
  gap13_7 : U8
  /-- `_gap14`, the bit accumulator. -/
  gap14 : BitVec 64
  rdsAltBlock : RdsAltBlock
  cfgRadio : U8
  cfgRds : U8
  radioRdsFlag : U8
  reserved18 : U8
  backlightStatus : U8
  log : List RadioEvent
deriving Inhabited

namespace Radio

/-- Record an event. -/
def emit (r : Radio) (e : RadioEvent) : Radio := { r with log := e :: r.log }

/-- Change `_s2`. -/
def mapS2 (r : Radio) (f : RadioStruct2 → RadioStruct2) : Radio := { r with s2 := f r.s2 }

end Radio

end MtcDrivers
