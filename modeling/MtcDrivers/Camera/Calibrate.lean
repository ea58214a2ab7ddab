import Mathlib.Data.Nat.Basic
import MtcDrivers.Camera.Capture
import MtcDrivers.Search.Least

/-!
# The calibration on the bus

The transfers of the calibration of `capture_work` in their order, readings included, and what the
readings of the decoder are for the two searches.
-/

namespace MtcDrivers

/-- A transfer to or from the decoder. -/
inductive BusOp where
  | write (dev reg dat : U8)
  | read (dev reg dat : U8)
deriving DecidableEq, Repr

def BusOp.event : BusOp → Option CameraEvent
  | .write dev reg dat => some (.i2cWrite dev reg dat)
  | .read .. => none

/-- The value that the events leave in a register. -/
def regLeft (dev reg : U8) : List CameraEvent → Option U8
  | [] => none
  | .i2cWrite d r dat :: log => if d = dev ∧ r = reg then some dat else regLeft dev reg log
  | _ :: log => regLeft dev reg log

/-- The readings of the registers `level` and `level + 1` of device 66, each with the value that the position
    register has then; `pos` is its value before the transfers. -/
def sampled (posReg level : U8) : U8 → List BusOp → List (U8 × U8 × U8)
  | _, [] => []
  | pos, .write dev reg dat :: ops =>
    sampled posReg level (if dev = 64 ∧ reg = posReg then dat else pos) ops
  | pos, .read dev reg dat :: ops =>
    if dev = 66 ∧ (reg = level ∨ reg = level + 1) then (pos, reg, dat) :: sampled posReg level pos ops
    else sampled posReg level pos ops

/-- One level at each position, from `pos` on. -/
def atPositions (level : U8) : ℕ → List (U8 × U8) → List (U8 × U8 × U8)
  | _, [] => []
  | pos, (lo, hi) :: levels =>
    (BitVec.ofNat 8 pos, level, lo) :: (BitVec.ofNat 8 pos, level + 1, hi) ::
      atPositions level (pos + 4) levels

namespace Camera

/-- The transfers recorded; a reading leaves no event. -/
def posted (ops : List BusOp) (s : Camera) : Camera :=
  { s with log := (ops.filterMap BusOp.event).reverse ++ s.log }

/-- The transfers of one wait for register 192. -/
def syncBus : ℕ → List U8 → List BusOp
  | 0, _ => []
  | syncTo + 1, rs =>
    .read 66 192 (rs.headD 0) :: if rs.headD 0 = 227 then [] else syncBus syncTo rs.tail

/-- `IC_WritByte(66, 192, 224); IC_WritByte(66, 192, 225)` -/
def triggerBus : List BusOp := [.write 66 192 224, .write 66 192 225]

/-- The transfers of one search; the registers `level` and `level + 1` hold the level. -/
def scanBus (reg level : U8) : ℕ → ℕ → List U8 → List BusOp
  | 0, _, _ => []
  | n + 1, pos, rs =>
    syncBus 24 rs ++
      match uvSync 24 rs with
      | none => []
      | some rs =>
        [.read 66 level (rs.headD 0), .read 66 (level + 1) (rs.tail.headD 0),
          .write 64 reg (BitVec.ofNat 8 (pos + 4))] ++
        (if n = 0 then [] else triggerBus) ++ scanBus reg level n (pos + 4) rs.tail.tail

/-- The readings that a search leaves over. -/
def scanRest : ℕ → List U8 → Option (List U8)
  | 0, rs => some rs
  | n + 1, rs => (uvSync 24 rs).bind (fun rs => scanRest n rs.tail.tail)

/-- The transfers in front of the searches. -/
def enterBus : List BusOp :=
  [.write 64 38 132, .write 66 202 3, .write 66 203 0, .write 66 204 240, .write 66 206 16,
    .write 64 10 96, .write 64 12 96, .write 64 6 0]

/-- The transfers of the calibration, up to the end of the second search. -/
def searchBus (rs : List U8) : List BusOp :=
  enterBus ++ triggerBus ++ scanBus 12 198 12 96 rs ++
    match scanRest 12 rs with
    | none => []
    | some rs => triggerBus ++ scanBus 10 200 12 96 rs

/-- `val`, from its two readings. -/
def uvLevel (reading : U8 × U8) : ℕ := reading.1.toNat + 256 * reading.2.toNat

/-- The searches read these levels, and leave `rest`: each level comes after fewer than 24 readings of
    register 192 that are not 227, and one that is. After the end of the list the readings are 0. -/
inductive UvReads : List U8 → List (U8 × U8) → List U8 → Prop where
  | done (rs : List U8) : UvReads rs [] rs
  | step {rs : List U8} {levels : List (U8 × U8)} {rest : List U8} (k : ℕ) (hk : k < 24)
      (hwait : ∀ i < k, rs.getD i 0 ≠ 227) (hsync : rs.getD k 0 = 227)
      (hrest : UvReads (rs.drop (k + 3)) levels rest) :
      UvReads rs ((rs.getD (k + 1) 0, rs.getD (k + 2) 0) :: levels) rest

/-- One of the 24 waits for register 192 times out. -/
def UvTimesOut (rs : List U8) : Prop :=
  ∃ levels rest, UvReads rs levels rest ∧ levels.length < 24 ∧ ∀ i < 24, rest.getD i 0 ≠ 227

/-- `case '2'` calibrates the decoder. -/
structure Calibrates (s : Camera) : Prop where
  videoMode : s.videoMode = 2
  reserved19 : s.reserved19 = 0
  decoderState : s.decoderState = 1

/-- `|val - 2048|` at each step of a search. -/
def levelDistance (levels : List (U8 × U8)) (i : ℕ) : ℕ := uvDistance (uvLevel (levels.getD i (0, 0)))

/-- The calibration read `us` and `vs` and ends with the positions of the steps `ku` and `kv`. -/
structure UvFound (rs : List U8) (us vs : List (U8 × U8)) (ku kv : ℕ) (s s' : Camera) : Prop where
  uMin : Search.IsEarliestMin (levelDistance us) 12 ku
  vMin : Search.IsEarliestMin (levelDistance vs) 12 kv
  uSteps : sampled 12 198 0 (searchBus rs) = atPositions 198 96 us
  vSteps : sampled 10 200 0 (searchBus rs) = atPositions 200 96 vs
  log : s'.log = .i2cWrite 64 38 4 :: .i2cWrite 64 10 s'.vValue :: .i2cWrite 64 12 s'.uValue ::
    (posted (searchBus rs) s).log
  uValue : s'.uValue = BitVec.ofNat 8 (96 + 4 * ku)
  vValue : s'.vValue = BitVec.ofNat 8 (96 + 4 * kv)
  regU : regLeft 64 12 s'.log = some s'.uValue
  regV : regLeft 64 10 s'.log = some s'.vValue
  uvCal : s'.uvCal = 3

/-- The values of the configuration are back, and the decoder is in its normal mode. -/
structure UvRestored (s s' : Camera) : Prop where
  uvCal : s'.uvCal = 2
  uValue : s'.uValue = s.uvOffU + 112
  vValue : s'.vValue = s.uvOffV - 124
  regU : regLeft 64 12 s'.log = some s'.uValue
  regV : regLeft 64 10 s'.log = some s'.vValue
  mode : regLeft 64 38 s'.log = some 4

end Camera

end MtcDrivers
