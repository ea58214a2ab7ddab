import MtcDrivers.Ioctl.Text

/-!
# Configuration lists

The set and get code of `car_ioctl` for `cfg_ir_assign`, `cfg_steer_assign` and `cfg_config`. All three
store and read the configuration blob at offsets from `checksum`. The buffer for the parsed numbers is
assumed to be allocated, and the text of a set request starts behind the `=`.
-/

namespace MtcDrivers

/-- Element `i` of the parsed numbers (`v60`, `v139`). -/
def elem (xs : List U32) (i : ℕ) : U32 := xs.getD i 0

/-- The stores of `cfg_ir_assign`: the low half of each number, high byte first, from offset 206. -/
def storeIrAssign (xs : List U32) (c : ConfigData) : ConfigData :=
  (List.range 60).foldl (fun c i =>
    (c.put (206 + 2 * i) (((elem xs i).setWidth 16 >>> 8).setWidth 8)).put
      (207 + 2 * i) ((elem xs i).setWidth 8)) c

/-- The stores of `cfg_steer_assign`. The first byte of an entry is taken from the next number
    (`*(v145 + 1)`); for the last entry that is the word `past` behind the buffer. -/
def storeSteerAssign (xs : List U32) (past : U32) (c : ConfigData) : ConfigData :=
  (List.range 50).foldl (fun c k =>
    ((c.put (0x148 + 3 * k) ((if k + 1 < 50 then elem xs (k + 1) else past).setWidth 8)).put
      (0x149 + 3 * k) ((elem xs k >>> 8).setWidth 8)).put
      (0x14A + 3 * k) ((elem xs k).setWidth 8)) c

/-- The stores of `cfg_config`. -/
def storeConfig (xs : List U32) (c : ConfigData) : ConfigData :=
  (List.range 512).foldl (fun c i => c.put i ((elem xs i).setWidth 8)) c

/-- Number `i` of the `cfg_ir_assign` answer (`v119`). -/
def irAssignAt (c : ConfigData) (i : ℕ) : ℕ :=
  (c.byte (0xD1 + 2 * i)).toNat ||| ((c.byte (0xD0 + 2 * i)).toNat <<< 8)

/-- Number `k` of the `cfg_steer_assign` answer (`v132`). -/
def steerAssignAt (c : ConfigData) (k : ℕ) : ℕ :=
  (c.byte (3 * k + 330)).toNat |||
    (((c.byte (3 * k + 329)).toNat ||| ((c.byte (3 * k + 328)).toNat <<< 8)) <<< 8)

def getIrAssign (c : ConfigData) (buf : Text) : Text :=
  printInts strFmtDComma2 strFmtD4 ((List.range 60).map (irAssignAt c)) buf

def getSteerAssign (c : ConfigData) (buf : Text) : Text :=
  printInts strFmtDComma2 strFmtD3 ((List.range 50).map (steerAssignAt c)) buf

def getConfig (c : ConfigData) (buf : Text) : Text :=
  printInts strFmtDComma3 strFmtD3 ((List.range 512).map fun i => (c.byte i).toNat) buf

/-- The keys whose value is a list. -/
inductive ListKey where
  | cfgIrAssign
  | cfgSteerAssign
  | cfgConfig
deriving DecidableEq, Repr

namespace ListKey

/-- How many numbers a set request takes. -/
def count : ListKey → ℕ
  | cfgIrAssign => 60
  | cfgSteerAssign => 50
  | cfgConfig => 512

/-- What the numbers are meant to stay below. -/
def bound : ListKey → ℕ
  | cfgIrAssign => 0x10000
  | cfgSteerAssign => 0x1000000
  | cfgConfig => 0x100

def store : ListKey → List U32 → U32 → ConfigData → ConfigData
  | cfgIrAssign, xs, _, c => storeIrAssign xs c
  | cfgSteerAssign, xs, past, c => storeSteerAssign xs past c
  | cfgConfig, xs, _, c => storeConfig xs c

def answer : ListKey → ConfigData → Text → Text
  | cfgIrAssign => getIrAssign
  | cfgSteerAssign => getSteerAssign
  | cfgConfig => getConfig

/-- The set code: the numbers it took and the new configuration, or `none` where it gives up. -/
def set (k : ListKey) (past : U32) (token : Text) (c : ConfigData) :
    Option (List U32 × ConfigData) :=
  (readInts k.count token).map fun r => (r.1, k.store r.1 past c)

/-- The answer for the configuration parses back to the list. -/
def ReadsBack (k : ListKey) (xs : List U32) (c : ConfigData) : Prop :=
  ∃ rest, readInts k.count (k.answer c []) = some (xs, rest)

end ListKey

end MtcDrivers
