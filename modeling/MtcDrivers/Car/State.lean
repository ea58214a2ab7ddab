import Mathlib.Data.Nat.Notation

/-!
# The state of the car module

`mtc_car_struct` with the parts of `mtc_car_status` and the 512-byte `mtc_config_data` that the
modelled code reads or writes. `char` is unsigned on this ARM target, so bytes are `BitVec 8`, and
`int` and `unsigned int` fields are `BitVec 32`.
-/

namespace MtcDrivers

/-- `unsigned char` (and plain `char`). -/
abbrev U8 := BitVec 8

/-- `unsigned int` (and `int`, where only the bits matter). -/
abbrev U32 := BitVec 32

/-- `union mtc_config_data`: the configuration blob, addressed by byte offset from `checksum`. -/
structure ConfigData where
  /-- The `u8[512]` view of the union. -/
  u8 : Vector U8 512
deriving DecidableEq, Inhabited

namespace ConfigData

/-- The byte at offset `i` (`0` past the end, which no modelled access reaches). -/
def byte (c : ConfigData) (i : ℕ) : U8 := c.u8[i]?.getD 0

/-- Store `b` at offset `i`. -/
def put (c : ConfigData) (i : ℕ) (b : U8) : ConfigData := ⟨c.u8.setIfInBounds i b⟩

/-- `d.cfg_radio`. -/
def cfgRadio : ℕ := 6

theorem byte_put_self (c : ConfigData) {i : ℕ} (hi : i < 512) (b : U8) : (c.put i b).byte i = b := by
  simp [byte, put, hi]

theorem byte_put_ne (c : ConfigData) {i j : ℕ} (hij : i ≠ j) (b : U8) :
    (c.put i b).byte j = c.byte j := by
  simp [byte, put, hij]

end ConfigData

/-- The fields of `struct mtc_car_status` used by the MCU link. -/
structure CarStatus where
  /-- Byte 8: `0x08` illumination, `0x10` driving, `0x20` iPod. -/
  staBits : U8
  intval1 : U32
  intval2 : U32
  intval3 : U32
  intval4 : U32
  wipeFlag : U8
  /-- Camera connected. -/
  camSignal : U8
  reserved10 : U8
  /-- Bytes 101..132: the touch-key table received with command `0xF021`. -/
  reserved22 : Vector U8 32
  power2Flag : U8
  mcuCmdState : U8
deriving DecidableEq, Inhabited

/-- The fields of `struct mtc_car_struct` used by the MCU link. -/
structure CarStruct where
  status : CarStatus
  config : ConfigData
  /-- `rev_bytes_count`, a progress counter that only the error messages show. -/
  revBytesCount : U32
  /-- `arm_rev_cmd`, the last command word sent or received. -/
  armRevCmd : U32
deriving DecidableEq, Inhabited

end MtcDrivers
