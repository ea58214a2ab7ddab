import MtcDrivers.Car.Memory
import MtcDrivers.Ioctl.Text

/-!
# The firmware version and the customer

The split of the MCU version in `car_probe`, `check_customer` and the chain that sets `mtc_customer`.
-/

namespace MtcDrivers

namespace StatusBytes

/-- `field[strlen(field)] = b` -/
def append (m : StatusBytes) (field : ℕ) (b : U8) : StatusBytes := m.put (field + m.strlen field) b

end StatusBytes

/-- `'-'` -/
def dash : U8 := 0x2D

/-- The loop of `car_probe` over the rest of `mcu_version`. -/
def splitVersion : List U8 → ℕ → StatusBytes → StatusBytes
  | [], _, m => m
  | curByte :: rest, verPart, m =>
    if curByte = 0 then m
    else if curByte = dash then splitVersion rest (verPart + 1) m
    else if verPart = 1 then splitVersion rest verPart (m.append StatusBytes.mcuver1 curByte)
    else if verPart = 2 then splitVersion rest verPart (m.append StatusBytes.mcuver2 curByte)
    else splitVersion rest verPart m

/-- The `-`-separated segments of a version, up to its first NUL. -/
def versionSegments (version : Vector U8 16) : List Text := (cString version.toList).splitOn dash

/-- `check_customer` for the string `cs` in `mcuver1`. -/
def checkCustomer (cs name : Text) : Bool :=
  if cs.length < name.length then false
  else if cs.length = name.length then cs = name
  else if cs.length ≠ name.length + 1 then false
  else if name = ascii "KLD" ∧ cs = ascii "KLDY" then true
  else if cs.take name.length ≠ name then false
  else if 0x2F < cs.getD name.length 0 then cs.getD name.length 0 ≤ 0x39
  else false

/-- The names of one branch of the chain, and its `mtc_customer`. -/
structure CustomerGroup where
  names : List Text
  mtcCustomer : U8
deriving DecidableEq

def CustomerGroup.check (cs : Text) (g : CustomerGroup) : Bool := g.names.any (checkCustomer cs)

/-- The `if` chain of `car_probe`, branch by branch. -/
def customerChain : List CustomerGroup :=
  [⟨[ascii "YZ", ascii "RM", ascii "ZT"], 1⟩, ⟨[ascii "HMF"], 2⟩, ⟨[ascii "KGL"], 3⟩, ⟨[ascii "KLD"], 4⟩,
    ⟨[ascii "FY"], 5⟩, ⟨[ascii "HZC"], 16⟩, ⟨[ascii "JY"], 6⟩, ⟨[ascii "MX"], 9⟩, ⟨[ascii "AM"], 8⟩,
    ⟨[ascii "KZ"], 18⟩, ⟨[ascii "KSP"], 7⟩, ⟨[ascii "HLA"], 10⟩, ⟨[ascii "JWT"], 11⟩, ⟨[ascii "KED"], 12⟩,
    ⟨[ascii "SH"], 13⟩, ⟨[ascii "HH"], 14⟩, ⟨[ascii "KY"], 15⟩, ⟨[ascii "LM"], 17⟩, ⟨[ascii "YM"], 19⟩,
    ⟨[ascii "YMZ"], 20⟩]

/-- What a chain of branches sets `mtc_customer` to, which is 0 before it. -/
def runChain (chain : List CustomerGroup) (cs : Text) : U8 :=
  match chain.find? (CustomerGroup.check cs) with
  | some g => g.mtcCustomer
  | none => 0

/-- `mtc_customer` after `car_probe` has split this version. -/
def mtcCustomer (version : Vector U8 16) : U8 :=
  runChain customerChain ((splitVersion version.toList 0 .zeroed).cString StatusBytes.mcuver1)

/-- The name itself, with one more digit, or `KLDY` for `KLD`. -/
def Matches (cs name : Text) : Prop :=
  cs = name ∨ (∃ d : U8, 0x30 ≤ d ∧ d ≤ 0x39 ∧ cs = name ++ [d]) ∨
    name = ascii "KLD" ∧ cs = ascii "KLDY"

/-- What the split leaves in the car status: the second and the third segment, terminated, and nothing
    else. -/
structure VersionSplit (version : Vector U8 16) (m : StatusBytes) : Prop where
  length1 : ((versionSegments version).getD 1 []).length < 16
  length2 : ((versionSegments version).getD 2 []).length < 16
  mcuver1 : ∀ i < 16, m.byte (StatusBytes.mcuver1 + i) = ((versionSegments version).getD 1 []).getD i 0
  mcuver2 : ∀ i < 16, m.byte (StatusBytes.mcuver2 + i) = ((versionSegments version).getD 2 []).getD i 0
  other : ∀ i, ¬ (StatusBytes.mcuver1 ≤ i ∧ i < StatusBytes.mcuver1 + 16) →
    ¬ (StatusBytes.mcuver2 ≤ i ∧ i < StatusBytes.mcuver2 + 16) → m.byte i = 0

end MtcDrivers
