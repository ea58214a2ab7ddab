import MtcDrivers.Camera.Decoder
import MtcDrivers.Counting.Streak
import MtcDrivers.Timer.Wraparound

/-!
# Composite detection, register by register

`T132B_CVBS_Auto` with its clock and the register writes of `T132B_Page_Write`. The register tables are
parameters. The status bytes of the car stay as they are meanwhile.
-/

namespace MtcDrivers

/-- The register tables of `T132B_Page_Write` and its callers. -/
structure PageTables where
  /-- `T132B_P0_PAL`, `T132B_P0_NTSC`, `T132B_P0_NTSC_YZ` -/
  p0 : PageSet → ℕ → U8
  /-- `T132B_P2_PAL`, `T132B_P2_NTSC`, `T132B_P2_NTSC_YZ` -/
  p2 : PageSet → ℕ → U8
  p0Mask : ℕ → U8
  p2Mask : ℕ → U8
  p2SMask : ℕ → U8
  p2SPal : ℕ → U8
  p2SPalm : ℕ → U8
  p2SPaln : ℕ → U8
  p2SNtsc : ℕ → U8
  p2SSecam : ℕ → U8

/-- A call of `T132B_i2c_write`. -/
structure I2cWrite where
  dev : U8
  reg : U8
  dat : U8
deriving DecidableEq, Repr

/-- What the polls find: the clock in microseconds, first for `start_usec` and then once for each poll, and
the two status registers. -/
structure PollInput where
  clock : ℕ → ℕ
  v7 : ℕ → U8
  v8 : ℕ → U8

/-- The camera, `av_channel_flag1` of the car status, and the register writes, oldest first. -/
structure Composite where
  camera : Camera
  avChannelFlag1 : U8
  writes : List I2cWrite

namespace Composite

/-! ## `T132B_Page_Write` -/

/-- The register of the selected TV system that takes the place of one of page 2. -/
def systemRegister (t : PageTables) (i : ℕ) (s : Composite) : U8 :=
  if s.avChannelFlag1 = 5 then if s.camera.cvbsAuto ≠ 0 then t.p2SPal i else t.p2SPalm i
  else if s.avChannelFlag1 = 6 then if s.camera.cvbsAuto ≠ 0 then t.p2SPaln i else t.p2SNtsc i
  else if s.avChannelFlag1 = 7 ∨ s.avChannelFlag1 = 8 then
    if s.camera.cvbsAuto ≠ 0 then t.p2SSecam i else t.p2SNtsc i
  else if s.camera.cvbsAuto ≠ 0 then t.p2SPal i
  else t.p2SNtsc i

/-- One pass of the loop of `T132B_Page_Write`. -/
def pageRegister (t : PageTables) (devAddr : U8) (data mask : ℕ → U8) (s : Composite) (i : ℕ) :
    Option I2cWrite :=
  let masked := if mask i ≠ 0 then some ⟨devAddr, BitVec.ofNat 8 i, data i⟩ else none
  if s.camera.camState ≠ 0 then masked
  else if s.camera.backviewStatusU32 &&& 0xFF00FF00#32 = 0 ∧ devAddr = 0x44 ∧ s.avChannelFlag1 ≠ 0 ∧
      t.p2SMask i ≠ 0 then
    some ⟨0x44, BitVec.ofNat 8 i, s.systemRegister t i⟩
  else masked

/-- `T132B_Page_Write` -/
def pageWrite (t : PageTables) (devAddr : U8) (count : ℕ) (data mask : ℕ → U8) (s : Composite) :
    List I2cWrite :=
  (List.range count).filterMap (s.pageRegister t devAddr data mask)

/-- The two pages of a standard. -/
def pages (t : PageTables) (set : PageSet) (s : Composite) : List I2cWrite :=
  s.pageWrite t 0x40 240 (t.p0 set) t.p0Mask ++ s.pageWrite t 0x44 112 (t.p2 set) t.p2Mask

def writePages (t : PageTables) (set : PageSet) (s : Composite) : Composite :=
  { s with camera := s.camera.writePages set, writes := s.writes ++ s.pages t set }

/-! ## `T132B_CVBS_Auto` -/

def setCvbsAuto (auto : U8) (s : Composite) : Composite :=
  { s with camera := { s.camera with cvbsAuto := auto } }

def i2cWrite (dev reg dat : U8) (s : Composite) : Composite :=
  { s with camera := s.camera.emit (.i2cWrite dev reg dat), writes := s.writes ++ [⟨dev, reg, dat⟩] }

/-- The reset of the decoder. -/
def resetDecoder (s : Composite) : Composite := (s.i2cWrite 0x44 63 1).i2cWrite 0x44 63 0

/-- Whether 200 milliseconds have passed since `start_usec`. -/
def timedOut (startUsec curUsec : ℕ) : Bool :=
  (if startUsec > curUsec then curUsec + 1000000 else curUsec) - startUsec > 199999

/-- The `while` loop of `T132B_CVBS_Auto` from poll `n` on. -/
def pollLoop (t : PageTables) (io : PollInput) : ℕ → ℕ → U8 → U8 → Composite → Option (U8 × Composite)
  | 0, _, _, _, _ => none
  | fuel + 1, n, sigCnt, palCnt, s =>
    if timedOut (io.clock 0 % 1000000) (io.clock (n + 1) % 1000000) then some (1, s)
    else
      let v7 := io.v7 n
      let v8 := io.v8 n
      let sigCnt := if v7 &&& 7 = 1 then sigCnt + 1 else 0
      if v7 &&& 7 = 1 ∧ sigCnt = 5 then some (v7 &&& 7, s)
      else
        let palCnt := if v8 &&& 4 ≠ 0 then palCnt + 1 else 0
        if v8 &&& 4 ≠ 0 ∧ palCnt = 4 then
          some (2, ((s.setCvbsAuto 1).writePages t .pal).resetDecoder)
        else pollLoop t io fuel (n + 1) sigCnt palCnt s

/-- `T132B_CVBS_Auto` in front of the loop. -/
def autoStart (t : PageTables) (s : Composite) : Composite :=
  (((s.setCvbsAuto 0).writePages t s.camera.ntscSet).i2cWrite 0x44 129 11).resetDecoder

/-- `T132B_CVBS_Auto`; `none` where the loop needs more passes. -/
def t132bCvbsAuto (t : PageTables) (io : PollInput) (fuel : ℕ) (s : Composite) :
    Option (U8 × Composite) :=
  pollLoop t io fuel 0 0 0 (s.autoStart t)

end Composite

/-! ## What the detection is for -/

namespace PollInput

/-- The poll saw no signal. -/
def sig (io : PollInput) (n : ℕ) : Bool := io.v7 n &&& 7 = 1

/-- The poll saw the PAL bit. -/
def pal (io : PollInput) (n : ℕ) : Bool := io.v8 n &&& 4 ≠ 0

/-- The readings of `k` polls from poll `n` on. -/
def polls (io : PollInput) (n : ℕ) : ℕ → List (U8 × U8)
  | 0 => []
  | k + 1 => (io.v7 n, io.v8 n) :: io.polls (n + 1) k

/-- Four polls in a row saw the PAL bit before five in a row saw no signal, and before 200 ms had passed. -/
def PalFirst (io : PollInput) : Prop :=
  ∃ n, Streak.Ends io.pal 4 (n + 1) ∧ (∀ m ≤ n, ¬ Streak.Ends io.sig 5 (m + 1)) ∧
    io.clock (n + 1) - io.clock 0 < 200000

end PollInput

namespace Composite

/-- The pages of this set are the last that were written; what was written behind them is `tail`. -/
structure LastPages (t : PageTables) (set : PageSet) (tail : List I2cWrite) (s : Composite) : Prop where
  page : s.camera.page = some set
  writes : ∃ earlier, s.writes = earlier ++ s.pages t set ++ tail

/-- The writes that reset the decoder. -/
def resetWrites : List I2cWrite := [⟨0x44, 63, 1⟩, ⟨0x44, 63, 0⟩]

/-- The result says what standard was seen, and the flag and the registers are those of that standard. -/
structure DetectsRight (t : PageTables) (io : PollInput) (s : Composite) (out : U8 × Composite) : Prop where
  result : out.1 = 1 ∨ out.1 = 2
  pal_iff : out.1 = 2 ↔ io.PalFirst
  pal : out.1 = 2 → out.2.camera.cvbsAuto = 1 ∧ out.2.LastPages t .pal resetWrites
  ntsc : out.1 ≠ 2 → out.2.camera.cvbsAuto = 0 ∧
    out.2.LastPages t s.camera.ntscSet (⟨0x44, 129, 11⟩ :: resetWrites)

end Composite

end MtcDrivers
