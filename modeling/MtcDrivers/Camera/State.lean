import Mathlib.Data.Int.Notation
import MtcDrivers.Car.State

/-!
# The state of the camera engine

The fields of `car_status`, of the configuration and of `mtc_backview_dev` that the camera code uses. The
register bytes of a page set and the mode bytes of `video_Channel` are not part of the state: which set
was written and that the channel was switched is recorded.
-/

namespace MtcDrivers

/-- The register page sets of the T132B decoder. -/
inductive PageSet where
  | pal
  | ntsc
  | ntscYz
  | rgb
  | yuv
deriving DecidableEq, Repr

/-- The register tables that `T132B_Write` sends. -/
inductive DecoderTable where
  | t132bInit
  | adv7181dYuvBack
  | adv7181dRgbHact
  | adv7181dYuv
  | adv7181dRgb
  | adv7181dCvbs
deriving DecidableEq, Repr

inductive CameraEvent where
  | vsSend (cmd : U8) (data : List U8)
  | armSendMulti (cmd : U32) (data : List U8)
  | audioAddWork (cmd1 : U32)
  | backlightOn
  | backlightOff
  /-- `rk_direct_fb_open(rk_get_fb(fb), on)` -/
  | fbOpen (fb on : U8)
  /-- `rk_direct_fb_show(rk_get_fb(0))` -/
  | fbShow
  | videoChannel
  | cifPower (on : Bool)
  | vipReset
  /-- `T132B_Write` -/
  | writeTable (table : DecoderTable)
  /-- `T132B_Page_Write` -/
  | pageWrite (dev : U8) (set : PageSet)
  /-- `T132B_i2c_write` -/
  | i2cWrite (dev reg dat : U8)
  /-- `capture_dwork` is queued, or its timer deleted. -/
  | queueCheck
  | cancelCheck
deriving DecidableEq, Repr

/-- The enable counts of the CIF clocks. -/
structure CifClocks where
  pdCif0 : ℤ
  aclkCif0 : ℤ
  hclkCif0 : ℤ
  clkCif0In : ℤ
  clkCif0Out : ℤ
deriving DecidableEq, Repr, Inhabited

/-- The number `d` of `clk_enable` calls, or of `clk_disable` calls where it is negative, for each clock. -/
def CifClocks.add (c : CifClocks) (d : ℤ) : CifClocks :=
  ⟨c.pdCif0 + d, c.aclkCif0 + d, c.hclkCif0 + d, c.clkCif0In + d, c.clkCif0Out + d⟩

structure Camera where
  callActive : U8
  powerRefcnt : U8
  camState : U8
  reserved8 : U8
  reserved9 : U8
  camSignal : U8
  reserved10 : U8
  reserved11 : U8
  staView : U8
  staVideoSignal : U8
  videoMode : U8
  reserved13 : U8
  decoderState : U8
  radarVal : U8
  reserved19 : U8
  uValue : U8
  vValue : U8
  uvCal : U8
  mtcCustomer : U8
  mcuCmdState : U8
  /-- `config_data.d` from here on. -/
  cfgDtv : U8
  reserved204 : U8
  uvOffU : U8
  uvOffV : U8
  /-- `mtc_backview_dev` from here on. -/
  dtvType : U8
  decoderType : U8
  gap1_0 : U8
  cvbsAuto : U8
  /-- `_gap1b[0]`, the camera is running. -/
  gap1b_0 : U8
  cameraWorking : U8
  gap2_0 : U8
  /-- `_gap2[3]` -/
  gap2_3 : U8
  clocks : CifClocks
  /-- The page set most recently written. -/
  page : Option PageSet
  log : List CameraEvent
deriving Inhabited

namespace Camera

def emit (s : Camera) (e : CameraEvent) : Camera := { s with log := e :: s.log }

/-- `backview_status_u32`: the bytes from `reserved_9` on. -/
def backviewStatusU32 (s : Camera) : U32 :=
  s.reserved11 ++ s.reserved10 ++ s.camSignal ++ s.reserved9

/-- `!cam_state && !(backview_status_u32() & 0xFF00FF00)` -/
def noView (s : Camera) : Bool :=
  s.camState = 0 && s.backviewStatusU32 &&& 0xFF00FF00#32 = 0

end Camera

end MtcDrivers
