import MtcDrivers.Camera.Capture

/-!
# The video standard of the T132B

The runs of `camera_start`, `camera_stop`, `capture_check_work` and command `'='` with a composite input,
and what `sta_video_signal` says of the decoder. Other code may change the status bytes at any time.
-/

namespace MtcDrivers

inductive StandardStep where
  /-- `camera_start` with the T132B, whose register 17 does not read 32. -/
  | start (io : StartInput)
  | stop
  | check (np : NpInput)
  /-- Command `'='`. -/
  | recheck (io : CaptureInput)
  /-- Other code changes the status. -/
  | status (camState reserved9 camSignal reserved11 reserved13 videoMode : U8)

namespace Camera

/-- One step; `camera_start` only for a composite input. -/
def standardNext : StandardStep → Camera → Option Camera
  | .start io, s => if io.v13 ≠ 32 ∧ s.decoderInput ≠ 1 then some (s.cameraStart io) else none
  | .stop, s => some s.cameraStop
  | .check np, s => some (s.captureCheckWork np none)
  | .recheck io, s => some (s.captureWork 61 0 io)
  | .status camState reserved9 camSignal reserved11 reserved13 videoMode, s =>
    some { s with
      camState := camState, reserved9 := reserved9, camSignal := camSignal, reserved11 := reserved11,
      reserved13 := reserved13, videoMode := videoMode }

/-- Before the first start. -/
structure NoStandard (s : Camera) : Prop where
  staVideoSignal : s.staVideoSignal = 0
  reserved19 : s.reserved19 = 0

/-- `sta_video_signal` is 2 only while the decoder has the PAL set, and 1 only while it has the NTSC set. -/
structure Tracked (s : Camera) : Prop where
  pal : s.staVideoSignal = 2 → s.page = some .pal ∧ s.cvbsAuto = 1
  ntsc : s.staVideoSignal = 1 → s.page = some s.ntscSet ∧ s.cvbsAuto = 0

/-- The standard is tracked in every state of the run. -/
def AllTracked : List StandardStep → Camera → Prop
  | [], s => Tracked s
  | step :: steps, s => Tracked s ∧ ∀ s', standardNext step s = some s' → AllTracked steps s'

/-- If `'='` gets as far as `check_np` and reads a signal, its standard is not the other one than
    `sta_video_signal` says. -/
def Agrees (np : NpInput) (s : Camera) : Prop :=
  s.checksStandard = true → ∀ v6 v7, np.v6 = some v6 → np.v7 = some v7 → v6 &&& 1 = 0 →
    s.staVideoSignal ≠ if v7 &&& 4 ≠ 0 then 1 else 2

def StepAgrees (step : StandardStep) (s : Camera) : Prop :=
  ∀ io, step = .recheck io → Agrees io.np s

/-- Every `'='` of the run agrees, in the state before it. -/
def AllAgree : List StandardStep → Camera → Prop
  | [], _ => True
  | step :: steps, s => StepAgrees step s ∧ ∀ s', standardNext step s = some s' → AllAgree steps s'

end Camera

end MtcDrivers
