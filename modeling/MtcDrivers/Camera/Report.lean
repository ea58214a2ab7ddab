import MtcDrivers.Camera.Decoder

/-!
# The video status event

What `vs_send(2, 158, ...)` tells about the status, for both of its senders.
-/

namespace MtcDrivers

/-- The data of the status events, the newest first. -/
def sentReports (log : List CameraEvent) : List (List U8) :=
  log.filterMap (fun e =>
    match e with
    | .vsSend cmd data => if cmd = 158 then some data else none
    | _ => none)

namespace Camera

/-- The message that belongs to a status: whether there is a signal, and what is shown. -/
def statusReport (s : Camera) : Option (List U8) :=
  let signal : U8 := if s.staVideoSignal ≠ 0 then 1 else 0
  if s.camState ≠ 0 ∨ s.camSignal ≠ 0 ∨ s.reserved11 ≠ 0 then some [signal, 1]
  else if s.videoMode = 3 then some [signal, 2]
  else if s.videoMode = 5 then some [signal, 3]
  else if s.videoMode = 7 then some [signal, 4]
  else none

/-- `camera_start` sends the message of its status, and nothing else; `capture_check_work` sends the same
    where it finds the signal that `camera_start` found. -/
structure ReportsStatus (io : StartInput) (s : Camera) : Prop where
  start : sentReports (s.cameraStart io).log =
    (s.cameraStart io).statusReport.toList ++ sentReports s.log
  check : ∀ (np : NpInput) (adv : Option U8), (s.cameraStart io).decoderType ≠ 4 →
    ((s.cameraStart io).captureCheckWork np adv).staVideoSignal = (s.cameraStart io).staVideoSignal →
      sentReports ((s.cameraStart io).captureCheckWork np adv).log =
        (s.cameraStart io).statusReport.toList ++ sentReports (s.cameraStart io).log

/-- `v14` and `v15` in `camera_start` are not initialised. -/
def ReportsDefined (io : StartInput) (s : Camera) : Prop :=
  ∀ v14 v15 : U8, ReportsStatus { io with v14 := v14, v15 := v15 } s

end Camera

end MtcDrivers
