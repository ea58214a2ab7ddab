import MtcDrivers.Run.Basic
import MtcDrivers.Radio.Sync
import MtcDrivers.Audio.Enter

/-!
# Traffic announcements

The radio module with its work and timers, and the audio module behind its queue. The radio says with the
items 24 and 25 that an announcement begins and ends, and the audio module keeps its own copy, `ch_status`.
-/

namespace MtcDrivers

namespace AudioUnit

/-- `audio_work`, with the full code of the channels and of traffic announcements. -/
def audioWork (w : AudioWork) (u : AudioUnit) : AudioUnit :=
  let u := u.mapAudio Audio.releaseMutePin
  match w.cmd1.toNat with
  | 0 => if u.state.audioActive ≠ 0 then u.enterChannel ((w.cmd2.setWidth 8).setWidth 32) true else u
  | 1 => if u.state.audioActive ≠ 0 then u.enterChannel ((w.cmd2.setWidth 8).setWidth 32) false else u
  | 0x18 => if u.state.chStatus = 0 then u.taChannel 1 else u
  | 0x19 => if u.state.chStatus ≠ 0 then u.taChannel 0 else u
  | _ => u.mapAudio (Audio.workSwitch (fun _ _ a => a) w)

end AudioUnit

/-- The two modules, and the audio items that wait, oldest first. -/
structure TaSystem where
  unit : AudioUnit
  queue : List AudioWork

/-- The audio items of the ioctls, the keys and the other modules: only the radio queues 24 and 25. -/
def OtherWork : Type := { w : AudioWork // w.cmd1 ≠ 24 ∧ w.cmd1 ≠ 25 }

/-- The steps. -/
inductive TaStep where
  /-- `radio_cmd_work`: RDS data, or the status of the front end. -/
  | radioCmd (w : RadioWork)
  /-- `rds_process` on a complete group, with the words that it finds in `_s2`. -/
  | group (word : U16) (fwA fwB fwC fwD : U8)
  | staValid
  | rdslost
  | ta
  | signalLow
  | af (signal : U32) (cleared : Bool)
  /-- `Radio_TA` -/
  | setTa (enable : U32)
  /-- `Radio_AF` -/
  | setAf (af : U32)
  /-- `Radio_Set_Frequency` up to its flush, and behind it. -/
  | retuneBegin
  | retuneEnd (freq withData : U32)
  /-- The configuration and the backlight change. -/
  | config (cfgRds cfgRadio backlightStatus : U8)
  | request (w : OtherWork)
  /-- The next audio item runs. -/
  | audio
  /-- `power_soft_off`, which clears `ch_status`. -/
  | softOff

namespace TaSystem

/-- The state of the radio. -/
def radio (s : TaSystem) : Radio := s.unit.tuner.radio

/-- At the start there is no announcement, and the audio module has nothing to do. -/
def start (u : AudioUnit) : TaSystem where
  unit := { u.map fun s => { s with chStatus := 0 } with
    tuner := u.tuner.mapRadio fun r => { r with hasTaWork := 0 } }
  queue := []

/-- The audio item of an event. -/
def itemOf : RadioEvent → Option AudioWork
  | .audioAddWork cmd1 cmd2 => some ⟨cmd1, cmd2, 0, 0⟩
  | _ => none

/-- The audio items of some events, which are newest first; `audio_ready` is set. -/
def items (events : List RadioEvent) : List AudioWork := (events.filterMap itemOf).reverse

/-- A function of the radio module runs, and the audio items it queues go to the end of the queue. -/
def radioStep (f : Tuner → Tuner) (s : TaSystem) : TaSystem where
  unit := { s.unit with tuner := f s.unit.tuner }
  queue := s.queue ++ items
    ((f s.unit.tuner).radio.log.take ((f s.unit.tuner).radio.log.length - s.radio.log.length))

/-- One step. -/
def next (s : TaSystem) : TaStep → TaSystem
  | .radioCmd w => s.radioStep fun t => t.mapRadio (Radio.radioCmdWork w)
  | .group word fwA fwB fwC fwD => s.radioStep fun t => t.mapRadio fun r =>
    (r.mapS2 fun s => { s with
      rdsWordU16 := word, rdsFwA := fwA, rdsFwB := fwB, rdsFwC := fwC, rdsFwD := fwD }).rdsProcess
  | .staValid => s.radioStep fun t => t.mapRadio Radio.workStaValid
  | .rdslost => s.radioStep fun t => t.mapRadio Radio.rdslostWork
  | .ta => s.radioStep fun t => t.mapRadio Radio.workTa
  | .signalLow => s.radioStep Tuner.workSignalLow
  | .af signal cleared => s.radioStep fun t => (t.workAf signal cleared).getD t
  | .setTa enable => s.radioStep (Tuner.setTa enable)
  | .setAf af => s.radioStep (Tuner.setAf af)
  | .retuneBegin => s.radioStep Tuner.setFrequencyBegin
  | .retuneEnd freq withData => s.radioStep (Tuner.setFrequencyEnd freq withData)
  | .config cfgRds cfgRadio backlightStatus =>
    s.radioStep fun t => t.mapRadio fun r =>
      { r with cfgRds := cfgRds, cfgRadio := cfgRadio, backlightStatus := backlightStatus }
  | .request w => { s with queue := s.queue ++ [w.1] }
  | .audio =>
    match s.queue with
    | [] => s
    | w :: queue => ⟨s.unit.audioWork w, queue⟩
  | .softOff => { s with unit := s.unit.map fun s => { s with chStatus := 0 } }

/-- A step that ends the announcement says so to the application and to the audio module. -/
def SaysEnd (s : TaSystem) (step : TaStep) : Prop :=
  s.radio.hasTaWork ≠ 0 → (s.next step).radio.hasTaWork = 0 →
    (∃ new, (s.next step).radio.log = new ++ s.radio.log ∧ RadioEvent.vsSend 155 [0] ∈ new) ∧
      ∃ queued, (s.next step).queue = s.queue ++ queued ∧ ⟨25, 1, 0, 0⟩ ∈ queued

/-- With no item pending, the audio module is on the announcement only while there is one. -/
def Together (s : TaSystem) : Prop :=
  s.queue = [] → s.unit.state.chStatus ≠ 0 → s.radio.hasTaWork ≠ 0

/-- The tuner is not retuned during an announcement while RDS is on. -/
def NoRetune (s : TaSystem) : TaStep → Prop
  | .retuneEnd _ _ => s.radio.cfgRds = 0 ∨ s.radio.hasTaWork = 0
  | _ => True

end TaSystem

end MtcDrivers
