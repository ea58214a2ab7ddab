import MtcDrivers.Audio.Worker
import MtcDrivers.Ioctl.Control

/-!
# The volume behind the requests

The requests of `car_ioctl` together with the audio worker: a request stores in `car_status` at once and queues
audio items, and the worker runs one item after the other. The settings behind the volume should become what the
requests ask for, and the volume frames should follow the settings.
-/

namespace MtcDrivers

/-- What the requests find and change, and the audio items that wait, oldest first. -/
structure VolumeSystem where
  control : Control
  queue : List AudioWork

/-- The steps. -/
inductive VolumeStep where
  /-- A set request, with any key and any value. -/
  | request (r : Control.Request)
  /-- The item of `audio_channel_switch_unmute` comes, at its time. -/
  | switchUnmute
  /-- The next audio item runs. -/
  | audio

namespace VolumeSystem

def unit (s : VolumeSystem) : AudioUnit := s.control.unit

/-- The audio items among what a request has made the other modules do; both lists are newest first. -/
def audioItems (acts : List ControlAct) : List AudioWork :=
  acts.filterMap fun a => match a with
    | .audioWork w => some w
    | _ => none

/-- The audio items that a request has queued, oldest first. -/
def queued (c c' : Control) : List AudioWork :=
  (audioItems (c'.acts.take (c'.acts.length - c.acts.length))).reverse

/-- One step. -/
def next (s : VolumeSystem) : VolumeStep → VolumeSystem
  | .request r => ⟨s.control.request r, s.queue ++ queued s.control (s.control.request r)⟩
  | .switchUnmute => { s with queue := s.queue ++ [⟨26, 0, 0, 0⟩] }
  | .audio =>
    match s.queue with
    | [] => s
    | w :: queue => ⟨{ s.control with unit := s.control.unit.work w }, queue⟩

/-- The audio worker runs everything that is queued. -/
def drain (s : VolumeSystem) : VolumeSystem := Run.after next s (List.replicate s.queue.length .audio)

/-- The unit is on: no phone call, AJX, announcement or camera has the sound, and one channel is heard. -/
structure Undisturbed (s : AudioState) : Prop where
  active : s.audioActive ≠ 0
  phone : s.chMode = 0
  ajx : s.ajxActive = 0
  announcement : s.chStatus = 0
  camera : s.camState = 0
  selection : s.chSelMode ≠ 4
  source : s.audioSrc ≤ 3
  mute : s.mute = 0 ∨ s.mute = 1

/-- The last volume frame is the one of the settings. -/
def Current (u : AudioUnit) : Prop := u.frames.head? = some (u.volumeFrame 0)

/-- At the start nothing is queued, and the last frame is the one of the settings. -/
structure Start (s : VolumeSystem) : Prop where
  undisturbed : Undisturbed s.unit.state
  ready : s.unit.audio.audioReady ≠ 0
  queue : s.queue = []
  current : Current s.unit

/-- The request is not the one that puts speech on a channel of its own. -/
def NoSpeech : VolumeStep → Prop
  | .request r => ¬ (r.key = ascii "av_speech" ∧ r.value = ascii "in")
  | _ => True

end VolumeSystem

/-! ## What the requests ask for -/

/-- The volume that a text asks for. -/
def volumeAsked (value : Text) : Option U8 :=
  let volume := (getTokenInt value).1
  if taken volume ∧ volume.sle 100 then some (volume.setWidth 8) else none

/-- The flag that a text asks for. -/
def flagAsked (on off value : Text) : Option U8 :=
  if value = on then some 1 else if value = off then some 0 else none

namespace VolumeStep

/-- What a step asks for, if it is a request with this key. -/
def asks {β : Type} (key : Text) (read : Text → Option β) : VolumeStep → Option β
  | .request r => if r.key = key then read r.value else none
  | _ => none

def volMain : VolumeStep → Option U8 := asks (ascii "av_volume") volumeAsked

def volAux : VolumeStep → Option U8 := asks (ascii "av_phone_volume") volumeAsked

def gpsMonitor : VolumeStep → Option U8 := asks (ascii "av_gps_monitor") (flagAsked (ascii "on") (ascii "off"))

def gpsSwitch : VolumeStep → Option U8 := asks (ascii "av_gps_switch") (flagAsked (ascii "on") (ascii "off"))

/-- What a step asks of `mute`, if anything: a volume unmutes, and a request for a channel may unmute or not,
    which the inner `none` stands for. -/
def mute : VolumeStep → Option (Option U8)
  | .request r =>
    if r.key = ascii "av_channel_enter" ∨ r.key = ascii "av_channel_exit" then some none
    else if r.key = ascii "av_mute" then (flagAsked (ascii "true") (ascii "false") r.value).map some
    else if r.key = ascii "av_volume" then (volumeAsked r.value).map fun _ => some 0
    else none
  | _ => none

end VolumeStep

/-- The settings behind the volume. -/
structure Dials where
  volMain : U8
  volAux : U8
  gpsMonitor : U8
  gpsSwitch : U8
deriving DecidableEq

namespace Dials

/-- The settings of a unit. -/
def ofUnit (u : AudioUnit) : Dials := ⟨u.state.volMain, u.state.volAux, u.state.avGpsMonitor, u.avGpsSwitch⟩

/-- What was asked for last, setting by setting. -/
def asked (d : Dials) (steps : List VolumeStep) : Dials where
  volMain := Run.latest VolumeStep.volMain d.volMain steps
  volAux := Run.latest VolumeStep.volAux d.volAux steps
  gpsMonitor := Run.latest VolumeStep.gpsMonitor d.gpsMonitor steps
  gpsSwitch := Run.latest VolumeStep.gpsSwitch d.gpsSwitch steps

end Dials

namespace VolumeSystem

/-- Behind these steps, once the worker has run everything, the unit has the settings that were asked for last, and
    unless it is muted their volume; `mute` is what was asked of it last, if no request for a channel came behind. -/
structure Follows (start : VolumeSystem) (steps : List VolumeStep) (s : VolumeSystem) : Prop where
  queue : s.drain.queue = []
  dials : Dials.ofUnit s.drain.unit = (Dials.ofUnit start.unit).asked steps
  mute : ∀ b, Run.latest VolumeStep.mute (some start.unit.state.mute) steps = some b → s.drain.unit.state.mute = b
  current : s.drain.unit.state.mute = 0 → Current s.drain.unit

end VolumeSystem

end MtcDrivers
