import Mathlib.Data.Int.Notation
import MtcDrivers.Audio.Work
import MtcDrivers.Ioctl.Setters

/-!
# Audio requests

The code of `car_ioctl` for `av_phone` and `av_balance`, with the work that it queues, and what the work
should do. The queue runs its items in the order of the requests.
-/

namespace MtcDrivers

/-- The two keys. -/
inductive AvKey where
  | avPhone
  | avBalance
deriving DecidableEq, Repr

namespace Audio

/-- `AUDIO_WORK_PHONE` -/
def audioWorkPhone : U32 := 0xA

/-- `"av_phone"` in `car_ioctl`: the result, the queued work, and the state. -/
def ioctlAvPhone (token : Text) (a : Audio) : ℤ × List AudioWork × Audio :=
  if token = ascii "in" then (0, a.audioAddWork audioWorkPhone 1 0 0, a)
  else if token = ascii "out" then (0, a.audioAddWork audioWorkPhone 2 0 0, a)
  else if token = ascii "hangup" then
    (0, a.audioAddWork audioWorkPhone 0 0 0,
      if a.state.chMode ≠ 0 ∧ a.powerRefcnt = 1 then a.emit .backlightOff else a)
  else if token = ascii "answer" then (0, a.audioAddWork audioWorkPhone 3 0 0, a)
  else (-1, [], a)

/-- `"av_balance"` in `car_ioctl`. -/
def ioctlAvBalance (token : Text) (a : Audio) : ℤ × List AudioWork × Audio :=
  let balance := getTokenInt token
  if taken balance.1 then
    let balance2 := getTokenInt balance.2
    if taken balance2.1 then (0, a.audioAddWork 10 balance2.1 balance.1 0, a)
    else (-1, [], a)
  else (-1, [], a)

def ioctlAv : AvKey → Text → Audio → ℤ × List AudioWork × Audio
  | .avPhone => ioctlAvPhone
  | .avBalance => ioctlAvBalance

/-- The state after the request and the work that it has queued. -/
def serve (enterChannel : U8 → Bool → Audio → Audio) (key : AvKey) (token : Text) (a : Audio) : Audio :=
  (ioctlAv key token a).2.1.foldl (fun a w => audioWork enterChannel w a) (ioctlAv key token a).2.2

/-- The mode that a phone request asks for. -/
def phoneMode (token : Text) : Option U8 :=
  if token = ascii "in" then some 1
  else if token = ascii "out" then some 2
  else if token = ascii "hangup" then some 0
  else if token = ascii "answer" then some 3
  else none

/-- Whatever the state is, the item makes `audio_work` execute this branch. -/
def RunsBranch (enterChannel : U8 → Bool → Audio → Audio) (w : AudioWork) (branch : AudioWork → Audio → Audio) :
    Prop :=
  ∀ a, audioWork enterChannel w a = branch w a.releaseMutePin

/-- What the request queues runs the branch that implements it, and the branch does what it should: a phone request
    sets the mode and leaves the balance, a balance request changes nothing but the balance. -/
def RequestMet (enterChannel : U8 → Bool → Audio → Audio) (key : AvKey) (token : Text) (a : Audio) :
    Prop :=
  (ioctlAv key token a).2.1 ≠ [] →
    match key with
    | .avPhone => (∀ w ∈ (ioctlAv key token a).2.1, RunsBranch enterChannel w workPhone) ∧
        phoneMode token = some (serve enterChannel key token a).state.chMode ∧
        (serve enterChannel key token a).state.balance1 = a.state.balance1 ∧
        (serve enterChannel key token a).state.balance2 = a.state.balance2
    | .avBalance => (∀ w ∈ (ioctlAv key token a).2.1, RunsBranch enterChannel w workBalance) ∧
        ∃ b1 b2, (serve enterChannel key token a).state =
          { a.releaseMutePin.state with balance1 := b1, balance2 := b2 }

/-- Every request of the sequence is met, in the state that the requests before it have left. -/
def AllMet (enterChannel : U8 → Bool → Audio → Audio) : List (AvKey × Text) → Audio → Prop
  | [], _ => True
  | (key, token) :: rs, a =>
    RequestMet enterChannel key token a ∧ AllMet enterChannel rs (serve enterChannel key token a)

/-- The request is no phone request, or it queues nothing: the audio module is not ready, or the value is none of
    the four. -/
def RequestFits (key : AvKey) (token : Text) (a : Audio) : Prop :=
  key = .avBalance ∨ a.audioReady = 0 ∨ phoneMode token = none

/-- Every request of the sequence fits the state that the requests before it have left. -/
def AllFit (enterChannel : U8 → Bool → Audio → Audio) : List (AvKey × Text) → Audio → Prop
  | [], _ => True
  | (key, token) :: rs, a =>
    RequestFits key token a ∧ AllFit enterChannel rs (serve enterChannel key token a)

end Audio

end MtcDrivers
