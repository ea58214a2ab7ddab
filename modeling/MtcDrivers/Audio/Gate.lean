import MtcDrivers.Audio.Work
import MtcDrivers.Ioctl.Dispatch
import MtcDrivers.Ioctl.Setters

/-!
# The gates of the volume requests

The code of `car_ioctl` for `av_volume` and `av_phone_volume`, for tokens of decimal digits. What such a
token stands for is a natural number of any size; what `get_token_int` makes of it is an `int`.
-/

namespace MtcDrivers

/-- A token of decimal digits, of any length. -/
structure NumericToken where
  text : Text
  digits : ∀ c ∈ text, isDigit c = true

/-- The number that some digits stand for, behind the digits of `n`. -/
def appendDigits (n : ℕ) (t : Text) : ℕ := t.foldl (fun n c => 10 * n + (c - 0x30).toNat) n

/-- The number that the token denotes; an empty token denotes none. -/
def NumericToken.value (t : NumericToken) : Option ℕ :=
  if t.text = [] then none else some (appendDigits 0 t.text)

/-- The keys with a volume. -/
inductive VolumeKey where
  | avVolume
  | avPhoneVolume
deriving DecidableEq, Repr

def VolumeKey.name : VolumeKey → Text
  | avVolume => ascii "av_volume"
  | avPhoneVolume => ascii "av_phone_volume"

/-- `AUDIO_WORK_VOLUME` and `AUDIO_WORK_PHONE_VOLUME` -/
def VolumeKey.work : VolumeKey → U32
  | avVolume => 3
  | avPhoneVolume => 4

/-- The text of the request. -/
def volumeRequest (key : VolumeKey) (t : NumericToken) : Text := key.name ++ equalSign :: t.text

namespace Audio

/-- The code for the key in `car_ioctl`: the result and the queued work. -/
def ioctlVolume (key : VolumeKey) (token : Text) (a : Audio) : ℤ × List AudioWork :=
  let volume := (getTokenInt token).1
  if taken volume ∧ volume.sle 100 then (0, a.audioAddWork key.work volume 0 0) else (-1, [])

/-- Work is queued for the values from 0 to 100, with the value in it; for every other token nothing is
queued and the answer is -1. -/
structure GateExact (key : VolumeKey) (t : NumericToken) (a : Audio) : Prop where
  queued : ∀ n, t.value = some n → n ≤ 100 →
    (ioctlVolume key t.text a).2 = [⟨key.work, BitVec.ofNat 32 n, 0, 0⟩]
  refused : (∀ n, t.value = some n → 100 < n) → ioctlVolume key t.text a = (-1, [])

end Audio

end MtcDrivers
