import MtcDrivers.Audio.Enter

/-!
# The volume after a switch

The routines that fade to silence, and what it means that they restore the volume.
-/

namespace MtcDrivers

/-- The calls of the four routines. -/
inductive VolumeRoutine where
  | phone (mode : U32)
  | ajx (mode : U32)
  | ta (mode : U32)
  | enter (setCh : U32) (mode : Bool)
deriving DecidableEq, Repr

namespace VolumeRoutine

/-- The call. -/
def run : VolumeRoutine → AudioUnit → AudioUnit
  | phone mode, u => u.phoneChannel mode
  | ajx mode, u => u.ajxChannel mode
  | ta mode, u => u.taChannel mode
  | enter setCh mode, u => u.enterChannel setCh mode

/-- If the call returns unmuted and has sent volume frames, the last of them is that of fade step 0 in
    the final state. -/
def Restores (r : VolumeRoutine) (u : AudioUnit) : Prop :=
  ∀ sent, (r.run u).frames = sent ++ u.frames → (r.run u).state.mute = 0 →
    ∀ frame, sent.head? = some frame → frame = (r.run u).volumeFrame 0

/-- The state as it will be when the phone has ended. -/
def withoutPhone (u : AudioUnit) : AudioUnit := u.map fun s => { s with chMode := 0 }

/-- The call does not end a phone call of an unmuted unit, outside AJX, that is to be heard. -/
def NotHungUp (r : VolumeRoutine) (u : AudioUnit) : Prop :=
  r = phone 0 → u.state.ajxActive = 0 → u.state.mute = 0 →
    (withoutPhone u).volumeFrame 0 = (0xFF, 0xFF)

end VolumeRoutine

end MtcDrivers
