import MtcDrivers.Irq.Model
import MtcDrivers.Proc.History
import MtcDrivers.Link.Proofs.KeptProofs

/-!
# Proofs: the scripts of the parties

Every run of `arm_send`, `arm_send_multi` and `mtc_car_work` does the interrupt and mutex operations of
its script, in that order, whatever the MCU does.
-/

namespace MtcDrivers

open Proc History

/-- The interrupt and mutex operations so far, newest first. -/
def syncs (w : World) : List SyncOp :=
  w.log.filterMap fun
    | .sync op => some op
    | _ => none

theorem sameSyncs_kept : Kept fun w w' => syncs w' = syncs w where
  refl _ := rfl
  trans _ _ _ h h' := h'.trans h
  level _ _ := rfl
  clock _ := rfl
  frame _ := rfl
  pad _ _ _ := rfl
  car _ _ := rfl
  emit w e he := by cases e <;> first | rfl | simp [Event.isSync] at he

theorem syncs_emit (w : World) (op : SyncOp) : syncs (w.emit (.sync op)) = op :: syncs w := rfl

theorem armSend_script {cmd : U32} {w : World} :
    (armSend cmd).wlp (fun _ w' => Grew syncs senderScript w w') w := by
  unfold armSend disableIrq lockCar enableIrq unlockCar
  simp only [wlp_bind, wlp_emit]
  refine (sameSyncs_kept.armSendBody cmd).wlp fun _ w1 h1 => ?_
  simp [Grew, syncs_emit, h1, senderScript]

theorem armSendMulti_script {cmd : U32} {count : ℕ} {buf : CArray} {w : World} :
    (armSendMulti cmd count buf).wlp (fun _ w' => Grew syncs senderScript w w') w := by
  unfold armSendMulti disableIrq lockCar enableIrq unlockCar
  simp only [wlp_bind, wlp_emit, wlp_pure]
  refine (sameSyncs_kept.armSendMultiBody cmd count buf).wlp fun _ w1 h1 => ?_
  simp [Grew, syncs_emit, h1, senderScript]

theorem mtcCarWork_script {w : World} :
    mtcCarWork.wlp (fun _ w' => Grew syncs workScript w w') w := by
  unfold mtcCarWork lockCar enableIrq unlockCar
  simp only [wlp_bind, wlp_emit, wlp_udelay]
  refine sameSyncs_kept.mtcCarDrain.wlp fun _ w1 h1 => ?_
  simp [Grew, syncs_emit, h1, workScript]

end MtcDrivers
