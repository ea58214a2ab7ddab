import MtcDrivers.Proc.Proofs.WlpProofs
import MtcDrivers.Link.Send

/-!
# Proofs: the primitives of the link

The fields that each primitive leaves alone, inversion of `Ends` and the preconditions of the
primitives, the contents of received arrays, and what debounced reads and waits do.
-/

namespace MtcDrivers

open Proc

/-! ## Fields after a primitive -/

namespace World

@[simp] theorem emit_levels (w : World) (e : Event) : (w.emit e).levels = w.levels := rfl
@[simp] theorem emit_clock (w : World) (e : Event) : (w.emit e).clock = w.clock := rfl
@[simp] theorem emit_frames (w : World) (e : Event) : (w.emit e).frames = w.frames := rfl
@[simp] theorem emit_pads (w : World) (e : Event) : (w.emit e).pads = w.pads := rfl
@[simp] theorem emit_car (w : World) (e : Event) : (w.emit e).car = w.car := rfl
@[simp] theorem emit_log (w : World) (e : Event) : (w.emit e).log = e :: w.log := rfl

@[simp] theorem setPad_levels (w : World) (p : Gpio) (d : Pad) :
    (w.setPad p d).levels = w.levels := rfl
@[simp] theorem setPad_clock (w : World) (p : Gpio) (d : Pad) :
    (w.setPad p d).clock = w.clock := rfl
@[simp] theorem setPad_frames (w : World) (p : Gpio) (d : Pad) :
    (w.setPad p d).frames = w.frames := rfl
@[simp] theorem setPad_pads (w : World) (p : Gpio) (d : Pad) :
    (w.setPad p d).pads = Function.update w.pads p d := rfl
@[simp] theorem setPad_car (w : World) (p : Gpio) (d : Pad) : (w.setPad p d).car = w.car := rfl
@[simp] theorem setPad_log (w : World) (p : Gpio) (d : Pad) : (w.setPad p d).log = w.log := rfl

@[simp] theorem popLevel_levels (w : World) (p : Gpio) :
    (w.popLevel p).levels = Function.update w.levels p (w.levels p).tail := rfl
@[simp] theorem popLevel_clock (w : World) (p : Gpio) : (w.popLevel p).clock = w.clock := rfl
@[simp] theorem popLevel_frames (w : World) (p : Gpio) : (w.popLevel p).frames = w.frames := rfl
@[simp] theorem popLevel_pads (w : World) (p : Gpio) : (w.popLevel p).pads = w.pads := rfl
@[simp] theorem popLevel_car (w : World) (p : Gpio) : (w.popLevel p).car = w.car := rfl
@[simp] theorem popLevel_log (w : World) (p : Gpio) : (w.popLevel p).log = w.log := rfl

@[simp] theorem popClock_levels (w : World) : (w.popClock).levels = w.levels := rfl
@[simp] theorem popClock_clock (w : World) : (w.popClock).clock = w.clock.tail := rfl
@[simp] theorem popClock_frames (w : World) : (w.popClock).frames = w.frames := rfl
@[simp] theorem popClock_pads (w : World) : (w.popClock).pads = w.pads := rfl
@[simp] theorem popClock_car (w : World) : (w.popClock).car = w.car := rfl
@[simp] theorem popClock_log (w : World) : (w.popClock).log = w.log := rfl

@[simp] theorem popFrame_levels (w : World) : (w.popFrame).levels = w.levels := rfl
@[simp] theorem popFrame_clock (w : World) : (w.popFrame).clock = w.clock := rfl
@[simp] theorem popFrame_frames (w : World) : (w.popFrame).frames = w.frames.tail := rfl
@[simp] theorem popFrame_pads (w : World) : (w.popFrame).pads = w.pads := rfl
@[simp] theorem popFrame_car (w : World) : (w.popFrame).car = w.car := rfl
@[simp] theorem popFrame_log (w : World) : (w.popFrame).log = w.log := rfl

@[simp] theorem modifyCar_levels (w : World) (f : CarStruct → CarStruct) :
    (w.modifyCar f).levels = w.levels := rfl
@[simp] theorem modifyCar_clock (w : World) (f : CarStruct → CarStruct) :
    (w.modifyCar f).clock = w.clock := rfl
@[simp] theorem modifyCar_frames (w : World) (f : CarStruct → CarStruct) :
    (w.modifyCar f).frames = w.frames := rfl
@[simp] theorem modifyCar_pads (w : World) (f : CarStruct → CarStruct) :
    (w.modifyCar f).pads = w.pads := rfl
@[simp] theorem modifyCar_car (w : World) (f : CarStruct → CarStruct) :
    (w.modifyCar f).car = f w.car := rfl
@[simp] theorem modifyCar_log (w : World) (f : CarStruct → CarStruct) :
    (w.modifyCar f).log = w.log := rfl

end World

/-! ## Runs of the primitives -/

@[simp] theorem ends_emit {e : Event} {w w' : World} {u : Unit} :
    (emit e).Ends w u w' ↔ w' = w.emit e := by
  simp [emit]

@[simp] theorem ends_modifyCar {f : CarStruct → CarStruct} {w w' : World} {u : Unit} :
    (modifyCar f).Ends w u w' ↔ w' = w.modifyCar f := by
  simp [modifyCar]

@[simp] theorem ends_modifyStatus {f : CarStatus → CarStatus} {w w' : World} {u : Unit} :
    (modifyStatus f).Ends w u w' ↔ w' = w.modifyCar fun c => { c with status := f c.status } := by
  simp [modifyStatus]

@[simp] theorem ends_printk {fmt : String} {args : List ℕ} {w w' : World} {u : Unit} :
    (printk fmt args).Ends w u w' ↔ w' = w.emit (.printk fmt args) := by
  simp [printk]

@[simp] theorem ends_udelay {n : ℕ} {w w' : World} {u : Unit} :
    (udelay n).Ends w u w' ↔ w' = w := by
  simp [udelay]

@[simp] theorem ends_gpioGetValue {p : Gpio} {w w' : World} {v : Bool} :
    (gpioGetValue p).Ends w v w' ↔ v = (w.levels p).head ∧ w' = w.popLevel p := by
  simp [gpioGetValue, and_assoc]

@[simp] theorem ends_gpioSetValue {p : Gpio} {v : Bool} {w w' : World} {u : Unit} :
    (gpioSetValue p v).Ends w u w' ↔
      w' = (w.setPad p { w.pads p with latch := v }).emit (.setValue p v) := by
  simp [gpioSetValue]

@[simp] theorem ends_gpioDirectionOutput {p : Gpio} {v : Bool} {w w' : World} {u : Unit} :
    (gpioDirectionOutput p v).Ends w u w' ↔
      w' = (w.setPad p ⟨true, v⟩).emit (.directionOutput p v) := by
  simp [gpioDirectionOutput]

@[simp] theorem ends_gpioDirectionInput {p : Gpio} {w w' : World} {u : Unit} :
    (gpioDirectionInput p).Ends w u w' ↔
      w' = (w.setPad p { w.pads p with isOutput := false }).emit (.directionInput p) := by
  simp [gpioDirectionInput]

@[simp] theorem ends_popFrame {f : Frame} {w w' : World} :
    popFrame.Ends w f w' ↔ f = w.frames.head ∧ w' = w.popFrame := by
  simp [popFrame, and_assoc]

@[simp] theorem ends_getCurTimer {t : ℤ} {w w' : World} :
    getCurTimer.Ends w t w' ↔ t = ((w.clock.head % 1000000 : ℕ) : ℤ) ∧ w' = w.popClock := by
  simp [getCurTimer, doGettimeofday, and_assoc]

@[simp] theorem ends_checkTimeOut {t : ℤ} {b : Bool} {w w' : World} :
    (checkTimeOut t).Ends w b w' ↔
      b = timedOut t ((w.clock.head % 1000000 : ℕ) : ℤ) ∧ w' = w.popClock := by
  simp [checkTimeOut, doGettimeofday, and_assoc]

/-! ## Preconditions of the primitives -/

section Preconditions

variable {w : World}

@[simp] theorem wlp_emit {e : Event} {Q : Unit → World → Prop} :
    (emit e).wlp Q w ↔ Q () (w.emit e) := wlp_modify

@[simp] theorem wlp_modifyCar {f : CarStruct → CarStruct} {Q : Unit → World → Prop} :
    (modifyCar f).wlp Q w ↔ Q () (w.modifyCar f) := wlp_modify

@[simp] theorem wlp_printk {fmt : String} {args : List ℕ} {Q : Unit → World → Prop} :
    (printk fmt args).wlp Q w ↔ Q () (w.emit (.printk fmt args)) := wlp_modify

@[simp] theorem wlp_udelay {n : ℕ} {Q : Unit → World → Prop} :
    (udelay n).wlp Q w ↔ Q () w := wlp_pure

@[simp] theorem wlp_popFrame {Q : Frame → World → Prop} :
    popFrame.wlp Q w ↔ Q w.frames.head w.popFrame := by
  simp [popFrame]

@[simp] theorem wlp_modifyStatus {f : CarStatus → CarStatus} {Q : Unit → World → Prop} :
    (modifyStatus f).wlp Q w ↔ Q () (w.modifyCar fun c => { c with status := f c.status }) :=
  wlp_modify

@[simp] theorem wlp_gpioGetValue {p : Gpio} {Q : Bool → World → Prop} :
    (gpioGetValue p).wlp Q w ↔ Q (w.levels p).head (w.popLevel p) := by
  simp [gpioGetValue]

@[simp] theorem wlp_getCurTimer {Q : ℤ → World → Prop} :
    getCurTimer.wlp Q w ↔ Q ((w.clock.head % 1000000 : ℕ) : ℤ) w.popClock := by
  simp [getCurTimer, doGettimeofday]

@[simp] theorem wlp_checkTimeOut {t : ℤ} {Q : Bool → World → Prop} :
    (checkTimeOut t).wlp Q w ↔ Q (timedOut t ((w.clock.head % 1000000 : ℕ) : ℤ)) w.popClock := by
  simp [checkTimeOut, doGettimeofday]

@[simp] theorem wlp_gpioSetValue {p : Gpio} {v : Bool} {Q : Unit → World → Prop} :
    (gpioSetValue p v).wlp Q w ↔
      Q () ((w.setPad p { w.pads p with latch := v }).emit (.setValue p v)) := by
  simp [gpioSetValue]

@[simp] theorem wlp_gpioDirectionOutput {p : Gpio} {v : Bool} {Q : Unit → World → Prop} :
    (gpioDirectionOutput p v).wlp Q w ↔
      Q () ((w.setPad p ⟨true, v⟩).emit (.directionOutput p v)) := by
  simp [gpioDirectionOutput]

@[simp] theorem wlp_gpioDirectionInput {p : Gpio} {Q : Unit → World → Prop} :
    (gpioDirectionInput p).wlp Q w ↔
      Q () ((w.setPad p { w.pads p with isOutput := false }).emit (.directionInput p)) := by
  simp [gpioDirectionInput]

@[simp] theorem wp_emit {e : Event} {Q : Unit → World → Prop} :
    (emit e).wp Q w ↔ Q () (w.emit e) := wp_modify

@[simp] theorem wp_modifyCar {f : CarStruct → CarStruct} {Q : Unit → World → Prop} :
    (modifyCar f).wp Q w ↔ Q () (w.modifyCar f) := wp_modify

@[simp] theorem wp_printk {fmt : String} {args : List ℕ} {Q : Unit → World → Prop} :
    (printk fmt args).wp Q w ↔ Q () (w.emit (.printk fmt args)) := wp_modify

@[simp] theorem wp_udelay {n : ℕ} {Q : Unit → World → Prop} :
    (udelay n).wp Q w ↔ Q () w := wp_pure

@[simp] theorem wp_popFrame {Q : Frame → World → Prop} :
    popFrame.wp Q w ↔ Q w.frames.head w.popFrame := by
  simp [popFrame]

@[simp] theorem wp_modifyStatus {f : CarStatus → CarStatus} {Q : Unit → World → Prop} :
    (modifyStatus f).wp Q w ↔ Q () (w.modifyCar fun c => { c with status := f c.status }) :=
  wp_modify

@[simp] theorem wp_gpioGetValue {p : Gpio} {Q : Bool → World → Prop} :
    (gpioGetValue p).wp Q w ↔ Q (w.levels p).head (w.popLevel p) := by
  simp [gpioGetValue]

@[simp] theorem wp_getCurTimer {Q : ℤ → World → Prop} :
    getCurTimer.wp Q w ↔ Q ((w.clock.head % 1000000 : ℕ) : ℤ) w.popClock := by
  simp [getCurTimer, doGettimeofday]

@[simp] theorem wp_checkTimeOut {t : ℤ} {Q : Bool → World → Prop} :
    (checkTimeOut t).wp Q w ↔ Q (timedOut t ((w.clock.head % 1000000 : ℕ) : ℤ)) w.popClock := by
  simp [checkTimeOut, doGettimeofday]

@[simp] theorem wp_gpioSetValue {p : Gpio} {v : Bool} {Q : Unit → World → Prop} :
    (gpioSetValue p v).wp Q w ↔
      Q () ((w.setPad p { w.pads p with latch := v }).emit (.setValue p v)) := by
  simp [gpioSetValue]

@[simp] theorem wp_gpioDirectionOutput {p : Gpio} {v : Bool} {Q : Unit → World → Prop} :
    (gpioDirectionOutput p v).wp Q w ↔
      Q () ((w.setPad p ⟨true, v⟩).emit (.directionOutput p v)) := by
  simp [gpioDirectionOutput]

@[simp] theorem wp_gpioDirectionInput {p : Gpio} {Q : Unit → World → Prop} :
    (gpioDirectionInput p).wp Q w ↔
      Q () ((w.setPad p { w.pads p with isOutput := false }).emit (.directionInput p)) := by
  simp [gpioDirectionInput]

end Preconditions

/-! ## Received arrays -/

theorem receive_val {a : CArray} {off : ℕ} {data : List U8} {i : ℕ} :
    (a.receive off data).val i =
      if off ≤ i ∧ i - off < data.length then data.getD (i - off) 0 else a.val i := by
  induction data generalizing a off with
  | nil => simp [CArray.receive]
  | cons b data ih =>
    rw [CArray.receive, ih]
    by_cases hi : i = off
    · subst hi
      have hno : ¬ (i + 1 ≤ i ∧ i - (i + 1) < data.length) := by omega
      rw [if_neg hno]
      simp
    · by_cases hin : off + 1 ≤ i ∧ i - (off + 1) < data.length
      · have hin' : off ≤ i ∧ i - off < (b :: data).length := by simp; omega
        have hidx : i - off = (i - (off + 1)) + 1 := by omega
        rw [if_pos hin, if_pos hin', hidx, List.getD_cons_succ]
      · have hin' : ¬ (off ≤ i ∧ i - off < (b :: data).length) := by simp; omega
        rw [if_neg hin, if_neg hin']
        simp [Function.update, hi]

theorem receive_map (a : CArray) (off : ℕ) (data : List U8) :
    (List.range data.length).map (fun i => (a.receive off data).val (off + i)) = data := by
  refine List.ext_getElem (by simp) fun i h1 h2 => ?_
  have hin : off ≤ off + i ∧ off + i - off < data.length := by omega
  rw [List.getElem_map, List.getElem_range, receive_val, if_pos hin, Nat.add_sub_cancel_left]
  exact (List.getElem_eq_getD 0).symm

theorem receive_rcvd {a : CArray} {off : ℕ} {data : List U8} {i : ℕ} :
    (a.receive off data).rcvd i = (decide (off ≤ i ∧ i < off + data.length) || a.rcvd i) := by
  induction data generalizing a off with
  | nil =>
    have hno : ¬ (off ≤ i ∧ i < off + ([] : List U8).length) := by
      simp only [List.length_nil]
      omega
    simp only [CArray.receive, hno, decide_false, Bool.false_or]
  | cons b data ih =>
    rw [CArray.receive, ih]
    by_cases hi : i = off
    · subst hi
      simp
    · have hiff : (off + 1 ≤ i ∧ i < off + 1 + data.length) ↔
          (off ≤ i ∧ i < off + (b :: data).length) := by
        simp only [List.length_cons]
        omega
      simp only [hiff, Function.update, hi, dite_false]

/-! ## Reads and waits -/

/-- A preorder on worlds that holds across reads of the pin `p` and of the clock. -/
structure KeptByReads (p : Gpio) (R : World → World → Prop) : Prop extends IsPreorder World R where
  level : ∀ w, R w (w.popLevel p)
  clock : ∀ w, R w w.popClock
  seen : ∀ w v, R w (w.emit (.level p v))

namespace KeptByReads

variable {p : Gpio} {R : World → World → Prop} (k : KeptByReads p R)

include k

theorem doGettimeofday : Respects R MtcDrivers.doGettimeofday :=
  have := k.toIsPreorder
  respects_get.bind fun _ => (respects_modify k.clock).bind fun _ => respects_pure _

theorem gpioGetValue : Respects R (MtcDrivers.gpioGetValue p) :=
  have := k.toIsPreorder
  respects_get.bind fun _ => (respects_modify k.level).bind fun _ => respects_pure _

theorem readSettled (delay : ℕ) : Respects R (MtcDrivers.readSettled delay p) := by
  have := k.toIsPreorder
  refine Respects.bind (Respects.repeatUntil ?_) fun v =>
    (respects_modify fun w => k.seen w v).bind fun _ => respects_pure _
  refine k.gpioGetValue.bind fun _ => ?_
  refine (respects_pure _).bind fun _ => k.gpioGetValue.bind fun _ => ?_
  exact Respects.ite (respects_pure _) (respects_pure _)

theorem waitLevel (delay : ℕ) (level : Bool) :
    Respects R (MtcDrivers.waitLevel (MtcDrivers.readSettled delay p) level) := by
  have := k.toIsPreorder
  refine (k.doGettimeofday.bind fun _ => respects_pure _).bind fun t => ?_
  refine Respects.repeatUntil ((k.readSettled delay).bind fun _ =>
    Respects.ite (respects_pure _) ?_)
  exact (k.doGettimeofday.bind fun _ => respects_pure _).bind fun _ =>
    Respects.ite (respects_pure _) (respects_pure _)

theorem spinUntil (delay : ℕ) (level : Bool) :
    Respects R (MtcDrivers.spinUntil (MtcDrivers.readSettled delay p) level) :=
  have := k.toIsPreorder
  Respects.repeatUntil ((k.readSettled delay).bind fun _ =>
    Respects.ite (respects_pure _) (respects_pure _))

end KeptByReads

/-- A settled read adds its level to the log, and nothing else. -/
theorem readSettled_log {delay : ℕ} {p : Gpio} {w : World} :
    (readSettled delay p).wlp (fun v w' => w'.log = .level p v :: w.log) w := by
  unfold readSettled gpioGetValue
  rw [wlp_bind]
  refine wlp_repeatUntil (fun w' => w'.log = w.log) (fun w1 h1 => ?_) rfl
  simpa using h1

/-- A successful wait ends with the level it waited for. -/
theorem waitLevel_head {delay : ℕ} {p : Gpio} {level : Bool} {w : World} :
    (waitLevel (readSettled delay p) level).wlp
      (fun ok w' => ok = true → w'.log.head? = some (.level p level)) w := by
  unfold waitLevel
  rw [wlp_bind]
  refine fun t w1 _ => wlp_repeatUntil (fun _ => True) (fun w2 _ => ?_) trivial
  rw [wlp_bind]
  refine wlp_mono readSettled_log fun v w3 h3 => ?_
  rw [wlp_ite]
  constructor
  · rintro rfl
    simp [h3]
  · intro _
    rw [wlp_bind]
    intro late w4 _
    cases late <;> simp

end MtcDrivers
