import Mathlib.Data.Set.List
import MtcDrivers.Dvd.Interrupt
import MtcDrivers.Dvd.Proofs.HandshakeProofs
import MtcDrivers.Workers.Scripts

/-!
# Proofs: the handshakes follow their scripts

Whatever the drive does: every run of `cmd_send` and `dvd_rev_part_2` does to the interrupt, to
`dvd_rev_mutex` and to the work queue what its tasks and its script say, in that order.
-/

namespace MtcDrivers

namespace Dvd

open Proc History

/-- Other threads can see the event. -/
def Event.shared : Event → Bool
  | .mutexLock => true
  | .mutexUnlock => true
  | .disableIrq => true
  | .enableIrq => true
  | .addWork _ _ => true
  | _ => false

/-- What other threads can see so far, newest first. -/
def shared (w : World) : List Event := w.log.filter (·.shared)

/-- Of what other threads can see, only events in `P` happened, and `dvd_power_on` was not read. -/
def Shows (P : Event → Prop) (w w' : World) : Prop := GrewWith shared P w w' ∧ w'.power = w.power

/-- An item that `dvd_rev_part_2` adds. -/
def IsWord (e : Event) : Prop := e ∈ Set.range (Event.addWork 5)

/-! ## Between lock and unlock -/

section Shows

variable {P : Event → Prop}

instance : Std.Refl (Shows P) := ⟨fun _ => ⟨GrewWith.of_eq rfl, rfl⟩⟩

instance : IsTrans World (Shows P) := by
  refine ⟨fun w w' w'' h h' => ⟨?_, h'.2.trans h.2⟩⟩
  exact (grewWith_isPreorder shared P).trans _ _ _ h.1 h'.1

theorem shows_emit {e : Event} (he : e.shared = false) : Respects (Shows P) (emit e) := by
  refine respects_modify fun w => ⟨GrewWith.of_eq ?_, rfl⟩
  simp [shared, he]

theorem shows_gpioGetValue (p : Gpio) : Respects (Shows P) (gpioGetValue p) := by
  refine respects_get.bind fun w => (respects_modify fun w' => ?_).bind fun _ => respects_pure _
  exact ⟨GrewWith.of_eq rfl, rfl⟩

theorem shows_gpioDirectionOutput (p : Gpio) (v : Bool) : Respects (Shows P) (gpioDirectionOutput p v) :=
  respects_modify fun _ => ⟨GrewWith.of_eq rfl, rfl⟩

theorem shows_gpioDirectionInput (p : Gpio) : Respects (Shows P) (gpioDirectionInput p) :=
  respects_modify fun _ => ⟨GrewWith.of_eq rfl, rfl⟩

theorem shows_tvUsec : Respects (Shows P) tvUsec := by
  have htime : Respects (Shows P) doGettimeofday := by
    refine respects_get.bind fun _ => (respects_modify fun w => ?_).bind fun _ => respects_pure _
    exact ⟨GrewWith.of_eq rfl, rfl⟩
  exact htime.bind fun _ => respects_pure _

theorem shows_waitFrom (timeout : ℤ) (p : Gpio) (level : Bool) :
    Respects (Shows P) (waitFrom timeout p level) := by
  have hcheck : Respects (Shows P) (checkTimeOut timeout) := shows_tvUsec.bind fun _ => respects_pure _
  refine Respects.repeatUntil ((shows_gpioGetValue p).bind fun v => (respects_pure _).ite ?_)
  exact hcheck.bind fun late => (respects_pure _).ite (respects_pure _)

theorem shows_waitLevel (p : Gpio) (level : Bool) : Respects (Shows P) (waitLevel p level) :=
  shows_tvUsec.bind fun _ => shows_waitFrom _ p level

/-- A wait and what is done in its two outcomes. -/
theorem shows_wait {α : Type} (p : Gpio) (level : Bool) {m k : Proc World α} (hm : Respects (Shows P) m)
    (hk : Respects (Shows P) k) :
    Respects (Shows P) (waitLevel p level >>= fun ok => if ok = true then m else k) :=
  (shows_waitLevel p level).bind fun _ => hm.ite hk

/-- An error is printed and a line let go. -/
theorem shows_error {α : Type} (text : ErrorText) (p : Gpio) (a : α) :
    Respects (Shows P) (do printk text; gpioDirectionInput p; return a) :=
  (shows_emit rfl).bind fun _ => (shows_gpioDirectionInput p).bind fun _ => respects_pure a

theorem shows_revBit (cmd : U32) (bitPos : ℕ) : Respects (Shows P) (revBit cmd bitPos) := by
  refine (shows_gpioDirectionOutput _ _).bind fun _ => shows_wait _ _ ?_ (shows_error _ _ _)
  refine (shows_gpioGetValue _).bind fun _ => (shows_gpioDirectionOutput _ _).bind fun _ => ?_
  exact shows_wait _ _ ((respects_pure _).ite (respects_pure _)) (shows_error _ _ _)

theorem shows_revEnd (cmd : U32) : Respects (Shows IsWord) (revEnd cmd) := by
  have hword : Respects (Shows IsWord) (dvdAddWork 5 cmd) :=
    respects_modify fun _ => ⟨GrewWith.of_cons rfl (Set.mem_range_self cmd), rfl⟩
  refine (shows_gpioDirectionInput _).bind fun _ => shows_wait _ _ ?_ ?_
  · refine (shows_gpioDirectionOutput _ _).bind fun _ => shows_wait _ _ ?_ (shows_error _ _ _)
    refine (shows_gpioDirectionInput _).bind fun _ => hword.bind fun _ => ?_
    exact (shows_gpioGetValue _).bind fun _ => (respects_pure _).ite (respects_pure _)
  · exact (shows_emit rfl).bind fun _ => respects_pure _

theorem shows_revWord : Respects (Shows IsWord) revWord := by
  have hbit : ∀ b : U32 × ℕ, Respects (Shows IsWord) (revBit b.1 b.2) := fun b => shows_revBit b.1 b.2
  refine (shows_gpioGetValue _).bind fun _ => (respects_pure _).ite ?_
  refine (shows_gpioDirectionOutput _ _).bind fun _ => shows_wait _ _ ?_ (shows_error _ _ _)
  refine (Respects.iter hbit _).bind fun word => ?_
  cases word with
  | none => exact respects_pure _
  | some cmd => exact shows_revEnd cmd

theorem shows_sendBit (cmd : U32) (bitPos : ℕ) : Respects (Shows P) (sendBit cmd bitPos) := by
  have herror : ∀ n, Respects (Shows P) (do
      printk (.dsnd n (some bitPos))
      gpioDirectionInput .stb
      gpioDirectionInput .data
      return (.inr false : ℕ ⊕ Bool)) := fun n =>
    (shows_emit rfl).bind fun _ => (shows_gpioDirectionInput _).bind fun _ =>
      (shows_gpioDirectionInput _).bind fun _ => respects_pure _
  refine (shows_gpioDirectionOutput _ _).bind fun _ => (shows_gpioDirectionOutput _ _).bind fun _ => ?_
  refine shows_wait _ _ ?_ (herror 2)
  refine (shows_gpioDirectionOutput _ _).bind fun _ => ?_
  exact shows_wait _ _ ((respects_pure _).ite (respects_pure _)) (herror 3)

/-- An error is printed and a line let go, at the end of a procedure. -/
theorem shows_lastError (text : ErrorText) (p : Gpio) :
    Respects (Shows P) (do printk text; gpioDirectionInput p) :=
  (shows_emit rfl).bind fun _ => shows_gpioDirectionInput p

theorem shows_sendEnd : Respects (Shows P) sendEnd := by
  refine (shows_gpioDirectionInput _).bind fun _ => (shows_gpioDirectionInput _).bind fun _ => ?_
  refine (shows_gpioDirectionOutput _ _).bind fun _ => shows_wait _ _ ?_ (shows_lastError _ _)
  refine (shows_gpioDirectionOutput _ _).bind fun _ => ?_
  exact shows_wait _ _ (shows_gpioDirectionInput _) (shows_lastError _ _)

theorem shows_sendCommand (cmd : U32) : Respects (Shows P) (sendCommand cmd) := by
  have hbits : Respects (Shows P) (sendBits cmd) := by
    refine Respects.ite ?_ shows_sendEnd
    exact (Respects.iter (shows_sendBit cmd) 0).bind fun _ => shows_sendEnd.ite (respects_pure _)
  refine (shows_gpioDirectionOutput _ _).bind fun _ => shows_tvUsec.bind fun _ => ?_
  refine (shows_waitFrom _ _ _).bind fun _ => Respects.ite ?_ (shows_lastError _ _)
  refine (shows_gpioDirectionOutput _ _).bind fun _ => ?_
  exact (shows_waitFrom _ _ _).bind fun _ => hbits.ite (shows_lastError _ _)

end Shows

/-! ## The whole procedures -/

theorem grew_shared {w w' : World} {e : Event} (hlog : w'.log = e :: w.log) (he : e.shared = true) :
    Grew shared [e] w w' := by
  refine grew_one ?_
  unfold shared
  rw [hlog, List.filter_cons_of_pos he]

/-- What `dvd_rev_part_2` shows when it adds these words. -/
def revShared (words : List U32) : List Event := .mutexLock :: (words.map (.addWork 5) ++ [.mutexUnlock])

theorem dvdRevPart2_shared {w : World} :
    dvdRevPart2.wlp (fun _ w' => ∃ words, Grew shared (revShared words) w w') w := by
  unfold dvdRevPart2
  rw [wlp_bind]
  refine wlp_mutexLock ?_
  have hlock : Grew shared [.mutexLock] w ((w.setLocked true).emit .mutexLock) := grew_shared rfl rfl
  rw [wlp_bind]
  refine (Respects.repeatUntil shows_revWord).wlp fun _ w1 h1 => ?_
  obtain ⟨⟨new, hnew, hwords⟩, _⟩ := h1
  obtain ⟨words, rfl⟩ : new ∈ Set.range (List.map (Event.addWork 5)) := by
    rw [Set.range_list_map]
    exact hwords
  simp only [wlp_bind, wlp_mutexUnlock, wlp_pure]
  have hunlock : Grew shared [.mutexUnlock] w1 ((w1.setLocked false).emit .mutexUnlock) := grew_shared rfl rfl
  exact ⟨words, hlock.trans (hnew.trans hunlock)⟩

/-- What the end of `cmd_send` shows when its reads of `dvd_power_on` find `power`. -/
def finishShared (power : Stream' Bool) (words : List U32) : List Event :=
  if power.head then .enableIrq :: if power.tail.head then revShared words else [] else []

theorem sendFinish_shared {w : World} :
    sendFinish.wlp (fun _ w' => ∃ words, Grew shared (finishShared w.power words) w w') w := by
  unfold sendFinish finishShared
  rw [wlp_bind, wlp_dvdPowerOn, wlp_ite]
  refine ⟨fun hon => ?_, fun hoff => ?_⟩
  · have henable : Grew shared [.enableIrq] w (w.popPower.emit .enableIrq).popPower := grew_shared rfl rfl
    simp only [if_pos hon]
    rw [wlp_bind, wlp_emit, wlp_bind, wlp_dvdPowerOn, wlp_ite]
    refine ⟨fun (hon' : w.power.tail.head = true) => ?_, fun (hoff' : ¬ w.power.tail.head = true) => ?_⟩
    · simp only [if_pos hon']
      rw [wlp_bind]
      refine wlp_mono dvdRevPart2_shared fun _ w' h => wlp_pure.mpr ?_
      obtain ⟨words, hwords⟩ := h
      exact ⟨words, henable.trans hwords⟩
    · simp only [if_neg hoff']
      exact wlp_pure.mpr ⟨[], henable⟩
  · simp only [if_neg hoff]
    exact wlp_pure.mpr ⟨[], grew_refl _⟩

/-- What `cmd_send` shows when its reads of `dvd_power_on` find `power`. -/
def sendShared (power : Stream' Bool) (words : List U32) : List Event :=
  .disableIrq ::
    if power.head then .mutexLock :: .mutexUnlock :: finishShared power.tail words else []

theorem cmdSend_shared (cmd : U32) {w : World} :
    (cmdSend cmd).wlp (fun _ w' => ∃ words, Grew shared (sendShared w.power words) w w') w := by
  unfold cmdSend sendShared
  rw [wlp_bind, wlp_emit, wlp_bind, wlp_dvdPowerOn, wlp_ite]
  have hdisable : Grew shared [.disableIrq] w (w.emit .disableIrq).popPower := grew_shared rfl rfl
  refine ⟨fun (hon : w.power.head = true) => ?_, fun (hoff : ¬ w.power.head = true) => ?_⟩
  · simp only [if_pos hon]
    rw [wlp_bind]
    refine wlp_mutexLock ?_
    have hlock : Grew shared [.disableIrq, .mutexLock] w
        (((w.emit .disableIrq).popPower.setLocked true).emit .mutexLock) :=
      hdisable.trans (grew_shared rfl rfl)
    rw [wlp_bind]
    refine (shows_sendCommand (P := fun _ => False) cmd).wlp fun _ w1 h1 => ?_
    obtain ⟨⟨new, hnew, hnone⟩, hpower⟩ := h1
    obtain rfl := List.eq_nil_iff_forall_not_mem.mpr hnone
    have hunlock : Grew shared [.mutexUnlock] w1 ((w1.setLocked false).emit .mutexUnlock) :=
      grew_shared rfl rfl
    rw [wlp_bind, wlp_mutexUnlock]
    refine wlp_mono sendFinish_shared fun _ w' h => ?_
    obtain ⟨words, hwords⟩ := h
    have hrest : ((w1.setLocked false).emit .mutexUnlock).power = w.power.tail := hpower
    rw [hrest] at hwords
    exact ⟨words, ((hlock.trans hnew).trans hunlock).trans hwords⟩
  · simp only [if_neg hoff]
    exact wlp_pure.mpr ⟨[], hdisable⟩

/-! ## The tasks -/

/-- The operation of an event on the interrupt or the mutex. -/
def Event.sync : Event → Option SyncOp
  | .mutexLock => some .mutexLock
  | .mutexUnlock => some .mutexUnlock
  | .disableIrq => some .disableIrq
  | .enableIrq => some .enableIrq
  | _ => none

/-- A thread does these operations for its tasks when its reads of `dvd_power_on` find `power`. -/
inductive Does : Stream' Bool → List Task → List SyncOp → Prop
  | done (power : Stream' Bool) : Does power [] []
  | sync {power : Stream' Bool} {rest : List Task} {ops : List SyncOp} (op : SyncOp)
      (h : Does power rest ops) : Does power (.sync op :: rest) (op :: ops)
  | on {power : Stream' Bool} {rest : List Task} {ops : List SyncOp} (hon : power.head = true)
      (h : Does power.tail rest ops) : Does power (.ifOn :: rest) ops
  | off {power : Stream' Bool} {rest : List Task} (hoff : ¬ power.head = true) :
      Does power (.ifOn :: rest) []

theorem does_revPart2 (power : Stream' Bool) (words : List U32) :
    Does power revPart2Tasks ((revShared words).filterMap Event.sync) := by
  have hops : (revShared words).filterMap Event.sync = [.mutexLock, .mutexUnlock] := by
    simp [revShared, Event.sync]
  rw [hops]
  exact .sync _ (.sync _ (.done power))

theorem does_sendFinish (power : Stream' Bool) (words : List U32) :
    Does power (.ifOn :: .sync .enableIrq :: .ifOn :: revPart2Tasks)
      ((finishShared power words).filterMap Event.sync) := by
  unfold finishShared
  split
  · refine .on ‹_› (.sync _ ?_)
    split
    · exact .on ‹_› (does_revPart2 _ words)
    · exact .off ‹_›
  · exact .off ‹_›

theorem does_cmdSend (power : Stream' Bool) (words : List U32) :
    Does power cmdSendTasks ((sendShared power words).filterMap Event.sync) := by
  refine .sync .disableIrq ?_
  split
  · exact .on ‹_› (.sync _ (.sync _ (does_sendFinish _ words)))
  · exact .off ‹_›

/-- A view of the log that leaves out what nobody else can see. -/
theorem grew_view {β : Type} {view : Event → Option β} (hview : ∀ e, e.shared = false → view e = none)
    {w w' : World} {new : List Event} (h : Grew shared new w w') :
    Grew (fun w => w.log.filterMap view) (new.filterMap view) w w' := by
  have hlog : ∀ log : List Event, (log.filter (·.shared)).filterMap view = log.filterMap view := by
    intro log
    rw [List.filterMap_filter]
    congr 1
    funext e
    cases he : e.shared with
    | true => rfl
    | false => exact (hview e he).symm
  have hnew := congrArg (List.filterMap view) h
  rw [List.filterMap_append, List.filterMap_reverse] at hnew
  simp only [shared, hlog] at hnew
  exact hnew

theorem sync_eq_none (e : Event) (h : e.shared = false) : e.sync = none := by
  cases e with
  | level p v => rfl
  | directionOutput p v => rfl
  | directionInput p => rfl
  | printk text => rfl
  | _ => cases h

/-- The operations on the interrupt and the mutex so far, newest first. -/
def syncs (w : World) : List SyncOp := w.log.filterMap Event.sync

/-- `cmd_send` does its tasks, as far as it finds the drive on. -/
theorem cmdSend_tasks (cmd : U32) {w : World} :
    (cmdSend cmd).wlp (fun _ w' => ∃ ops, Does w.power cmdSendTasks ops ∧ Grew syncs ops w w') w := by
  refine wlp_mono (cmdSend_shared cmd) ?_
  rintro _ w' ⟨words, h⟩
  exact ⟨_, does_cmdSend w.power words, grew_view sync_eq_none h⟩

theorem dvdRevPart2_tasks {w : World} :
    dvdRevPart2.wlp (fun _ w' => ∃ ops, Does w.power revPart2Tasks ops ∧ Grew syncs ops w w') w := by
  refine wlp_mono dvdRevPart2_shared ?_
  rintro _ w' ⟨words, h⟩
  exact ⟨_, does_revPart2 w.power words, grew_view sync_eq_none h⟩

/-! ## The scripts -/

/-- The operation of an event on the mutex or the work queue. -/
def Event.op : Event → Option (WorkQueue.Op Queue Mutex Item)
  | .mutexLock => some (.lock .dvdRevMutex)
  | .mutexUnlock => some (.unlock .dvdRevMutex)
  | .addWork _ _ => some (.queue .cmdWork)
  | _ => none

/-- The operations on the mutex and the work queue so far, newest first. -/
def ops (w : World) : Script := w.log.filterMap Event.op

theorem op_eq_none (e : Event) (h : e.shared = false) : e.op = none := by
  cases e with
  | level p v => rfl
  | directionOutput p v => rfl
  | directionInput p => rfl
  | printk text => rfl
  | _ => cases h

theorem op_revShared (words : List U32) :
    (revShared words).filterMap Event.op = Found.dvdRevPart2 words.length := by
  have hop : Event.op ∘ Event.addWork 5 = some ∘ fun _ => .queue .cmdWork := rfl
  have hwords : (words.map (Event.addWork 5)).filterMap Event.op =
      List.replicate words.length (.queue .cmdWork) := by
    rw [List.filterMap_map, hop, List.filterMap_eq_map, List.map_const']
  simp only [revShared, Found.dvdRevPart2, List.filterMap_cons, List.filterMap_append, List.filterMap_nil,
    Event.op, hwords]

/-- A run whose reads of `dvd_power_on` find `power`, and that takes `n` words at its end. -/
def foundBy (power : Stream' Bool) (n : ℕ) : Found :=
  { (default : Found) with dvdPowerOn := power.get, words := fun _ => n }

theorem op_finishShared (power : Stream' Bool) (words : List U32) :
    (finishShared power words).filterMap Event.op =
      if power.head ∧ power.tail.head then Found.dvdRevPart2 words.length else [] := by
  unfold finishShared
  by_cases h0 : power.head = true
  · by_cases h1 : power.tail.head = true
    · rw [if_pos h0, if_pos h1, if_pos ⟨h0, h1⟩, ← op_revShared]
      rfl
    · rw [if_pos h0, if_neg h1, if_neg fun h => h1 h.2]
      rfl
  · rw [if_neg h0, if_neg fun h => h0 h.1]
    rfl

theorem op_sendShared (power : Stream' Bool) (words : List U32) :
    (sendShared power words).filterMap Event.op = (foundBy power words.length).cmdSend 0 := by
  show (if power.head then Event.mutexLock :: Event.mutexUnlock :: finishShared power.tail words
      else []).filterMap Event.op = if power.head then .lock .dvdRevMutex :: .unlock .dvdRevMutex ::
        if power.tail.head ∧ power.tail.tail.head then Found.dvdRevPart2 words.length else [] else []
  rw [← op_finishShared]
  split
  · rfl
  · rfl

/-- The script of `cmd_send` is what it does in the queues, for a run that finds the same. -/
theorem cmdSend_script (cmd : U32) {w : World} :
    (cmdSend cmd).wlp (fun _ w' => ∃ f : Found, (∀ n, f.dvdPowerOn n = w.power.get n) ∧
      Grew ops (f.cmdSend 0) w w') w := by
  refine wlp_mono (cmdSend_shared cmd) ?_
  rintro _ w' ⟨words, h⟩
  refine ⟨foundBy w.power words.length, fun _ => rfl, ?_⟩
  rw [← op_sendShared]
  exact grew_view op_eq_none h

theorem dvdRevPart2_script {w : World} :
    dvdRevPart2.wlp (fun _ w' => ∃ n, Grew ops (Found.dvdRevPart2 n) w w') w := by
  refine wlp_mono dvdRevPart2_shared ?_
  rintro _ w' ⟨words, h⟩
  refine ⟨words.length, ?_⟩
  rw [← op_revShared]
  exact grew_view op_eq_none h

end Dvd

end MtcDrivers
