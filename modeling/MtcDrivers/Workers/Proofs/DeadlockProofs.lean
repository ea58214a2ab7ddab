import MtcDrivers.WorkQueue.Proofs.RankProofs
import MtcDrivers.Workers.Scripts

/-!
# Proofs: nobody waits for itself

The queues and mutexes of the head unit have an order: `car_io_lock`, the audio work, the car work, the
capture work, and the work of the DVD drive. Every script waits only downwards.
-/

namespace MtcDrivers

open WorkQueue Found

/-- The order. The mutex of an item is just below its queue, and `car_ready` is below the car work. -/
def waitRank : Resource Queue Mutex → ℕ
  | .lock .carIoLock => 10
  | .queue .audioWq => 9
  | .lock .audioLock => 8
  | .queue .carWq => 7
  | .lock .carCmdLock => 6
  | .lock .carReady => 5
  | .queue .capWq => 4
  | .lock .backCmdLock => 3
  | .queue .dvdWq => 2
  | .queue .dvdRevWq => 1
  | .lock .dvdRevMutex => 0
  | .queue .afWq => 0

/-- The script waits only for what ranks below `n`. -/
abbrev Under (n : ℕ) (ops : Script) : Prop := Below headUnit waitRank n ops

/-! ## Adding work -/

theorem under_audioAddWork (f : Found) (cmd1 cmd2 : U32) : Under 0 (f.audioAddWork cmd1 cmd2) :=
  below_ite (below_queue _ below_nil) below_nil

theorem under_captureAddWork (cmd1 cmd2 : U32) (flush : Bool) : Under 5 (captureAddWork cmd1 cmd2 flush) :=
  below_queue _ (below_ite (below_flush (by decide) below_nil) below_nil)

theorem under_carAddWork (a1 a2 : U32) (flush : Bool) : Under 8 (Found.carAddWork a1 a2 flush) :=
  below_queue _ (below_ite (below_flush (by decide) below_nil) below_nil)

/-! ## DVD -/

theorem under_dvdPowerDown : Under 3 dvdPowerDown :=
  below_cancel (by decide) (below_cancel (by decide) (below_cancel (by decide)
    (below_flush (by decide) below_nil)))

theorem under_dvdPoweroff (f : Found) : Under 3 f.dvdPoweroff := below_ite under_dvdPowerDown below_nil

theorem under_dvdPower (f : Found) (pwr : Bool) : Under 3 (f.dvdPower pwr) :=
  below_ite (below_ite under_dvdPowerDown below_nil) (under_dvdPoweroff f)

theorem under_dvdAddWork (n : ℕ) : Under n dvdAddWork := below_queue _ below_nil

theorem under_dvdLabel36 (f : Found) : Under 3 f.dvdLabel36 :=
  below_cancel (by decide)
    (below_ite (below_cancel (by decide) (below_queue _ below_nil)) below_nil)

theorem under_dvdSelect (f : Found) (command : U32) : Under 3 (f.dvdSelect command) := by
  refine below_ite ((under_dvdAddWork 3).append (below_ite ?_ ?_)) below_nil
  · exact below_cancel (by decide) below_nil
  · exact below_cancel (by decide) (below_queue _ (below_cancel (by decide) below_nil))

theorem under_dvdSendCommandDirect (f : Found) (command : U32) :
    Under 3 (f.dvdSendCommandDirect command) := by
  have hcancel : ∀ i : Item, i.home = .dvdWq → Under 3 [.cancel i] := fun i hi =>
    below_cancel (by rw [show headUnit.home i = .dvdWq from hi]; decide) below_nil
  refine below_ite below_nil (below_ite (under_dvdAddWork 3) (below_ite (under_dvdLabel36 f) ?_))
  refine below_ite (hcancel _ rfl) (below_ite below_nil (below_ite ?_ ?_))
  · exact (hcancel .mediaIndexWork rfl).append (under_dvdAddWork 3)
  · exact below_ite (under_dvdAddWork 3) (under_dvdSelect f command)

theorem under_dvdSendCommand (f : Found) (command : U32) : Under 3 (f.dvdSendCommand command) := by
  refine below_ite (below_ite (below_ite ?_ (below_ite ?_ (below_ite ?_ ?_))) ?_) below_nil
  all_goals exact under_dvdSendCommandDirect f _

/-! ## The switches -/

theorem under_changeChannel (f : Found) (audioCh setCh : U32) : Under 5 (f.changeChannel audioCh setCh) := by
  have hpower : ∀ pwr, Under 5 (f.dvdPower pwr) := fun pwr => (under_dvdPower f pwr).mono (by decide)
  have hcommand : Under 5 (f.dvdSendCommand 0x30003) := (under_dvdSendCommand f _).mono (by decide)
  refine below_ite (below_ite (hpower false) below_nil) (below_ite below_nil ?_)
  refine Below.append (Below.append (Below.append ?_ ?_) (under_captureAddWork _ _ _)) ?_
  · exact below_ite hcommand below_nil
  · exact below_ite (hpower true) below_nil
  · exact below_ite (hpower false) below_nil

theorem under_enterSelected (f : Found) (audioCh setCh : U32) (mode : Bool) :
    Under 5 (f.enterSelected audioCh setCh mode) := by
  have hpower : ∀ pwr, Under 5 (f.dvdPower pwr) := fun pwr => (under_dvdPower f pwr).mono (by decide)
  refine below_ite below_nil (below_ite (below_ite below_nil ?_) (below_ite (hpower false) below_nil))
  exact below_ite (hpower true) (below_ite (hpower false) below_nil)

theorem under_enterChannel (f : Found) (setCh : U32) (mode : Bool) :
    Under 5 (f.enterChannel setCh mode) := by
  refine below_ite (under_enterSelected f _ _ _) (below_ite (below_ite below_nil ?_) ?_)
  · exact under_changeChannel f _ _
  · exact below_ite below_nil (under_changeChannel f _ _)

/-- The audio work waits for the car work, and for the DVD work. -/
theorem under_audioSwitch (f : Found) (cmd1 cmd2 : U32) : Under 8 (f.audioSwitch cmd1 cmd2) := by
  have henter : ∀ setCh mode, Under 8 (f.enterChannel setCh mode) := fun setCh mode =>
    (under_enterChannel f setCh mode).mono (by decide)
  unfold audioSwitch
  split
  · exact below_ite (henter _ _) below_nil
  · exact below_ite (henter _ _) below_nil
  · exact below_ite below_nil (below_ite (below_ite below_nil (under_carAddWork _ _ _))
      (under_carAddWork _ _ _))
  · exact below_ite (under_carAddWork _ _ _) below_nil
  · exact below_ite (under_carAddWork _ _ _) below_nil
  · exact below_nil

theorem under_powerSoftOff (f : Found) : Under 5 f.powerSoftOff := by
  refine below_ite ((under_captureAddWork _ _ _).append ?_) (under_captureAddWork _ _ _)
  exact (under_audioAddWork f _ _).mono (by decide)

/-- The switches of the backlight only add work. -/
theorem under_switchBacklight (f : Found) (n : ℕ) : Under n f.switchBacklight :=
  below_ite (below_queue _ below_nil) (below_queue _ below_nil)

/-- The car work waits for the capture work. -/
theorem under_carSwitch (f : Found) (cmd1 cmd2 : U32) : Under 5 (f.carSwitch cmd1 cmd2) := by
  have haudio : ∀ cmd1 cmd2, Under 5 (f.audioAddWork cmd1 cmd2) := fun cmd1 cmd2 =>
    (under_audioAddWork f cmd1 cmd2).mono (by decide)
  unfold carSwitch
  split
  · exact under_captureAddWork _ _ _
  · exact under_captureAddWork _ _ _
  · exact under_captureAddWork _ _ _
  · exact under_captureAddWork _ _ _
  · exact (below_ite (haudio _ _) below_nil).append (under_captureAddWork _ _ _)
  · exact below_ite (haudio _ _) below_nil
  · refine (below_ite ((haudio _ _).append ?_) ?_).append (below_ite ?_ below_nil)
    all_goals exact under_captureAddWork _ _ _
  · exact (below_ite (under_captureAddWork _ _ _) below_nil).append (under_powerSoftOff f)
  · refine (below_ite ?_ (below_ite ?_ below_nil)).append (under_powerSoftOff f)
    all_goals exact under_captureAddWork _ _ _
  · exact below_ite (under_switchBacklight f 5) below_nil
  · refine below_ite (below_ite (haudio _ _) below_nil) (below_ite (below_ite (haudio _ _) below_nil) ?_)
    exact below_ite (under_switchBacklight f 5) below_nil
  · exact below_nil

/-- The capture work waits for nobody. -/
theorem under_captureSwitch (f : Found) (cmd1 : U32) : Under 3 (f.captureSwitch cmd1) := by
  have haudio : ∀ cmd1 cmd2, Under 3 (f.audioAddWork cmd1 cmd2) := fun cmd1 cmd2 =>
    (under_audioAddWork f cmd1 cmd2).mono (by decide)
  unfold captureSwitch
  split
  · exact below_ite (haudio _ _) below_nil
  · exact below_ite (haudio _ _) below_nil
  · exact below_nil

/-- The radio work only adds work. -/
theorem under_workSignalLow (f : Found) : Under 0 f.workSignalLow :=
  (below_ite (under_audioAddWork f _ _) below_nil).append (below_ite (below_queue _ below_nil) below_nil)

theorem under_request (f : Found) (r : Request) : Under 10 (f.request r) := by
  have haudio : ∀ cmd1 cmd2, Under 10 (f.audioAddWork cmd1 cmd2) := fun cmd1 cmd2 =>
    (under_audioAddWork f cmd1 cmd2).mono (by decide)
  have hcapture : ∀ cmd1 cmd2 flush, Under 10 (captureAddWork cmd1 cmd2 flush) := fun cmd1 cmd2 flush =>
    (under_captureAddWork cmd1 cmd2 flush).mono (by decide)
  cases r with
  | version => exact below_nil
  | channel cmd1 avChannel =>
    have hflush : Under 10 audioFlushWork := below_flush (by decide) below_nil
    exact ((haudio _ _).append hflush).append (below_ite (haudio _ _) below_nil)
  | capture cmd1 avChannel => exact hcapture _ _ _
  | tvDemod val => exact below_ite (hcapture _ _ _) below_nil
  | dvdCmd command => exact (under_dvdSendCommand f command).mono (by decide)
  | frequency freq =>
    have hflush : Under 10 [.flush .afWq] := below_flush (by decide) below_nil
    refine (below_ite hflush below_nil).append (below_ite below_nil ?_)
    exact below_ite (haudio _ _) below_nil
  | add items =>
    induction items with
    | nil => exact below_nil
    | cons i items ih => exact below_queue i ih

/-! ## The scripts -/

theorem disciplined_item {q : Queue} : headUnit.Disciplined waitRank [.queue q] [] :=
  fun l hl => by simp at hl

theorem disciplined_dvdRevPart2 {q : Queue} {rest : Script} (hq : 0 < waitRank (.queue q)) (n : ℕ)
    (hrest : headUnit.Disciplined waitRank [.queue q] rest) :
    headUnit.Disciplined waitRank [.queue q] (dvdRevPart2 n ++ rest) := by
  have hwords : Under 0 (List.replicate n (.queue .cmdWork)) := by
    intro op hop
    rw [List.eq_of_mem_replicate hop]
    exact below_queue (n := 0) .cmdWork below_nil _ List.mem_cons_self
  have hscript : dvdRevPart2 n ++ rest =
      .lock .dvdRevMutex :: (List.replicate n (.queue .cmdWork) ++ .unlock .dvdRevMutex :: rest) := by
    simp [dvdRevPart2]
  rw [hscript]
  refine disciplined_section (fun r hr => ?_) hwords hrest
  rw [List.mem_singleton.mp hr]
  exact hq

theorem disciplined_cmdSend {q : Queue} {rest : Script} (hq : 0 < waitRank (.queue q)) (f : Found) (k : ℕ)
    (hrest : headUnit.Disciplined waitRank [.queue q] rest) :
    headUnit.Disciplined waitRank [.queue q] (f.cmdSend k ++ rest) := by
  have hlock : ∀ r ∈ [Resource.queue q], waitRank (.lock .dvdRevMutex) < waitRank r := by
    intro r hr
    rw [List.mem_singleton.mp hr]
    exact hq
  unfold cmdSend
  split
  · refine disciplined_section hlock below_nil ?_
    split
    · exact disciplined_dvdRevPart2 hq _ hrest
    · exact hrest
  · exact hrest

theorem disciplined_revWork (f : Found) : headUnit.Disciplined waitRank [.queue .dvdRevWq] f.revWork := by
  unfold revWork
  split
  · refine disciplined_dvdRevPart2 (by decide) _ ?_
    split
    · rw [← List.append_nil (dvdRevPart2 (f.words 1))]
      exact disciplined_dvdRevPart2 (by decide) _ disciplined_item
    · exact disciplined_item
  · exact disciplined_item

theorem disciplined_stopWork (f : Found) : headUnit.Disciplined waitRank [.queue .dvdWq] f.stopWork := by
  unfold stopWork
  split
  · rw [← List.append_nil (f.cmdSend 0)]
    exact disciplined_cmdSend (by decide) f 0 disciplined_item
  · exact disciplined_item

theorem disciplined_mediaIndexWork (f : Found) :
    headUnit.Disciplined waitRank [.queue .dvdWq] f.mediaIndexWork := by
  unfold mediaIndexWork
  split
  · exact disciplined_item
  · refine disciplined_cmdSend (by decide) f 1 ?_
    rw [← List.append_nil (f.cmdSend 4)]
    exact disciplined_cmdSend (by decide) f 4 disciplined_item

/-- An item that takes its mutex, and waits in it only for what is below. -/
theorem disciplined_locked {q : Queue} {l : Mutex} {ops : Script}
    (hq : waitRank (.lock l) < waitRank (.queue q)) (hbody : Under (waitRank (.lock l)) ops) :
    headUnit.Disciplined waitRank [.queue q] (.lock l :: (ops ++ [.unlock l])) := by
  refine disciplined_section (fun r hr => ?_) hbody disciplined_item
  rw [List.mem_singleton.mp hr]
  exact hq

/-- The car work also waits for the end of `car_probe`. -/
theorem disciplined_carWork (f : Found) (cmd1 cmd2 : U32) :
    headUnit.Disciplined waitRank [.queue .carWq] (f.carWork cmd1 cmd2) := by
  have hcmd : ∀ r ∈ [Resource.queue Queue.carWq], waitRank (.lock .carCmdLock) < waitRank r := by decide
  have hready : ∀ r ∈ [Resource.lock Mutex.carCmdLock, .queue .carWq],
      waitRank (.lock .carReady) < waitRank r := by decide
  have habove : ∀ r ∈ [Resource.lock Mutex.carCmdLock, .queue .carWq], 5 ≤ waitRank r := by decide
  refine disciplined_lock hcmd (disciplined_lock hready (disciplined_unlock hready ?_))
  exact (under_carSwitch f cmd1 cmd2).disciplined habove (disciplined_unlock hcmd disciplined_item)

theorem disciplined_nil : headUnit.Disciplined waitRank [] [] := fun _ hl => absurd hl List.not_mem_nil

theorem disciplined_script (f : Found) (i : Item) :
    headUnit.Disciplined waitRank [.queue i.home] (i.script f) := by
  cases i with
  | carWork cmd1 cmd2 => exact disciplined_carWork f cmd1 cmd2
  | audioWork cmd1 cmd2 => exact disciplined_locked (q := .audioWq) (by decide) (under_audioSwitch f cmd1 cmd2)
  | captureWork cmd1 cmd2 => exact disciplined_locked (q := .capWq) (by decide) (under_captureSwitch f cmd1)
  | captureCheckWork => exact disciplined_item
  | cmdWork => exact disciplined_item
  | stopWork => exact disciplined_stopWork f
  | mediaWork => exact disciplined_item
  | mediaIndexWork => exact disciplined_mediaIndexWork f
  | revWork => exact disciplined_revWork f
  | workSignalLow =>
    show headUnit.Disciplined waitRank [.queue .afWq] f.workSignalLow
    rw [← List.append_nil f.workSignalLow]
    exact (under_workSignalLow f).disciplined (fun r _ => Nat.zero_le _) disciplined_item
  | wipeCheckClearWork => exact disciplined_item

theorem disciplined_caller (f : Found) (t : Caller) (r : Request) :
    headUnit.Disciplined waitRank [] (t.script f r) := by
  have hnone : ∀ {l : Mutex}, ∀ r ∈ ([] : List (Resource Queue Mutex)), waitRank (.lock l) < waitRank r :=
    fun r hr => absurd hr List.not_mem_nil
  cases t with
  | ioctl n =>
    show headUnit.Disciplined waitRank [] (f.carIoctl r)
    unfold Found.carIoctl
    split
    · exact disciplined_nil
    · exact disciplined_section hnone (under_request f r) disciplined_nil
  | probe =>
    refine disciplined_section hnone ?_ disciplined_nil
    exact below_ite (under_captureAddWork _ _ _) below_nil
  | earlySuspend =>
    show headUnit.Disciplined waitRank [] f.dvdPoweroff
    rw [← List.append_nil f.dvdPoweroff]
    exact (under_dvdPoweroff f).disciplined (fun r hr => absurd hr List.not_mem_nil) disciplined_nil

/-- Every script of the head unit keeps the order. -/
theorem headUnit_ranked : headUnit.Ranked waitRank where
  work := by
    rintro i ops ⟨f, rfl⟩
    exact disciplined_script f i
  calls := by
    rintro t ops ⟨f, r, rfl⟩
    exact disciplined_caller f t r

/-- However requests, messages and items come: nobody waits for itself, directly or through others, and
    whoever waits does so, directly or through others, for somebody who waits for nobody. -/
theorem no_circular_wait (s : State Queue Mutex Item Caller) (h : headUnit.Reachable s) :
    (∀ a, ¬ Relation.TransGen (headUnit.WaitsFor s) a a) ∧
      ∀ a, ∃ b, Relation.ReflTransGen (headUnit.WaitsFor s) a b ∧ ∀ c, ¬ headUnit.WaitsFor s b c := by
  have horderly := orderly_reachable headUnit_ranked h
  exact ⟨horderly.acyclic, horderly.ends⟩

/-- The script of a request to switch the capture on. -/
def captureOn : Script := [.lock .carIoLock, .queue (.captureWork 48 2), .flush .capWq, .unlock .carIoLock]

theorem captureOn_calls (n : ℕ) : headUnit.calls (.ioctl n) captureOn := ⟨default, .capture 48 2, rfl⟩

/-- Two users switch the capture on: the second one waits for the first one, and this for its item. -/
theorem no_circular_wait_two : ∃ s, headUnit.Reachable s ∧
    headUnit.WaitsFor s (.caller (.ioctl 1)) (.caller (.ioctl 0)) ∧
    headUnit.WaitsFor s (.caller (.ioctl 0)) (.worker .capWq) ∧
    (∀ a, ¬ Relation.TransGen (headUnit.WaitsFor s) a a) ∧
      ∀ a, ∃ b, Relation.ReflTransGen (headUnit.WaitsFor s) a b ∧ ∀ c, ¬ headUnit.WaitsFor s b c := by
  have h1 : headUnit.Step State.idle _ := .call rfl (captureOn_calls 0)
  have h2 : headUnit.Step (State.idle.setScript (.caller (.ioctl 0)) captureOn) _ :=
    .call rfl (captureOn_calls 1)
  have hreach : headUnit.Reachable _ := (Relation.ReflTransGen.single h1).tail h2
  have hlock := hreach.tail (.act (a := .caller (.ioctl 0)) rfl rfl)
  have hqueue := hlock.tail (.act (a := .caller (.ioctl 0)) rfl rfl)
  have hflush := hqueue.tail (.act (a := .caller (.ioctl 0)) rfl rfl)
  have hstart := hflush.tail (.start (i := .captureWork 48 2) rfl rfl rfl ⟨default, rfl⟩)
  refine ⟨_, hstart, .lock rfl rfl, .await rfl ?_ rfl, no_circular_wait _ hstart⟩
  exact List.mem_cons_self

end MtcDrivers
