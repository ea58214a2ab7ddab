import MtcDrivers.Car.Status
import MtcDrivers.Ioctl.Proofs.AnswerProofs
import MtcDrivers.Link.Proofs.PeerProofs
import MtcDrivers.Link.Proofs.StatusProofs

/-!
# When the getters agree with the events

The events follow the bytes of the messages in every run, and so do the bits that the getters read. The
answers do not: what a getter of the status byte reports is what earlier requests have left in `mtc_sta_buf`.
-/

namespace MtcDrivers

open Proc

/-! ## The last event -/

/-- Only the events of the status byte count. -/
theorem lastEvent_filter (k : StatusKind) (log : List Event) :
    lastEvent k (log.filter Event.isStatus) = lastEvent k log := by
  induction log with
  | nil => rfl
  | cons e log ih =>
    by_cases he : e.isStatus = true
    · rw [List.filter_cons_of_pos he]
      unfold lastEvent at ih ⊢
      rw [List.findSome?_cons, List.findSome?_cons, ih]
    · have hnone : e.byteOf k = none := by
        cases e with
        | vsSend port cmd data =>
          refine if_neg ?_
          rintro ⟨rfl, rfl⟩
          cases k <;> exact he rfl
        | _ => rfl
      rw [List.filter_cons_of_neg he, ih]
      unfold lastEvent
      rw [List.findSome?_cons, hnone]

/-- A message reports a kind exactly if its bit has changed. -/
theorem lastEvent_messageEvents (k : StatusKind) (prev bits : U8) :
    lastEvent k (messageEvents prev bits).reverse =
      if k.Changed prev bits then some (k.value bits) else none := by
  rw [messageEvents_eq]
  cases k with
  | driving => split_ifs <;> rfl
  | ipod => split_ifs <;> rfl
  | ill => split_ifs <;> rfl

/-- The events of a kind are the reports of its changes. -/
theorem lastEvent_eventsOf (k : StatusKind) (bytes : List U8) :
    lastEvent k (eventsOf bytes) = Notify.lastReport k.Changed k.value 0 bytes := by
  induction bytes with
  | nil => rfl
  | cons bits rest ih =>
    have hmessage := lastEvent_messageEvents k (rest.headD 0) bits
    unfold lastEvent at ih hmessage ⊢
    rw [eventsOf, List.findSome?_append, hmessage, ih, Notify.lastReport]
    split_ifs
    · rfl
    · rfl

/-! ## The getters -/

/-- The word that a getter takes its letters from is the one of the event. -/
theorem word_eq (k : StatusKind) (bits : U8) :
    k.word bits = if k.value bits = 1 then ascii "true" else ascii "false" := by
  cases k with
  | driving =>
    by_cases h : bits &&& 0x10 ≠ 0
    · simp only [StatusKind.word, StatusKind.value, if_pos h, if_true]
    · simp only [StatusKind.word, StatusKind.value, if_neg h]
      rfl
  | ipod =>
    by_cases h : bits &&& 0x20 = 0
    · simp only [StatusKind.word, StatusKind.value, if_pos h, if_neg (not_not_intro h), if_true]
    · simp only [StatusKind.word, StatusKind.value, if_neg h, if_pos h]
      rfl
  | ill =>
    by_cases h : bits &&& 0x08 = 0
    · simp only [StatusKind.word, StatusKind.value, if_pos h, if_neg (not_not_intro h), if_true]
    · simp only [StatusKind.word, StatusKind.value, if_neg h, if_pos h]
      rfl

theorem lookup_statusKey (k : StatusKind) : getters.lookup k.key = some elsewhere := by
  cases k with
  | driving => rfl
  | ipod => rfl
  | ill => rfl

/-! ## The time of `backlight_update` -/

theorem proc_ext {σ α : Type} {m m' : Proc σ α} (h : ∀ n s, m.run n s = m'.run n s) : m = m' := by
  cases m
  cases m'
  congr
  funext n s
  exact h n s

/-- Behind the store of the byte, `sta_bits` is the byte. -/
theorem store_whereStored {α : Type} (nv : U8) (update other : Link Unit) (rest : Unit → Link α) :
    (do modifyStatus (fun s => { s with staBits := nv }); whereStored nv update other >>= rest) =
      (do modifyStatus (fun s => { s with staBits := nv }); update >>= rest : Link α) := by
  apply proc_ext
  intro n w
  have hstored : ∀ w1 : World, w1.car.status.staBits = nv →
      (whereStored nv update other >>= rest).run n w1 = (update >>= rest).run n w1 := by
    intro w1 h1
    show (((if w1.car.status.staBits = nv then update else other).run n w1).bind fun r =>
      (rest r.1).run n r.2) = _
    rw [if_pos h1]
    rfl
  exact hstored (w.modifyCar fun c => { c with status := { c.status with staBits := nv } }) rfl

theorem takeStatus_whereStored (update other : Link Unit) :
    takeStatus (fun nv => whereStored nv update other) = takeStatus fun _ => update := by
  funext buf
  unfold takeStatus
  simp only [store_whereStored]

/-- The backlight is updated behind the store of the byte. -/
theorem mcuReport_whereStored (f : Frame) (other : Link Unit) :
    mcuReport f 0xF004 = statusReport (fun nv => whereStored nv (emit .backlightUpdate) other) f := by
  rw [mcuReport_status]
  unfold statusReport
  rw [takeStatus_whereStored]

namespace StatusSystem

/-! ## Runs -/

/-- A getter of the status byte leaves the answer buffer as it is. -/
theorem report_eq (s : StatusSystem) (k : StatusKind) (p : Peripherals) (pos : Text) :
    s.report k p pos = cString s.answers.staBuf := by
  have hreply : answerTo k.key pos s.answers.state p = .elsewhere := by
    unfold answerTo
    rw [lookup_statusKey]
    rfl
  unfold report getHalf
  rw [hreply]
  rfl

/-- The bits and the events are those of the bytes. -/
structure Shown (s : StatusSystem) : Prop where
  bits : s.staBits = (statusBytes s.link.log).headD 0
  events : s.link.log.filter Event.isStatus = eventsOf (statusBytes s.link.log)

theorem shown_boot (link : World) (s : GetState) : Shown (boot link s) := ⟨rfl, rfl⟩

theorem shown_message {s : StatusSystem} (h : Shown s) (cmd : U32) (passes : ℕ) :
    Shown (s.message cmd passes) := by
  unfold message
  cases hrun : (processMcuCommand cmd).run passes s.link with
  | none => exact h
  | some r =>
    have htaken : StatusTaken s.link r.2 := processMcuCommand_taken cmd s.link r.1 r.2 ⟨passes, hrun⟩
    rcases htaken with hsame | ⟨nv, hnew⟩
    · unfold StatusShown at hsame
      simp only [Prod.mk.injEq] at hsame
      obtain ⟨hbits, hevents, hbytes⟩ := hsame
      constructor
      · show r.2.car.status.staBits = (statusBytes r.2.log).headD 0
        rw [hbits, hbytes]
        exact h.bits
      · show r.2.log.filter Event.isStatus = eventsOf (statusBytes r.2.log)
        rw [hevents, hbytes]
        exact h.events
    · unfold StatusShown at hnew
      simp only [Prod.mk.injEq] at hnew
      obtain ⟨hbits, hevents, hbytes⟩ := hnew
      have hprev : s.link.car.status.staBits = (statusBytes s.link.log).headD 0 := h.bits
      constructor
      · show r.2.car.status.staBits = (statusBytes r.2.log).headD 0
        rw [hbits, hbytes]
        rfl
      · show r.2.log.filter Event.isStatus = eventsOf (statusBytes r.2.log)
        rw [hevents, hbytes, h.events, hprev]
        rfl

/-- Every step keeps them. -/
theorem shown_step (s : StatusSystem) (op : StatusOp) (h : Shown s) : Shown (s.step op) := by
  cases op with
  | message cmd passes => exact shown_message h cmd passes
  | request r => exact ⟨h.bits, h.events⟩

/-- The last event of a kind is still the one of the bits. -/
theorem lastEvent_eq {s : StatusSystem} (h : Shown s) {k : StatusKind} {v : U8}
    (hlast : lastEvent k s.link.log = some v) : v = k.value s.staBits := by
  rw [← lastEvent_filter, h.events, lastEvent_eventsOf] at hlast
  rw [h.bits]
  exact Notify.lastReport_eq k.value_eq_of_not_changed hlast

/-- With the events right, what is left is what the getters report. -/
theorem statusAgrees_iff {s : StatusSystem} (h : Shown s) : StatusAgrees s ↔ WordsLeft s := by
  constructor
  · intro hagrees k hsome
    obtain ⟨v, hv⟩ := Option.isSome_iff_exists.mp hsome
    have hreport := hagrees.reported k v hv silentPeripherals []
    rw [report_eq, lastEvent_eq h hv, ← word_eq] at hreport
    exact hreport
  · intro hwords
    refine ⟨h.bits, h.events, fun f other => mcuReport_whereStored f other, ?_⟩
    intro k v hv p pos
    rw [report_eq, lastEvent_eq h hv, ← word_eq]
    exact hwords k (Option.isSome_iff_exists.mpr ⟨v, hv⟩)

/-- In every run of messages and requests, the getters agree with the events exactly if the answer buffer
    holds the right words throughout. -/
theorem statusAgrees_throughout_iff (link : World) (s : GetState) (ops : List StatusOp) :
    Run.Throughout step StatusAgrees (boot link s) ops ↔ Run.Throughout step WordsLeft (boot link s) ops :=
  Run.throughout_congr (shown_boot link s) shown_step fun _ => statusAgrees_iff

/-- The MCU sends a byte with the bit of the driving. -/
def driveOff : List StatusOp := [.message 0xF004 40]

theorem driveOff_event :
    lastEvent .driving (Run.after step (boot (.sender [0x10]) default) driveOff).link.log = some 1 := by
  decide

/-- The event says that the car is driven, and the getter answers with the empty buffer. -/
theorem not_statusAgrees : ¬ ∀ link s ops, Run.Throughout step StatusAgrees (boot link s) ops := by
  intro h
  have hagrees := h (.sender [0x10]) default driveOff driveOff [] (List.append_nil _).symm
  have hreport := hagrees.reported .driving 1 driveOff_event silentPeripherals []
  rw [report_eq] at hreport
  exact absurd hreport (by decide)

end StatusSystem

end MtcDrivers
