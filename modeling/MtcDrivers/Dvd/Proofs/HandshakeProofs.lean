import Mathlib.Data.List.Forall2
import MtcDrivers.Proc.Proofs.WlpProofs
import MtcDrivers.Dvd.Bus

/-!
# The DVD bus is released

Every exit of the two handshakes gives the lines back, and the bits cross the bus in order.
-/

namespace MtcDrivers

namespace Dvd

open Proc ShiftRegister History

/-! ## The primitives -/

section Primitives

variable {w : World}

@[simp] theorem emit_lines (e : Event) : (w.emit e).lines = w.lines := rfl
@[simp] theorem emit_log (e : Event) : (w.emit e).log = e :: w.log := rfl

@[simp] theorem setLine_lines (p : Gpio) (v : Option Bool) :
    (w.setLine p v).lines = Function.update w.lines p v := rfl

@[simp] theorem popClock_log : w.popClock.log = w.log := rfl

variable {Q : Unit → World → Prop}

@[simp] theorem wlp_emit {e : Event} : (emit e).wlp Q w ↔ Q () (w.emit e) := wlp_modify

@[simp] theorem wlp_printk {t : ErrorText} : (printk t).wlp Q w ↔ Q () (w.emit (.printk t)) := wlp_modify

@[simp] theorem wlp_dvdAddWork {cmd1 cmd2 : U32} :
    (dvdAddWork cmd1 cmd2).wlp Q w ↔ Q () (w.emit (.addWork cmd1 cmd2)) := wlp_modify

@[simp] theorem wlp_gpioDirectionOutput {p : Gpio} {v : Bool} :
    (gpioDirectionOutput p v).wlp Q w ↔ Q () ((w.setLine p (some v)).emit (.directionOutput p v)) :=
  wlp_modify

@[simp] theorem wlp_gpioDirectionInput {p : Gpio} :
    (gpioDirectionInput p).wlp Q w ↔ Q () ((w.setLine p none).emit (.directionInput p)) := wlp_modify

@[simp] theorem wlp_mutexUnlock : mutexUnlock.wlp Q w ↔ Q () ((w.setLocked false).emit .mutexUnlock) :=
  wlp_modify

theorem wlp_gpioGetValue {Q : Bool → World → Prop} {p : Gpio} :
    (gpioGetValue p).wlp Q w ↔ Q (w.levels p).head ((w.popLevel p).emit (.level p (w.levels p).head)) := by
  simp [gpioGetValue]

theorem wlp_dvdPowerOn {Q : Bool → World → Prop} : dvdPowerOn.wlp Q w ↔ Q w.power.head w.popPower := by
  simp [dvdPowerOn]

theorem wlp_checkTimeOut {Q : Bool → World → Prop} {timeout : ℤ} (h : ∀ b, Q b w.popClock) :
    (checkTimeOut timeout).wlp Q w := by
  simp [checkTimeOut, tvUsec, doGettimeofday, h]

/-- The mutex is taken as soon as it is free. -/
theorem wlp_mutexLock (hQ : Q () ((w.setLocked true).emit .mutexLock)) : mutexLock.wlp Q w := by
  unfold mutexLock
  refine wlp_repeatUntil (fun w' => w' = w) (fun w' hw' => ?_) rfl
  subst hw'
  simp only [wlp_bind, wlp_get, wlp_ite, wlp_modify, wlp_pure]
  exact ⟨fun _ => rfl, fun _ => hQ⟩

end Primitives

/-! ## Waiting -/

/-- The last thing that happened was not a sight of `STB` at the low level. -/
def NotStrobed (w : World) : Prop := w.log.head? ≠ some (.level .stb false)

/-- Nothing crossed the bus. -/
structure SameSeen (w w' : World) : Prop where
  dataLevel : dataLevel w'.log = dataLevel w.log
  strobes : strobes w'.log = strobes w.log
  samples : samples w'.log = samples w.log
  words : words w'.log = words w.log
  sendErrors : sendErrors w'.log = sendErrors w.log

theorem SameSeen.refl (w : World) : SameSeen w w := ⟨rfl, rfl, rfl, rfl, rfl⟩

theorem SameSeen.trans {w w' w'' : World} (h : SameSeen w w') (h' : SameSeen w' w'') : SameSeen w w'' where
  dataLevel := h'.dataLevel.trans h.dataLevel
  strobes := h'.strobes.trans h.strobes
  samples := h'.samples.trans h.samples
  words := h'.words.trans h.words
  sendErrors := h'.sendErrors.trans h.sendErrors

/-- Only reads happened, and none of them a sample. -/
structure Waited (w w' : World) : Prop extends SameSeen w w' where
  lines : w'.lines = w.lines
  locked : w'.locked = w.locked
  power : w'.power = w.power

theorem Waited.trans {w w' w'' : World} (h : Waited w w') (h' : Waited w' w'') : Waited w w'' where
  toSameSeen := h.toSameSeen.trans h'.toSameSeen
  lines := h'.lines.trans h.lines
  locked := h'.locked.trans h.locked
  power := h'.power.trans h.power

theorem waited_popClock (w : World) : Waited w w.popClock := ⟨⟨rfl, rfl, rfl, rfl, rfl⟩, rfl, rfl, rfl⟩

/-- A read of `DATA` that is no sample. -/
theorem samples_data {log : List Event} (v : Bool) (h : log.head? ≠ some (.level .stb false)) :
    samples (.level .data v :: log) = samples log := by
  cases log with
  | nil => rfl
  | cons e log =>
    cases e with
    | level p b =>
      cases p with
      | stb =>
        cases b with
        | true => rfl
        | false => exact absurd rfl h
      | _ => rfl
    | _ => rfl

theorem waited_level {w : World} {p : Gpio} (v : Bool) (h : p = .data → NotStrobed w) :
    Waited w ((w.popLevel p).emit (.level p v)) := by
  refine ⟨⟨rfl, rfl, ?_, rfl, rfl⟩, rfl, rfl, rfl⟩
  cases p with
  | data => exact samples_data v (h rfl)
  | stb => rfl
  | ack => rfl

/-- A wait that ended well has just seen its level. -/
theorem wlp_waitFrom {w : World} {timeout : ℤ} {p : Gpio} {level : Bool} {Q : Bool → World → Prop}
    (hp : p = .data → NotStrobed w)
    (hseen : ∀ w' log, Waited w w' → w'.log = .level p level :: log → Q true w')
    (hlate : ∀ w', Waited w w' → Q false w') : (waitFrom timeout p level).wlp Q w := by
  unfold waitFrom
  refine wlp_repeatUntil (fun w' => Waited w w' ∧ (p = .data → NotStrobed w')) ?_
    ⟨⟨SameSeen.refl w, rfl, rfl, rfl⟩, hp⟩
  rintro w1 ⟨h1, hp1⟩
  simp only [wlp_bind, wlp_gpioGetValue, wlp_ite, wlp_pure]
  have hread := h1.trans (waited_level (w1.levels p).head hp1)
  refine ⟨fun hlevel => ?_, fun _ => wlp_checkTimeOut fun late => ?_⟩
  · refine hseen _ w1.log hread ?_
    rw [← hlevel]
    rfl
  · have hclock := hread.trans (waited_popClock _)
    cases late with
    | true =>
      constructor
      · intro _
        exact hlate _ hclock
      · intro hc
        exact absurd rfl hc
    | false =>
      constructor
      · intro hc
        cases hc
      · intro _
        refine ⟨hclock, ?_⟩
        rintro rfl hc
        simp at hc

/-- A wait and what is done in its two outcomes. -/
theorem wlp_wait {α : Type} {w : World} {p : Gpio} {level : Bool} {m k : Proc World α}
    {Q : α → World → Prop} (hp : p = .data → NotStrobed w)
    (hseen : ∀ w' log, Waited w w' → w'.log = .level p level :: log → m.wlp Q w')
    (hlate : ∀ w', Waited w w' → k.wlp Q w') :
    (waitLevel p level).wlp (fun ok w' => (if ok = true then m else k).wlp Q w') w := by
  unfold waitLevel tvUsec doGettimeofday
  simp only [wlp_bind, wlp_get, wlp_modify, wlp_pure]
  have hclock := waited_popClock w
  refine wlp_waitFrom hp ?_ ?_
  · intro w' log h hlog
    exact hseen w' log (hclock.trans h) hlog
  · intro w' h
    exact hlate w' (hclock.trans h)

/-- No other lines than these are driven. -/
def DrivesOnly (driven : List Gpio) (w : World) : Prop := ∀ p, p ∉ driven → w.lines p = none

section Drives

variable {w : World} {driven : List Gpio} {p : Gpio}

theorem drivesOnly_output (h : DrivesOnly driven w) (hp : p ∈ driven) (v : Option Bool) (e : Event) :
    DrivesOnly driven ((w.setLine p v).emit e) := by
  intro q hq
  have hne : q ≠ p := by
    rintro rfl
    exact hq hp
  simp only [emit_lines, setLine_lines, Function.update_of_ne hne]
  exact h q hq

theorem drivesOnly_input (h : DrivesOnly (p :: driven) w) (e : Event) :
    DrivesOnly driven ((w.setLine p none).emit e) := by
  intro q hq
  simp only [emit_lines, setLine_lines]
  by_cases hqp : q = p
  · rw [hqp, Function.update_self]
  · rw [Function.update_of_ne hqp]
    exact h q (by simp [hqp, hq])

theorem drivesOnly_cons (h : DrivesOnly driven w) (p : Gpio) : DrivesOnly (p :: driven) w :=
  fun q hq => h q fun hmem => hq (List.mem_cons_of_mem p hmem)

theorem Waited.drivesOnly {w' : World} (h : Waited w w') (hd : DrivesOnly driven w) :
    DrivesOnly driven w' := by
  intro q hq
  rw [h.lines]
  exact hd q hq

end Drives

/-! ## Receiving -/

/-- The receiver has taken whole words since `w₀`, and has sampled `bits` of the next one. -/
structure Receiving (w₀ w : World) (bits : List Bool) : Prop where
  dataLevel : dataLevel w.log = dataLevel w₀.log
  strobes : Dvd.dataLevel w₀.log = none → strobes w.log = strobes w₀.log
  sendErrors : sendErrors w.log = sendErrors w₀.log
  got : ∃ (got : List (List Bool)) (queued : List U32), (∀ b ∈ got, b.length = 16) ∧
    List.Forall₂ Carries queued got ∧ Grew (fun w => samples w.log) (got.flatten ++ bits) w₀ w ∧
      Grew (fun w => words w.log) queued w₀ w

theorem receiving_start (w : World) : Receiving w w [] :=
  ⟨rfl, fun _ => rfl, rfl, [], [], by simp, .nil, grew_refl w, grew_refl w⟩

theorem Receiving.same {w₀ w w' : World} {bits : List Bool} (h : Receiving w₀ w bits)
    (hsame : SameSeen w w') : Receiving w₀ w' bits := by
  obtain ⟨got, queued, hlen, hcarries, hsamples, hwords⟩ := h.got
  refine ⟨hsame.dataLevel.trans h.dataLevel, fun hnone => hsame.strobes.trans (h.strobes hnone),
    hsame.sendErrors.trans h.sendErrors, got, queued, hlen, hcarries, ?_, ?_⟩
  · exact hsame.samples.trans hsamples
  · exact hsame.words.trans hwords

/-- A sample. -/
theorem Receiving.sample {w₀ w w' : World} {bits : List Bool} (h : Receiving w₀ w bits)
    {log : List Event} (hlog : w.log = .level .stb false :: log) {v : Bool}
    (hlog' : w'.log = .level .data v :: w.log) : Receiving w₀ w' (bits ++ [v]) := by
  obtain ⟨got, queued, hlen, hcarries, hsamples, hwords⟩ := h.got
  have hdata : Dvd.dataLevel w'.log = Dvd.dataLevel w.log := by rw [hlog']; rfl
  have hstrobes : Dvd.strobes w'.log = Dvd.strobes w.log := by rw [hlog']; rfl
  have herrors : Dvd.sendErrors w'.log = Dvd.sendErrors w.log := by rw [hlog']; rfl
  have hsample : Dvd.samples w'.log = v :: Dvd.samples w.log := by rw [hlog', hlog]; rfl
  have hword : Dvd.words w'.log = Dvd.words w.log := by rw [hlog']; rfl
  refine ⟨hdata.trans h.dataLevel, fun hnone => hstrobes.trans (h.strobes hnone),
    herrors.trans h.sendErrors, got, queued, hlen, hcarries, ?_, hword.trans hwords⟩
  rw [← List.append_assoc]
  exact hsamples.trans (grew_one hsample)

/-- A whole word is queued. -/
theorem Receiving.queue {w₀ w w' : World} {bits : List Bool} (h : Receiving w₀ w bits)
    (hlen : bits.length = 16) {cmd : U32} (hcmd : Carries cmd bits)
    (hlog : w'.log = .addWork 5 cmd :: w.log) : Receiving w₀ w' [] := by
  obtain ⟨got, queued, hlens, hcarries, hsamples, hwords⟩ := h.got
  have hdata : Dvd.dataLevel w'.log = Dvd.dataLevel w.log := by rw [hlog]; rfl
  have hstrobes : Dvd.strobes w'.log = Dvd.strobes w.log := by rw [hlog]; rfl
  have herrors : Dvd.sendErrors w'.log = Dvd.sendErrors w.log := by rw [hlog]; rfl
  have hsample : Dvd.samples w'.log = Dvd.samples w.log := by rw [hlog]; rfl
  have hword : Dvd.words w'.log = cmd :: Dvd.words w.log := by rw [hlog]; rfl
  refine ⟨hdata.trans h.dataLevel, fun hnone => hstrobes.trans (h.strobes hnone),
    herrors.trans h.sendErrors, got ++ [bits], queued ++ [cmd], ?_, ?_, ?_, ?_⟩
  · intro b hb
    rcases List.mem_append.mp hb with hb | hb
    · exact hlens b hb
    · rw [List.mem_singleton.mp hb]
      exact hlen
  · exact List.rel_append hcarries (.cons hcmd .nil)
  · rw [List.append_nil, List.flatten_append, List.flatten_singleton]
    exact hsample.trans hsamples
  · exact hwords.trans (grew_one hword)

/-- `STB` is pulled low to acknowledge a word. -/
theorem Receiving.acknowledge {w₀ w w' : World} {bits : List Bool} (h : Receiving w₀ w bits)
    (hlog : w'.log = .directionOutput .stb false :: w.log) : Receiving w₀ w' bits := by
  obtain ⟨got, queued, hlen, hcarries, hsamples, hwords⟩ := h.got
  have hdata : Dvd.dataLevel w'.log = Dvd.dataLevel w.log := by rw [hlog]; rfl
  have hstrobes : Dvd.strobes w'.log = (Dvd.dataLevel w.log).toList ++ Dvd.strobes w.log := by rw [hlog]; rfl
  have herrors : Dvd.sendErrors w'.log = Dvd.sendErrors w.log := by rw [hlog]; rfl
  have hsample : Dvd.samples w'.log = Dvd.samples w.log := by rw [hlog]; rfl
  have hword : Dvd.words w'.log = Dvd.words w.log := by rw [hlog]; rfl
  refine ⟨hdata.trans h.dataLevel, ?_, herrors.trans h.sendErrors, got, queued, hlen, hcarries,
    hsample.trans hsamples, hword.trans hwords⟩
  intro hnone
  rw [hstrobes, h.dataLevel, hnone]
  exact h.strobes hnone

theorem Receiving.received {w₀ w : World} {bits : List Bool} (h : Receiving w₀ w bits)
    (hlen : bits.length ≤ 16) : Received w₀ w := by
  obtain ⟨got, queued, hlens, hcarries, hsamples, hwords⟩ := h.got
  exact ⟨got, bits, queued, hlens, hlen, hcarries, hsamples, hwords⟩

/-- A register that took 16 bits. -/
theorem carries_shiftIn {bits : List Bool} (h : bits.length = 16) : Carries (shiftIn 0 bits) bits := by
  have hzeros : shiftIn (0 : U32) (List.replicate 16 false) = 0 := rfl
  unfold Carries
  rw [← hzeros, ← shiftIn_append]
  exact msbFirst_shiftIn _ (by simp [h])

/-- The step of the register. -/
theorem shiftIn_concat (bits : List Bool) (v : Bool) :
    (if v = true then shiftIn (0 : U32) bits * 2 ||| 1 else shiftIn 0 bits * 2) =
      shiftIn 0 (bits ++ [v]) := by
  have hdouble : shiftIn (0 : U32) bits * (2 : U32) = shiftIn 0 bits <<< 1 :=
    (BitVec.shiftLeft_eq_mul_twoPow _ 1).symm
  rw [shiftIn_append, hdouble]
  exact (shiftConcat_eq _ v).symm

/-- The receiver holds the mutex and drives no other lines than these. -/
structure Taking (w₀ w : World) (bits : List Bool) (driven : List Gpio) : Prop
    extends Receiving w₀ w bits where
  drives : DrivesOnly driven w
  locked : w.locked = true

section Taking

variable {w₀ w w' : World} {bits : List Bool} {driven : List Gpio}

theorem Taking.waited (h : Taking w₀ w bits driven) (hw : Waited w w') : Taking w₀ w' bits driven where
  toReceiving := h.toReceiving.same hw.toSameSeen
  drives := hw.drivesOnly h.drives
  locked := hw.locked.trans h.locked

theorem Taking.ack (h : Taking w₀ w bits [.ack]) (v : Bool) :
    Taking w₀ ((w.setLine .ack (some v)).emit (.directionOutput .ack v)) bits [.ack] where
  toReceiving := h.toReceiving.same ⟨rfl, rfl, rfl, rfl, rfl⟩
  drives := drivesOnly_output h.drives (by simp) _ _
  locked := h.locked

theorem Taking.drive (h : Taking w₀ w bits []) (p : Gpio) : Taking w₀ w bits [p] where
  toReceiving := h.toReceiving
  drives := drivesOnly_cons h.drives p
  locked := h.locked

theorem Taking.printk (h : Taking w₀ w bits driven) (n : ℕ) (bit : Option ℕ) :
    Taking w₀ (w.emit (.printk (.drev n bit))) bits driven where
  toReceiving := h.toReceiving.same ⟨rfl, rfl, rfl, rfl, rfl⟩
  drives := h.drives
  locked := h.locked

/-- `ACK` or `STB` is let go. -/
theorem Taking.release {p : Gpio} (hp : p ≠ .data) (h : Taking w₀ w bits [p]) :
    Taking w₀ ((w.setLine p none).emit (.directionInput p)) bits [] where
  toReceiving := by
    cases p with
    | data => exact absurd rfl hp
    | stb => exact h.toReceiving.same ⟨rfl, rfl, rfl, rfl, rfl⟩
    | ack => exact h.toReceiving.same ⟨rfl, rfl, rfl, rfl, rfl⟩
  drives := drivesOnly_input h.drives _
  locked := h.locked

/-- `STB` is pulled low to acknowledge a word. -/
theorem Taking.stb (h : Taking w₀ w bits []) :
    Taking w₀ ((w.setLine .stb (some false)).emit (.directionOutput .stb false)) bits [.stb] where
  toReceiving := h.toReceiving.acknowledge rfl
  drives := drivesOnly_output (drivesOnly_cons h.drives .stb) (by simp) _ _
  locked := h.locked

/-- `DATA` is sampled. -/
theorem Taking.sample (h : Taking w₀ w bits driven) {log : List Event}
    (hlog : w.log = .level .stb false :: log) (v : Bool) :
    Taking w₀ ((w.popLevel .data).emit (.level .data v)) (bits ++ [v]) driven where
  toReceiving := h.toReceiving.sample hlog rfl
  drives := h.drives
  locked := h.locked

/-- `DATA` is read at another moment. -/
theorem Taking.look (h : Taking w₀ w bits driven) (hnot : NotStrobed w) :
    Taking w₀ ((w.popLevel .data).emit (.level .data (w.levels .data).head)) bits driven :=
  h.waited (waited_level _ fun _ => hnot)

theorem Taking.queue (h : Taking w₀ w bits driven) (hlen : bits.length = 16) {cmd : U32}
    (hcmd : Carries cmd bits) : Taking w₀ (w.emit (.addWork 5 cmd)) [] driven where
  toReceiving := h.toReceiving.queue hlen hcmd rfl
  drives := h.drives
  locked := h.locked

/-- The receiver gave up, or the drive has nothing more to say. -/
def Done (w₀ w : World) : Prop := ∃ rest : List Bool, rest.length ≤ 16 ∧ Taking w₀ w rest []

theorem Taking.done (h : Taking w₀ w bits []) (hlen : bits.length ≤ 16) : Done w₀ w := ⟨bits, hlen, h⟩

/-- Between two bits. -/
def Between (w₀ : World) (b : U32 × ℕ) (w : World) : Prop :=
  ∃ bits : List Bool, bits.length = b.2 ∧ b.2 < 16 ∧ b.1 = shiftIn 0 bits ∧ Taking w₀ w bits [.ack]

/-- The end of the bits of a word. -/
def Bits (w₀ : World) (r : Option U32) (w : World) : Prop :=
  r.elim (Done w₀ w) fun cmd =>
    ∃ bits : List Bool, bits.length = 16 ∧ cmd = shiftIn 0 bits ∧ Taking w₀ w bits [.ack]

theorem wlp_revBit {b : U32 × ℕ} (h : Between w₀ b w) :
    (revBit b.1 b.2).wlp (fun x => x.elim (Between w₀) (Bits w₀)) w := by
  obtain ⟨bits, hlen, hlt, hcmd, htaking⟩ := h
  unfold revBit
  simp only [wlp_bind, wlp_gpioDirectionOutput]
  refine wlp_wait (by simp) (fun w1 log hw1 hlog => ?_) fun w1 hw1 => ?_
  · have h1 := (htaking.ack true).waited hw1
    simp only [wlp_bind, wlp_gpioGetValue, wlp_gpioDirectionOutput]
    have h2 := h1.sample hlog (w1.levels .data).head
    refine wlp_wait (by simp) (fun w3 _ hw3 _ => ?_) fun w3 hw3 => ?_
    · have h3 := (h2.ack false).waited hw3
      rw [hcmd, shiftIn_concat]
      simp only [wlp_ite, wlp_pure]
      refine ⟨fun hne => ?_, fun heq => ?_⟩
      · exact ⟨_, by simp [hlen], by omega, rfl, h3⟩
      · exact ⟨_, by simp [hlen]; omega, rfl, h3⟩
    · have h3 := (h2.ack false).waited hw3
      simp only [wlp_bind, wlp_printk, wlp_gpioDirectionInput, wlp_pure]
      exact ((h3.printk 2 _).release (by simp)).done (by simp; omega)
  · have h1 := (htaking.ack true).waited hw1
    simp only [wlp_bind, wlp_printk, wlp_gpioDirectionInput, wlp_pure]
    exact ((h1.printk 1 _).release (by simp)).done (by omega)

/-- Between two words. -/
def BetweenWords (w₀ w : World) : Prop := Taking w₀ w [] [] ∧ NotStrobed w

theorem wlp_revEnd {cmd : U32} (hlen : bits.length = 16) (hcmd : cmd = shiftIn 0 bits)
    (h : Taking w₀ w bits [.ack]) :
    (revEnd cmd).wlp (fun x => x.elim (fun _ => BetweenWords w₀) (fun _ => Done w₀)) w := by
  unfold revEnd
  simp only [wlp_bind, wlp_gpioDirectionInput]
  refine wlp_wait (by simp) (fun w1 _ hw1 _ => ?_) fun w1 hw1 => ?_
  · have h1 := (h.release (by simp)).waited hw1
    simp only [wlp_bind, wlp_gpioDirectionOutput]
    have h2 := h1.stb
    refine wlp_wait (by simp) (fun w3 _ hw3 _ => ?_) fun w3 hw3 => ?_
    · have h3 := ((h2.waited hw3).release (by simp)).queue hlen (hcmd ▸ carries_shiftIn hlen)
      simp only [wlp_bind, wlp_gpioDirectionInput, wlp_dvdAddWork, wlp_gpioGetValue, wlp_ite, wlp_pure]
      have h4 := h3.look (by simp [NotStrobed])
      refine ⟨fun _ => h4.done (by simp), fun _ => ⟨h4, by simp [NotStrobed]⟩⟩
    · have h3 := (h2.waited hw3).printk 4 none
      simp only [wlp_bind, wlp_printk, wlp_gpioDirectionInput, wlp_pure]
      exact (h3.release (by simp)).done (by omega)
  · have h1 := (h.release (by simp)).waited hw1
    simp only [wlp_bind, wlp_printk, wlp_pure]
    exact (h1.printk 3 none).done (by omega)

theorem wlp_revWord (h : BetweenWords w₀ w) :
    revWord.wlp (fun x => x.elim (fun _ => BetweenWords w₀) (fun _ => Done w₀)) w := by
  obtain ⟨htaking, hnot⟩ := h
  unfold revWord
  rw [wlp_bind, wlp_gpioGetValue, wlp_ite, wlp_pure]
  have h1 := htaking.look hnot
  refine ⟨fun _ => h1.done (by simp), fun _ => ?_⟩
  simp only [wlp_bind, wlp_gpioDirectionOutput]
  have h2 := (h1.drive .ack).ack false
  refine wlp_wait (fun _ => by simp [NotStrobed]) (fun w3 _ hw3 _ => ?_) fun w3 hw3 => ?_
  · rw [wlp_bind]
    have hstart : Between w₀ (0, 0) w3 := ⟨[], rfl, by decide, rfl, h2.waited hw3⟩
    refine wlp_mono (wlp_iter (Between w₀) (fun b s hb => wlp_revBit hb) hstart) fun r w4 h4 => ?_
    cases r with
    | none => exact wlp_pure.mpr h4
    | some cmd =>
      obtain ⟨bits, hlen, hcmd, htaking⟩ := h4
      exact wlp_revEnd hlen hcmd htaking
  · simp only [wlp_bind, wlp_printk, wlp_gpioDirectionInput, wlp_pure]
    exact (((h2.waited hw3).printk 0 none).release (by simp)).done (by simp)

end Taking

theorem released_iff {w : World} : w.Released ↔ DrivesOnly [] w ∧ w.locked = false :=
  ⟨fun h => ⟨fun p _ => h.lines p, h.locked⟩, fun h => ⟨fun p => h.1 p (by simp), h.2⟩⟩

/-- The receiver took words since `w₀`, and the bus is released. -/
def Heard (w₀ w : World) : Prop := w.Released ∧ ∃ rest : List Bool, rest.length ≤ 16 ∧ Receiving w₀ w rest

theorem SameSeen.heard {w₀ w : World} (h : SameSeen w₀ w) (hw : w.Released) : Heard w₀ w :=
  ⟨hw, [], by simp, (receiving_start w₀).same h⟩

theorem Heard.received {w₀ w : World} (h : Heard w₀ w) : Received w₀ w := by
  obtain ⟨_, rest, hlen, hreceiving⟩ := h
  exact hreceiving.received hlen

theorem wlp_dvdRevPart2 {w₀ w : World} (h : w.Released) (h₀ : SameSeen w₀ w) :
    dvdRevPart2.wlp (fun _ => Heard w₀) w := by
  obtain ⟨hdrives, _⟩ := released_iff.mp h
  unfold dvdRevPart2
  rw [wlp_bind]
  refine wlp_mutexLock ?_
  have hlock : SameSeen w ((w.setLocked true).emit .mutexLock) := ⟨rfl, rfl, rfl, rfl, rfl⟩
  have hstart : BetweenWords w₀ ((w.setLocked true).emit .mutexLock) :=
    ⟨⟨(receiving_start w₀).same (h₀.trans hlock), hdrives, rfl⟩, by simp [NotStrobed]⟩
  rw [wlp_bind]
  refine wlp_mono (wlp_repeatUntil (BetweenWords w₀) (fun s hs => wlp_revWord hs) hstart) ?_
  rintro stbVal w1 ⟨rest, hlen, htaking⟩
  simp only [wlp_bind, wlp_mutexUnlock, wlp_pure]
  refine ⟨released_iff.mpr ⟨htaking.drives, rfl⟩, rest, hlen, ?_⟩
  exact htaking.toReceiving.same ⟨rfl, rfl, rfl, rfl, rfl⟩

/-! ## Sending -/

/-- The sender has the bits `bits` behind it since `w₀`. -/
structure Sending (w₀ w : World) (bits : List Bool) (driven : List Gpio) : Prop where
  strobes : Grew (fun w => Dvd.strobes w.log) bits w₀ w
  samples : Dvd.samples w.log = Dvd.samples w₀.log
  words : Dvd.words w.log = Dvd.words w₀.log
  sendErrors : Dvd.sendErrors w.log = Dvd.sendErrors w₀.log
  drives : DrivesOnly driven w
  locked : w.locked = true

/-- The sender printed an error. -/
structure Failing (w₀ w : World) (driven : List Gpio) : Prop where
  samples : Dvd.samples w.log = Dvd.samples w₀.log
  words : Dvd.words w.log = Dvd.words w₀.log
  sendErrors : Dvd.sendErrors w.log = Dvd.sendErrors w₀.log + 1
  drives : DrivesOnly driven w
  locked : w.locked = true

section Sending

variable {w₀ w w' : World} {bits : List Bool} {driven : List Gpio} {p : Gpio}

theorem Sending.waited (h : Sending w₀ w bits driven) (hw : Waited w w') : Sending w₀ w' bits driven where
  strobes := hw.strobes.trans h.strobes
  samples := hw.samples.trans h.samples
  words := hw.words.trans h.words
  sendErrors := hw.sendErrors.trans h.sendErrors
  drives := hw.drivesOnly h.drives
  locked := hw.locked.trans h.locked

/-- A line is driven, but not `STB` to the low level. -/
theorem Sending.output (h : Sending w₀ w bits driven) (hp : p ∈ driven) {v : Bool}
    (hv : p = .stb → v = true) :
    Sending w₀ ((w.setLine p (some v)).emit (.directionOutput p v)) bits driven := by
  have hstrobes : Dvd.strobes (.directionOutput p v :: w.log) = Dvd.strobes w.log := by
    cases p with
    | stb => rw [hv rfl]; rfl
    | data => rfl
    | ack => rfl
  exact ⟨hstrobes.trans h.strobes, h.samples, h.words, h.sendErrors,
    drivesOnly_output h.drives hp _ _, h.locked⟩

/-- `STB` is pulled low. -/
theorem Sending.strobe (h : Sending w₀ w bits driven) (hp : .stb ∈ driven) {v : Bool}
    (hv : Dvd.dataLevel w.log = some v) :
    Sending w₀ ((w.setLine .stb (some false)).emit (.directionOutput .stb false)) (bits ++ [v]) driven := by
  have hstrobes : Dvd.strobes (.directionOutput .stb false :: w.log) = v :: Dvd.strobes w.log := by
    simp only [Dvd.strobes, hv, Option.toList_some, List.singleton_append]
  exact ⟨h.strobes.trans (grew_one hstrobes), h.samples, h.words, h.sendErrors,
    drivesOnly_output h.drives hp _ _, h.locked⟩

theorem Sending.drive (h : Sending w₀ w bits driven) (p : Gpio) : Sending w₀ w bits (p :: driven) :=
  { h with drives := drivesOnly_cons h.drives p }

/-- A line is let go. -/
theorem Sending.input (h : Sending w₀ w bits (p :: driven)) :
    Sending w₀ ((w.setLine p none).emit (.directionInput p)) bits driven where
  strobes := h.strobes
  samples := h.samples
  words := h.words
  sendErrors := h.sendErrors
  drives := drivesOnly_input h.drives _
  locked := h.locked

theorem Sending.printk (h : Sending w₀ w bits driven) (n : ℕ) (bit : Option ℕ) :
    Failing w₀ (w.emit (.printk (.dsnd n bit))) driven where
  samples := h.samples
  words := h.words
  sendErrors := congrArg (· + 1) h.sendErrors
  drives := h.drives
  locked := h.locked

theorem Failing.input (h : Failing w₀ w (p :: driven)) :
    Failing w₀ ((w.setLine p none).emit (.directionInput p)) driven where
  samples := h.samples
  words := h.words
  sendErrors := h.sendErrors
  drives := drivesOnly_input h.drives _
  locked := h.locked

theorem drivesOnly_swap {q : Gpio} (h : DrivesOnly [p, q] w) : DrivesOnly [q, p] w :=
  fun r hr => h r fun hmem => hr (by simp at hmem ⊢; exact hmem.symm)

theorem Sending.swap {q : Gpio} (h : Sending w₀ w bits [p, q]) : Sending w₀ w bits [q, p] :=
  { h with drives := drivesOnly_swap h.drives }

end Sending

/-- The bits that a command consists of. -/
def commandBits (cmd : U32) : List Bool := msbFirst (cmd.setWidth 24)

@[simp] theorem length_commandBits (cmd : U32) : (commandBits cmd).length = 24 := length_msbFirst _

/-- The mask of the source picks the next bit. -/
theorem commandBits_take_succ (cmd : U32) {n : ℕ} (hn : n < 24) :
    (commandBits cmd).take (n + 1) =
      (commandBits cmd).take n ++ [decide (cmd &&& (0x800000 : U32) >>> n ≠ 0)] := by
  have hmask : ∀ k : Fin 24, (0x800000 : U32) >>> k.val = BitVec.twoPow 32 (23 - k.val) := by decide
  have hbit : decide (cmd &&& (0x800000 : U32) >>> n ≠ 0) = cmd.getLsbD (23 - n) := by
    rw [← testBit_mask (by omega) (hmask ⟨n, hn⟩)]
    simp
  have hlt : n < (commandBits cmd).length := by simp [hn]
  have hget : (commandBits cmd)[n] = cmd.getLsbD (23 - n) := by
    simp only [commandBits, getElem_msbFirst]
    simp [BitVec.getMsbD, hn]
    omega
  rw [hbit, ← hget, List.take_append_getElem]

section Command

variable {w₀ w : World}

/-- Between two bits. -/
def BetweenBits (w₀ : World) (cmd : U32) (n : ℕ) (w : World) : Prop :=
  n < 24 ∧ Sending w₀ w ((commandBits cmd).take n) [.stb, .data]

/-- The end of the bits, or a command that is given up. -/
def BitsSent (w₀ : World) (cmd : U32) (ok : Bool) (w : World) : Prop :=
  if ok then Sending w₀ w (commandBits cmd) [.stb, .data] else Failing w₀ w []

theorem wlp_sendBit {cmd : U32} {n : ℕ} (h : BetweenBits w₀ cmd n w) :
    (sendBit cmd n).wlp (fun x => x.elim (BetweenBits w₀ cmd) (BitsSent w₀ cmd)) w := by
  obtain ⟨hn, hsending⟩ := h
  unfold sendBit
  simp only [wlp_bind, wlp_gpioDirectionOutput]
  have h1 := hsending.output (p := .data) (by simp)
    (v := decide (cmd &&& (0x800000 : U32) >>> n ≠ 0)) (by simp)
  have h2 := h1.strobe (by simp) rfl
  rw [← commandBits_take_succ cmd hn] at h2
  refine wlp_wait (by simp) (fun w3 _ hw3 _ => ?_) fun w3 hw3 => ?_
  · simp only [wlp_bind, wlp_gpioDirectionOutput]
    have h4 := (h2.waited hw3).output (p := .stb) (by simp) (v := true) (by simp)
    refine wlp_wait (by simp) (fun w5 _ hw5 _ => ?_) fun w5 hw5 => ?_
    · have h5 := h4.waited hw5
      simp only [wlp_ite, wlp_pure]
      refine ⟨fun hmore => ⟨hmore, h5⟩, fun hlast => ?_⟩
      have hall : n + 1 = 24 := by simp only [dvdCmdBitCount] at hlast; omega
      rw [hall, List.take_of_length_le (by simp)] at h5
      exact h5
    · simp only [wlp_bind, wlp_printk, wlp_gpioDirectionInput, wlp_pure]
      exact ((h4.waited hw5).printk 3 (some n)).input.input
  · simp only [wlp_bind, wlp_printk, wlp_gpioDirectionInput, wlp_pure]
    exact ((h2.waited hw3).printk 2 (some n)).input.input

/-- The command is over: `DATA` is let go behind its last bit, or an error was printed. -/
def Over (w₀ : World) (cmd : U32) (w : World) : Prop :=
  (Sending w₀ w (commandBits cmd) [] ∧ dataLevel w.log = none) ∨ Failing w₀ w []

theorem wlp_sendEnd {cmd : U32} (h : Sending w₀ w (commandBits cmd) [.stb, .data]) :
    sendEnd.wlp (fun _ => Over w₀ cmd) w := by
  unfold sendEnd
  simp only [wlp_bind, wlp_gpioDirectionInput, wlp_gpioDirectionOutput]
  have h1 := (h.swap.input.input.drive .ack).output (p := .ack) (by simp) (v := false) (by simp)
  refine wlp_wait (by simp) (fun w2 _ hw2 _ => ?_) fun w2 hw2 => ?_
  · simp only [wlp_bind, wlp_gpioDirectionOutput]
    have h3 := (h1.waited hw2).output (p := .ack) (by simp) (v := true) (by simp)
    refine wlp_wait (by simp) (fun w4 _ hw4 _ => ?_) fun w4 hw4 => ?_
    · rw [wlp_gpioDirectionInput]
      have hdata : dataLevel w4.log = none := hw4.dataLevel.trans hw2.dataLevel
      exact Or.inl ⟨(h3.waited hw4).input, hdata⟩
    · simp only [wlp_bind, wlp_printk, wlp_gpioDirectionInput]
      exact Or.inr ((h3.waited hw4).printk 5 none).input
  · simp only [wlp_bind, wlp_printk, wlp_gpioDirectionInput]
    exact Or.inr ((h1.waited hw2).printk 4 none).input

theorem wlp_sendBits {cmd : U32} (h : Sending w₀ w [] [.data]) :
    (sendBits cmd).wlp (fun _ => Over w₀ cmd) w := by
  unfold sendBits
  rw [if_pos (by decide), wlp_bind]
  have hstart : BetweenBits w₀ cmd 0 w := ⟨by decide, h.drive .stb⟩
  refine wlp_mono (wlp_iter (BetweenBits w₀ cmd) (fun n s hs => wlp_sendBit hs) hstart) ?_
  intro ok w1 h1
  cases ok with
  | true => exact wlp_sendEnd h1
  | false => exact wlp_pure.mpr (Or.inr h1)

theorem wlp_sendCommand {cmd : U32} (h : Sending w₀ w [] []) :
    (sendCommand cmd).wlp (fun _ => Over w₀ cmd) w := by
  unfold sendCommand tvUsec doGettimeofday
  simp only [wlp_bind, wlp_gpioDirectionOutput, wlp_get, wlp_modify, wlp_pure]
  have h1 := ((h.drive .data).output (p := .data) (by simp) (v := false) (by simp)).waited (waited_popClock _)
  refine wlp_waitFrom (by simp) (fun w2 _ hw2 _ => ?_) fun w2 hw2 => ?_
  · rw [if_pos rfl]
    simp only [wlp_bind, wlp_gpioDirectionOutput]
    have h3 := (h1.waited hw2).output (p := .data) (by simp) (v := true) (by simp)
    refine wlp_waitFrom (by simp) (fun w4 _ hw4 _ => ?_) fun w4 hw4 => ?_
    · rw [if_pos rfl]
      exact wlp_sendBits (h3.waited hw4)
    · rw [if_neg (by simp)]
      simp only [wlp_bind, wlp_printk, wlp_gpioDirectionInput]
      exact Or.inr ((h3.waited hw4).printk 1 none).input
  · rw [if_neg (by simp)]
    simp only [wlp_bind, wlp_printk, wlp_gpioDirectionInput]
    exact Or.inr ((h1.waited hw2).printk 0 none).input

end Command

/-! ## The bus behind both -/

/-- What `cmd_send` did, as the receiver at its end only takes words. -/
theorem Over.heard {w₀ w w' : World} {cmd : U32} (h : Over w₀ cmd w) (hheard : Heard w w') :
    w'.Released ∧ Sent cmd w₀ w' ∧ Received w₀ w' := by
  obtain ⟨hw', rest, hlen, hr⟩ := hheard
  obtain ⟨got, queued, hlens, hcarries, hsamples, hwords⟩ := hr.got
  rcases h with ⟨hs, hdata⟩ | hf
  · refine ⟨hw', fun _ _ => ?_, got, rest, queued, hlens, hlen, hcarries, ?_, ?_⟩
    · exact (hr.strobes hdata).trans hs.strobes
    · exact (grew_nil.mpr hs.samples).trans hsamples
    · exact (grew_nil.mpr hs.words).trans hwords
  · refine ⟨hw', fun _ hno => ?_, got, rest, queued, hlens, hlen, hcarries, ?_, ?_⟩
    · have herror := hf.sendErrors
      rw [← hr.sendErrors, hno] at herror
      omega
    · exact (grew_nil.mpr hf.samples).trans hsamples
    · exact (grew_nil.mpr hf.words).trans hwords

theorem Over.released {w₀ w : World} {cmd : U32} (h : Over w₀ cmd w) :
    ((w.setLocked false).emit .mutexUnlock).Released := by
  rcases h with ⟨hs, _⟩ | hf
  · exact released_iff.mpr ⟨hs.drives, rfl⟩
  · exact released_iff.mpr ⟨hf.drives, rfl⟩

theorem wlp_sendFinish {w₀ w : World} (h : w.Released) (h₀ : SameSeen w₀ w) :
    sendFinish.wlp (fun _ => Heard w₀) w := by
  have hpower : SameSeen w w.popPower := ⟨rfl, rfl, rfl, rfl, rfl⟩
  have hirq : SameSeen w ((w.popPower.emit .enableIrq).popPower) := ⟨rfl, rfl, rfl, rfl, rfl⟩
  unfold sendFinish
  rw [wlp_bind, wlp_dvdPowerOn, wlp_ite]
  constructor
  · intro _
    rw [wlp_bind, wlp_emit, wlp_bind, wlp_dvdPowerOn, wlp_ite]
    have hreleased : ((w.popPower.emit .enableIrq).popPower).Released := ⟨h.lines, h.locked⟩
    constructor
    · intro _
      rw [wlp_bind]
      exact wlp_mono (wlp_dvdRevPart2 hreleased (h₀.trans hirq)) fun _ w' hw' => wlp_pure.mpr hw'
    · intro _
      exact wlp_pure.mpr ((h₀.trans hirq).heard hreleased)
  · intro _
    exact wlp_pure.mpr ((h₀.trans hpower).heard ⟨h.lines, h.locked⟩)

theorem wlp_cmdSend {w : World} (cmd : U32) (h : w.Released) :
    (cmdSend cmd).wlp (fun _ w' => w'.Released ∧ Sent cmd w w' ∧ Received w w') w := by
  unfold cmdSend
  rw [wlp_bind, wlp_emit, wlp_bind, wlp_dvdPowerOn, wlp_ite]
  constructor
  · intro _
    rw [wlp_bind]
    refine wlp_mutexLock ?_
    have hstart : Sending w ((((w.emit .disableIrq).popPower).setLocked true).emit .mutexLock) [] [] :=
      ⟨rfl, rfl, rfl, rfl, fun p _ => h.lines p, rfl⟩
    rw [wlp_bind]
    refine wlp_mono (wlp_sendCommand hstart) fun _ w1 hover => ?_
    rw [wlp_bind, wlp_mutexUnlock]
    have hunlock : SameSeen w1 ((w1.setLocked false).emit .mutexUnlock) := ⟨rfl, rfl, rfl, rfl, rfl⟩
    exact wlp_mono (wlp_sendFinish hover.released hunlock) fun _ w' hheard => hover.heard hheard
  · intro hoff
    have hsame : SameSeen w (w.emit .disableIrq).popPower := ⟨rfl, rfl, rfl, rfl, rfl⟩
    refine wlp_pure.mpr ⟨⟨h.lines, h.locked⟩, fun hon => absurd hon hoff, ?_⟩
    exact (hsame.heard ⟨h.lines, h.locked⟩).received

/-- Behind every return of the two handshakes the bus is free again, and what crossed it is what was sent
    and queued. -/
theorem bus_released (w : World) (h : w.Released) :
    (∀ cmd, (cmdSend cmd).wlp (fun _ w' => w'.Released ∧ Sent cmd w w' ∧ Received w w') w) ∧
      dvdRevPart2.wlp (fun _ w' => w'.Released ∧ Received w w') w := by
  refine ⟨fun cmd => wlp_cmdSend cmd h, ?_⟩
  exact wlp_mono (wlp_dvdRevPart2 h (SameSeen.refl w)) fun _ w' hw' => ⟨hw'.1, hw'.received⟩

/-- A drive that is on and answers every level on `ACK` and `STB` at its first read. -/
def World.answering : World where
  levels
    | .data => Stream'.const true
    | .stb => fun n => n % 2 = 1
    | .ack => fun n => n % 2 = 1
  clock := Stream'.iterate (· + 1) 0
  power := Stream'.const true
  lines _ := none
  locked := false
  log := []

theorem bus_released_answering :
    ((cmdSend 0x0B0D0F).run 25 World.answering).map (fun r => (strobes r.2.log).reverse) =
        some (commandBits 0x0B0D0F) ∧
      (cmdSend 0x0B0D0F).wlp
        (fun _ w' => w'.Released ∧ Sent 0x0B0D0F World.answering w' ∧ Received World.answering w')
        World.answering :=
  ⟨by decide +kernel, (bus_released World.answering ⟨fun _ => rfl, rfl⟩).1 0x0B0D0F⟩

end Dvd

end MtcDrivers
