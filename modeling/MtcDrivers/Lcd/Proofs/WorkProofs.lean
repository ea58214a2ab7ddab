import MtcDrivers.Lcd.Work
import MtcDrivers.Proc.Proofs.WlpProofs

/-!
# Proofs: the LCD of the panel

The command goes out bit by bit, highest first; the loop over the bits of the first page entry is never
left, so that the work neither finishes the page nor releases the mutex, and `lcd_flash` waits for it.
-/

namespace MtcDrivers

namespace Lcd

open History Proc ShiftRegister

variable {w w' : World}

/-! ## The primitives -/

@[simp] theorem wlp_gpioDirectionOutput {p : Gpio} {v : Bool} {Q : Unit → World → Prop} :
    (gpioDirectionOutput p v).wlp Q w ↔ Q () (w.setLine p v) :=
  wlp_modify

@[simp] theorem wlp_tvUsec {Q : ℕ → World → Prop} :
    tvUsec.wlp Q w ↔ Q (w.clock.head % 1000000) { w with clock := w.clock.tail } := by
  simp only [tvUsec, wlp_bind, wlp_get, wlp_modify, wlp_pure]

/-- Only the clock has run on. -/
def ClockRan (w w' : World) : Prop := ∃ clock, w' = { w with clock := clock }

theorem wlp_lcdDelay {Q : Unit → World → Prop} (hQ : ∀ w', ClockRan w w' → Q () w') :
    lcdDelay.wlp Q w := by
  simp only [lcdDelay, wlp_bind, wlp_tvUsec]
  refine wlp_repeatUntil (ClockRan w) ?_ ⟨_, rfl⟩
  rintro _ ⟨clock, rfl⟩
  have hran : ClockRan w { w with clock := clock.tail } := ⟨_, rfl⟩
  simp only [wlp_bind, wlp_tvUsec, wlp_ite, wlp_pure]
  exact ⟨fun _ => hran, fun _ => hQ _ hran⟩

/-- The line events of one clock pulse. -/
def pulse (bit : Bool) : List Event :=
  [.directionOutput .clk false, .directionOutput .dat bit, .directionOutput .clk true]

theorem wlp_clockBit {bit : Bool} {shifted : U32} {Q : U32 → World → Prop}
    (hQ : ∀ w', Grew World.log (pulse bit) w w' → Q shifted w') : (clockBit bit shifted).wlp Q w := by
  simp only [clockBit, wlp_bind, wlp_gpioDirectionOutput]
  refine wlp_lcdDelay ?_
  rintro _ ⟨clock, rfl⟩
  refine wlp_lcdDelay ?_
  rintro _ ⟨clock', rfl⟩
  exact wlp_pure.mpr (hQ _ rfl)

/-! ## The command -/

/-- The level that the loop sends for bit `k` of the command. -/
theorem command_bit (k : ℕ) (hk : k < 9) :
    (msbFirst (0x140 : BitVec 9)).take (k + 1) =
      (msbFirst (0x140 : BitVec 9)).take k ++ [decide ((320#32 <<< k) &&& 0x100 ≠ 0)] := by
  have h : ∀ k < 9, (msbFirst (0x140 : BitVec 9)).take (k + 1) =
      (msbFirst (0x140 : BitVec 9)).take k ++ [decide ((320#32 <<< k) &&& 0x100 ≠ 0)] := by
    decide
  exact h k hk

/-- The command goes out, most significant bit first. -/
theorem command_sent : (Proc.iter commandPass (320, 9)).wlp
    (fun _ w' => Grew World.log ((msbFirst (0x140 : BitVec 9)).flatMap pulse) w w') w := by
  -- after `k` passes the first `k` bits are out
  refine wlp_iter (fun b w' => ∃ k ≤ 9, b = (320#32 <<< k, 9 - k) ∧
    Grew World.log (((msbFirst (0x140 : BitVec 9)).take k).flatMap pulse) w w') ?_ ⟨0, by decide, rfl, rfl⟩
  rintro _ w1 ⟨k, hk, rfl, hsent⟩
  simp only [commandPass, wlp_ite, wlp_bind, wlp_pure, Sum.elim_inl, Sum.elim_inr]
  constructor
  · intro hmore
    have hlt : k < 9 := by omega
    refine wlp_clockBit fun w2 hgrew => ⟨k + 1, hlt, ?_, ?_⟩
    · rw [← BitVec.shiftLeft_add, Nat.sub_sub]
    · rw [command_bit k hlt, List.flatMap_append]
      exact hsent.trans (by simpa using hgrew)
  · intro hdone
    have hnine : k = 9 := by omega
    subst hnine
    rwa [List.take_of_length_le (by simp)] at hsent

/-! ## The page -/

/-- Every pass of `while (4)` sends the lowest bit of what is left, and another one follows. -/
theorem nibblePass_goes_on (v : U32) : (nibblePass v).wlp (fun x w' =>
    x = .inl (v.sshiftRight 1) ∧ Grew World.log (pulse (v.getLsbD 0)) w w') w := by
  have hbit : decide (v &&& 1 ≠ 0) = v.getLsbD 0 := by
    rw [← testBit_mask (m := 1#32) (by decide : 0 < 32) rfl]
    by_cases h : v &&& 1#32 = 0 <;> simp [h]
  simp only [nibblePass, wlp_bind, wlp_pure, hbit]
  exact wlp_clockBit fun w' hgrew => ⟨rfl, hgrew⟩

/-- The loop over the bits of an entry is never left. -/
theorem nibbleLoop_diverges {Q : Unit → World → Prop} (v : U32) : (Proc.iter nibblePass v).wlp Q w :=
  wlp_iter_forever (fun _ _ => True)
    (fun v _ _ => wlp_mono (nibblePass_goes_on v) fun _ _ h => ⟨_, h.1, trivial⟩) trivial

theorem pageLoop_diverges {Q : Unit → World → Prop} : (Proc.iter pagePass 0).wlp Q w := by
  refine wlp_iter (fun i _ => i = 0) ?_ rfl
  rintro _ w1 rfl
  have hfirst : (0 : ℕ) < 32 := by decide
  simp only [pagePass, if_pos hfirst, wlp_bind, wlp_get]
  exact nibbleLoop_diverges _

/-- The work does not return: it waits for the mutex, or it sends the bits of the first entry for ever. -/
theorem lcdWork_diverges {Q : Unit → World → Prop} (w : World) : lcdWork.wlp Q w := by
  simp only [lcdWork, wlp_bind]
  rintro _ w1 -
  exact pageLoop_diverges

/-- For no content of the page and in no state does the work refresh the LCD. -/
theorem lcdWork_never_refreshes (w : World) : ¬lcdWork.wp (fun _ w' => Refreshed w w') w :=
  not_wp_of_wlp_false (lcdWork_diverges w)

/-- A zero page, a free mutex and a clock that runs on. -/
def idleWorld : World := ⟨Vector.replicate 32 0, 1, false, fun n => 10 * n, fun _ => true, []⟩

theorem lcdWork_fails : ¬∀ page : Vector U8 32,
    lcdWork.wp (fun _ w' => Refreshed { idleWorld with page := page } w')
      { idleWorld with page := page } := by
  intro h
  obtain ⟨_, w', hends, -⟩ := h (Vector.replicate 32 0)
  exact lcdWork_diverges (Q := fun _ _ => False) _ _ _ hends

/-! ## The mutex -/

/-- `mutex_lock` waits for ever while nobody releases the mutex. -/
theorem mutexLock_waits {Q : Unit → World → Prop} (hlocked : w.locked = true) : mutexLock.wlp Q w := by
  refine wlp_iter_forever (fun _ w' => w'.locked = true) ?_ hlocked
  rintro _ w1 hlocked1
  simp only [wlp_bind, wlp_get, if_pos hlocked1, wlp_pure]
  exact ⟨(), trivial, hlocked1⟩

/-- While the work holds the mutex, `lcd_flash` does not return. -/
theorem lcdFlash_waits {Q : Unit → World → Prop} (mask : U32) (henabled : w.enabled ≠ 0)
    (hlocked : w.locked = true) : (lcdFlash mask).wlp Q w := by
  simp only [lcdFlash, wlp_bind, wlp_get, if_neg henabled, wlp_modify]
  exact mutexLock_waits hlocked

end Lcd

end MtcDrivers
