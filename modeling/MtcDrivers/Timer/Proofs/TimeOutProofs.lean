import Mathlib.Data.Stream.Init
import MtcDrivers.Link.Proofs.WorldProofs
import MtcDrivers.Timer.TimeOut

/-!
# Proofs: `CheckTimeOut`

The difference of the microseconds, with its one correction, is the time since the start modulo a second.
Among readings that are close enough to each other the first timeout of that difference is the first reading
that is late.
-/

namespace MtcDrivers

open Proc Search Wraparound

/-- The corrected difference of two microsecond parts. -/
theorem usec_difference {t0 t : ℕ} (h : t0 ≤ t) :
    (if ((t % 1000000 : ℕ) : ℤ) < (t0 % 1000000 : ℕ) then ((t % 1000000 : ℕ) : ℤ) + 1000000
      else (t % 1000000 : ℕ)) - (t0 % 1000000 : ℕ) = ((t - t0) % 1000000 : ℕ) := by
  split <;> omega

/-- The test of `CheckTimeOut` in `car.c`, on the whole times. -/
theorem timedOut_eq {t0 t : ℕ} (h : t0 ≤ t) :
    timedOut ((t0 % 1000000 : ℕ) : ℤ) ((t % 1000000 : ℕ) : ℤ) =
      decide (250000 ≤ (t - t0) % 1000000) := by
  rw [timedOut, usec_difference h, decide_eq_decide]
  omega

/-- The test of `CheckTimeOut` in `dvd.c`, on the whole times. -/
theorem Dvd.timedOut_eq {t0 t : ℕ} (h : t0 ≤ t) :
    Dvd.timedOut ((t0 % 1000000 : ℕ) : ℤ) ((t % 1000000 : ℕ) : ℤ) =
      decide (50000 ≤ (t - t0) % 1000000) := by
  rw [Dvd.timedOut, usec_difference h, decide_eq_decide]
  omega

/-- Answers modulo a second, on readings that are close to each other. -/
theorem firstLate_of_steps {d n : ℕ} {clock : ℕ → ℕ} {answer : ℕ → Bool} (hd : 0 < d) (hP : d ≤ 1000000)
    (hsteps : Steps (1000000 - d) n clock)
    (hanswer : ∀ k < n, answer k = decide (d ≤ (clock (k + 1) - clock 0) % 1000000)) :
    FirstLate d clock ((List.range n).map answer) := by
  intro k
  have hlen : ((List.range n).map answer).length = n := by simp
  have hget : ∀ i < n, ((List.range n).map answer)[i]? = some true ↔
      d ≤ (clock (i + 1) - clock 0) % 1000000 := by
    intro i hi
    simp [hi, hanswer i hi]
  rw [hlen, ← hsteps.first_timeout_iff hd hP k]
  constructor
  · intro hfirst
    refine ⟨hfirst.lt, (hget k hfirst.lt).mp hfirst.holds, fun i hi hlate => ?_⟩
    exact hfirst.before i hi ((hget i (by have := hfirst.lt; omega)).mpr hlate)
  · intro hfirst
    refine ⟨hfirst.lt, (hget k hfirst.lt).mpr hfirst.holds, fun i hi htrue => ?_⟩
    exact hfirst.before i hi ((hget i (by have := hfirst.lt; omega)).mp htrue)

/-- A procedure that answers by the next reading of a clock, run several times. -/
theorem wp_collect_clock {σ : Type} (clk : σ → Stream' ℕ) {check : Proc σ Bool} (answer : ℕ → Bool)
    (hcheck : ∀ s, check.wp (fun b s' => b = answer (clk s).head ∧ clk s' = (clk s).tail) s) (n : ℕ) (s : σ) :
    (collect check n).wp
      (fun answers _ => answers = (List.range n).map fun k => answer ((clk s).get k)) s := by
  refine wp_mono (wp_collect (fun k s' => clk s' = (clk s).drop k) (fun k => answer ((clk s).get k)) n ?_
    (k := 0) rfl) ?_
  · intro k s1 h1
    refine wp_mono (hcheck s1) ?_
    rintro b s2 ⟨rfl, h2⟩
    rw [h2, h1]
    refine ⟨?_, Stream'.tail_drop'⟩
    rw [Stream'.head_drop]
  · rintro answers _ ⟨rfl, -⟩
    simp

/-- The first `true` of `CheckTimeOut` comes with the first poll that is late, if the polls of the MCU link
are less than 750 ms apart and those of the DVD bus less than 950 ms. -/
theorem checkTimeOut_first_late (n : ℕ) :
    (∀ w : World, Steps 750000 n w.clock.get →
      (timeOutAnswers n).wp (fun answers _ =>
        answers.length = n ∧ FirstLate 250000 w.clock.get answers) w) ∧
    ∀ w : Dvd.World, Steps 950000 n w.clock.get →
      (Dvd.timeOutAnswers n).wp (fun answers _ =>
        answers.length = n ∧ FirstLate 50000 w.clock.get answers) w := by
  constructor
  · intro w hsteps
    have hcheck : ∀ (timeout : ℤ) (w : World), (checkTimeOut timeout).wp (fun b w' =>
        b = timedOut timeout ((w.clock.head % 1000000 : ℕ) : ℤ) ∧ w'.clock = w.clock.tail) w :=
      fun timeout w => wp_checkTimeOut.mpr ⟨rfl, rfl⟩
    rw [timeOutAnswers, wp_bind, wp_getCurTimer]
    refine wp_mono (wp_collect_clock World.clock (fun t =>
      timedOut ((w.clock.get 0 % 1000000 : ℕ) : ℤ) ((t % 1000000 : ℕ) : ℤ)) (hcheck _) n _) ?_
    rintro answers _ rfl
    refine ⟨by simp, firstLate_of_steps (by omega) (by omega) hsteps fun k hk => ?_⟩
    exact timedOut_eq (hsteps.le_of_le hk)
  · intro w hsteps
    have hcheck : ∀ (timeout : ℤ) (w : Dvd.World), (Dvd.checkTimeOut timeout).wp (fun b w' =>
        b = Dvd.timedOut timeout ((w.clock.head % 1000000 : ℕ) : ℤ) ∧ w'.clock = w.clock.tail) w := by
      intro timeout w
      simp only [Dvd.checkTimeOut, Dvd.tvUsec, Dvd.doGettimeofday, wp_bind, wp_get, wp_modify, wp_pure]
      exact ⟨trivial, rfl⟩
    simp only [Dvd.timeOutAnswers, Dvd.tvUsec, Dvd.doGettimeofday, wp_bind, wp_get, wp_modify, wp_pure]
    refine wp_mono (wp_collect_clock Dvd.World.clock (fun t =>
      Dvd.timedOut ((w.clock.get 0 % 1000000 : ℕ) : ℤ) ((t % 1000000 : ℕ) : ℤ)) (hcheck _) n _) ?_
    rintro answers _ rfl
    refine ⟨by simp, firstLate_of_steps (by omega) (by omega) hsteps fun k hk => ?_⟩
    exact Dvd.timedOut_eq (hsteps.le_of_le hk)

/-- Polls every 100 ms, from 900 ms behind a full second on. -/
def lateClock : Stream' ℕ := fun k => 100000 * (k + 9)

def lateWorld : World :=
  ⟨fun _ _ => true, lateClock, fun _ => ⟨0, fun _ => 0⟩, fun _ => ⟨false, true⟩, default, []⟩

def Dvd.lateWorld : Dvd.World := ⟨fun _ _ => true, lateClock, fun _ => true, fun _ => none, false, []⟩

theorem checkTimeOut_first_late_wrapped :
    (timeOutAnswers 4).wp (fun answers _ =>
        answers.length = 4 ∧ FirstLate 250000 lateWorld.clock.get answers) lateWorld ∧
      (Dvd.timeOutAnswers 4).wp (fun answers _ =>
        answers.length = 4 ∧ FirstLate 50000 Dvd.lateWorld.clock.get answers) Dvd.lateWorld := by
  have hsteps : ∀ step, 100000 < step → Steps step 4 lateClock.get := by
    intro step hstep
    refine ⟨fun m _ => ?_, fun m _ => ?_⟩
    · change 100000 * (m + 9) ≤ 100000 * (m + 1 + 9)
      omega
    · change 100000 * (m + 1 + 9) < 100000 * (m + 9) + step
      omega
  exact ⟨(checkTimeOut_first_late 4).1 lateWorld (hsteps 750000 (by decide)),
    (checkTimeOut_first_late 4).2 Dvd.lateWorld (hsteps 950000 (by decide))⟩

end MtcDrivers
