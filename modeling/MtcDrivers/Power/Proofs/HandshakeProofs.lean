import MtcDrivers.Power.Handshake
import MtcDrivers.Proc.Proofs.WlpProofs

/-!
# Proofs: the waiting ends

A waiting loop sleeps until the report or until its counter is used up. Nothing that follows looks at
`rpt_power`, so that an item comes to what it is without its waiting.
-/

namespace MtcDrivers

namespace PowerWait

variable {reports : ℕ → Bool} {ms n t : ℕ} {w w' : PowerWait}

instance (start n : ℕ) : Decidable (Silent reports start n) :=
  inferInstanceAs (Decidable (∀ i < n, reports (start + i) = false))

@[simp] theorem wp_onPower {f : Power → Power} {Q : Unit → PowerWait → Prop} :
    (onPower f).wp Q w ↔ Q () { w with power := f w.power } := Proc.wp_modify

/-! ## A waiting loop -/

/-- The state after so many sleeps. -/
def slept (reports : ℕ → Bool) (ms n : ℕ) (w : PowerWait) : PowerWait :=
  ⟨if Silent reports w.sleeps n then w.power else reported w.power, w.sleeps + n, w.elapsed + ms * n⟩

theorem silent_zero (start : ℕ) : Silent reports start 0 := fun _ hi => absurd hi (Nat.not_lt_zero _)

theorem silent_succ {start : ℕ} :
    Silent reports start (n + 1) ↔ Silent reports start n ∧ reports (start + n) = false := by
  constructor
  · intro h
    exact ⟨fun i hi => h i (by omega), h n (Nat.lt_succ_self n)⟩
  · rintro ⟨h, hlast⟩ i hi
    rcases Nat.lt_succ_iff_lt_or_eq.mp hi with hlt | rfl
    · exact h i hlt
    · exact hlast

theorem slept_zero : slept reports ms 0 w = w := by
  rw [slept, if_pos (silent_zero _)]
  rfl

/-- One sleep more. -/
theorem slept_succ : slept reports ms (n + 1) w =
    ⟨if reports (w.sleeps + n) then reported (slept reports ms n w).power else (slept reports ms n w).power,
      (slept reports ms n w).sleeps + 1, (slept reports ms n w).elapsed + ms⟩ := by
  unfold slept
  by_cases hsilent : Silent reports w.sleeps n
  · cases hreport : reports (w.sleeps + n) with
    | true =>
      have hnot : ¬ Silent reports w.sleeps (n + 1) := fun h => by simp [(silent_succ.mp h).2] at hreport
      simp only [if_pos hsilent, if_neg hnot, if_true, Nat.add_assoc, Nat.mul_succ]
    | false =>
      have hall : Silent reports w.sleeps (n + 1) := silent_succ.mpr ⟨hsilent, hreport⟩
      simp only [if_pos hsilent, if_pos hall, Bool.false_eq_true, if_false, Nat.add_assoc, Nat.mul_succ]
  · have hnot : ¬ Silent reports w.sleeps (n + 1) := fun h => hsilent (silent_succ.mp h).1
    have htwice : reported (reported w.power) = reported w.power := rfl
    simp only [if_neg hsilent, if_neg hnot, htwice, ite_self, Nat.add_assoc, Nat.mul_succ]

theorem wp_msleep {Q : Unit → PowerWait → Prop} :
    (msleep reports ms).wp Q (slept reports ms n w) ↔ Q () (slept reports ms (n + 1) w) := by
  rw [slept_succ]
  exact Proc.wp_modify

/-- How many sleeps a waiting loop takes. -/
structure Waited (reports : ℕ → Bool) (t : ℕ) (w : PowerWait) (n : ℕ) : Prop where
  pos : 0 < n
  le : n ≤ t
  reported : w.power.rptPower = 0 → n = 1
  silent : Silent reports w.sleeps (n - 1)
  answered : w.power.rptPower ≠ 0 → n < t → reports (w.sleeps + (n - 1)) = true

theorem rptPower_slept : (slept reports ms n w).power.rptPower =
    if Silent reports w.sleeps n then w.power.rptPower else 0 := by
  unfold slept
  dsimp only
  split <;> rfl

theorem wp_waitReport (ms : ℕ) (ht : 0 < t) (w : PowerWait) :
    (waitReport reports ms t).wp (fun _ w' => ∃ n, Waited reports t w n ∧ w' = slept reports ms n w) w := by
  refine Proc.wp_iter
    (fun t' w' => ∃ n, 0 < t' ∧ t' + n = t ∧ w' = slept reports ms n w ∧
      Silent reports w.sleeps n ∧ (0 < n → w.power.rptPower ≠ 0))
    (fun t' _ => t') ?_ ⟨0, ht, rfl, slept_zero.symm, silent_zero _, fun h => absurd h (Nat.lt_irrefl 0)⟩
  rintro t' _ ⟨n, hpos, hsum, rfl, hsilent, hrpt⟩
  simp only [waitPass, Proc.wp_bind]
  rw [wp_msleep]
  simp only [Proc.wp_get, Proc.wp_ite, Proc.wp_pure, Sum.elim_inl, Sum.elim_inr]
  constructor
  · rintro ⟨hset, hmore⟩
    -- no report has come so far
    rw [rptPower_slept] at hset
    by_cases hall : Silent reports w.sleeps (n + 1)
    · rw [if_pos hall] at hset
      exact ⟨⟨n + 1, by omega, by omega, rfl, hall, fun _ => hset⟩, by omega⟩
    · rw [if_neg hall] at hset
      exact absurd rfl hset
  · intro hend
    refine ⟨n + 1, ⟨Nat.succ_pos n, by omega, fun hzero => ?_, hsilent, fun hset hlt => ?_⟩, rfl⟩
    · rcases Nat.eq_zero_or_pos n with rfl | hn
      · rfl
      · exact absurd hzero (hrpt hn)
    · rw [Nat.add_sub_cancel]
      cases hreport : reports (w.sleeps + n) with
      | true => rfl
      | false =>
        have hall : Silent reports w.sleeps (n + 1) := silent_succ.mpr ⟨hsilent, hreport⟩
        refine absurd ⟨?_, by omega⟩ hend
        rw [rptPower_slept, if_pos hall]
        exact hset

/-! ## The number of sleeps -/

variable {k : ℕ}

theorem silent_le {start : ℕ} (h : Silent reports start n) (hk : k ≤ n) : Silent reports start k :=
  fun i hi => h i (by omega)

theorem not_silent {start : ℕ} (hreport : reports (start + k) = true) (hk : k < n) : ¬ Silent reports start n := by
  intro h
  rw [h k hk] at hreport
  exact Bool.false_ne_true hreport

/-- A loop ends with the first report. -/
theorem Waited.eq_of_report (h : Waited reports t w n) (hset : w.power.rptPower ≠ 0) (hk : k < t)
    (hsilent : Silent reports w.sleeps k) (hreport : reports (w.sleeps + k) = true) : n = k + 1 := by
  have hpos := h.pos
  have hle : n - 1 ≤ k := by
    by_cases hlt : k < n - 1
    · exact absurd h.silent (not_silent hreport hlt)
    · omega
  rcases Nat.lt_or_ge (n - 1) k with hlt | hge
  · have hearly := h.answered hset (by omega)
    rw [hsilent (n - 1) hlt] at hearly
    exact absurd hearly Bool.false_ne_true
  · omega

/-- Without one it uses up its counter. -/
theorem Waited.eq_of_silent (h : Waited reports t w n) (hset : w.power.rptPower ≠ 0)
    (hsilent : Silent reports w.sleeps t) : n = t := by
  have hpos := h.pos
  have hle := h.le
  rcases Nat.lt_or_ge n t with hlt | hge
  · have hearly := h.answered hset hlt
    rw [hsilent (n - 1) (by omega)] at hearly
    exact absurd hearly Bool.false_ne_true
  · omega

/-! ## The two loops of an item -/

theorem powerSoftOff_rptPower (p : Power) (r : U8) :
    ({ p with rptPower := r } : Power).powerSoftOff = { p.powerSoftOff with rptPower := r } := by
  by_cases hcall : p.callActive = 0#8
  · simp [Power.powerSoftOff, Power.setRefcnt, Power.emit, hcall]
  · simp [Power.powerSoftOff, Power.setRefcnt, Power.emit, hcall]

theorem rptPower_powerSoftOff (p : Power) : p.powerSoftOff.rptPower = p.rptPower := by
  unfold Power.powerSoftOff
  dsimp only
  split <;> rfl

theorem exists_power_slept (reports : Nat → Bool) (ms n : Nat) (w : PowerWait) :
    ∃ r, (slept reports ms n w).power = { w.power with rptPower := r } := by
  unfold slept
  dsimp only
  split
  · exact ⟨w.power.rptPower, rfl⟩
  · exact ⟨0, rfl⟩

/-- The times of an item that has asked the app when `s` sleeps had been made, at the time `e`. -/
structure Timed (reports : ℕ → Bool) (pace s e : ℕ) (w' : PowerWait) : Prop where
  limit : w'.elapsed ≤ e + pace * 40 + 4000
  answered : ∀ k < 40, Silent reports s k → reports (s + k) = true →
    w'.elapsed = e + pace * (k + 1) + 50 ∧ w'.power.rptPower = 0
  late : ∀ k < 80, Silent reports s (40 + k) → reports (s + 40 + k) = true →
    w'.elapsed = e + pace * 40 + 50 * (k + 1) ∧ w'.power.rptPower = 0
  silent : Silent reports s 120 → w'.elapsed = e + pace * 40 + 4000 ∧ w'.power.rptPower = 1

theorem timed_of_waited {p : Power} {pace s e m : ℕ} (hset : p.rptPower = 1)
    (hn : Waited reports 40 ⟨p, s, e⟩ n)
    (hm : Waited reports 80
      ⟨(slept reports pace n ⟨p, s, e⟩).power.powerSoftOff, s + n, e + pace * n⟩ m) :
    Timed reports pace s e
      (slept reports 50 m ⟨(slept reports pace n ⟨p, s, e⟩).power.powerSoftOff, s + n, e + pace * n⟩) := by
  have hone : p.rptPower ≠ 0 := by
    rw [hset]
    decide
  have hrpt : (slept reports pace n ⟨p, s, e⟩).power.powerSoftOff.rptPower =
      if Silent reports s n then 1 else 0 := by
    rw [rptPower_powerSoftOff, rptPower_slept, hset]
  have hnle := hn.le
  have hmle := hm.le
  constructor
  · have hfirst : pace * n ≤ pace * 40 := Nat.mul_le_mul_left pace hnle
    show e + pace * n + 50 * m ≤ _
    omega
  · intro k hk hsilent hreport
    obtain rfl := hn.eq_of_report hone hk hsilent hreport
    rw [if_neg (not_silent hreport (Nat.lt_succ_self k))] at hrpt
    obtain rfl := hm.reported hrpt
    refine ⟨rfl, ?_⟩
    rw [rptPower_slept, hrpt, ite_self]
  · intro k hk hsilent hreport
    obtain rfl := hn.eq_of_silent hone (silent_le hsilent (by omega))
    rw [if_pos (silent_le hsilent (by omega))] at hrpt
    have hrest : Silent reports (s + 40) k := by
      intro i hi
      rw [Nat.add_assoc]
      exact hsilent (40 + i) (by omega)
    have hsecond : (slept reports pace 40 ⟨p, s, e⟩).power.powerSoftOff.rptPower ≠ 0 := by
      rw [hrpt]
      decide
    obtain rfl := hm.eq_of_report hsecond hk hrest hreport
    refine ⟨rfl, ?_⟩
    rw [rptPower_slept, if_neg (not_silent hreport (Nat.lt_succ_self k))]
  · intro hsilent
    obtain rfl := hn.eq_of_silent hone (silent_le hsilent (by omega))
    rw [if_pos (silent_le hsilent (by omega))] at hrpt
    have hrest : Silent reports (s + 40) 80 := by
      intro i hi
      rw [Nat.add_assoc]
      exact hsilent (40 + i) (by omega)
    have hsecond : (slept reports pace 40 ⟨p, s, e⟩).power.powerSoftOff.rptPower ≠ 0 := by
      rw [hrpt]
      decide
    obtain rfl := hm.eq_of_silent hsecond hrest
    refine ⟨rfl, ?_⟩
    rw [rptPower_slept, if_pos hrest, hrpt]

/-- The waiting of an item that asks the app. -/
theorem wp_asked {p : Power} {pace s e : ℕ} (hset : p.rptPower = 1) {Q : Unit → PowerWait → Prop}
    (hQ : ∀ w' r, Timed reports pace s e w' → w'.power = { p.powerSoftOff with rptPower := r } → Q () w') :
    (waitReport reports pace 40).wp (fun _ w1 =>
      (waitReport reports 50 80).wp Q { w1 with power := w1.power.powerSoftOff }) ⟨p, s, e⟩ := by
  refine Proc.wp_mono (wp_waitReport pace (by decide) ⟨p, s, e⟩) ?_
  rintro - _ ⟨n, hn, rfl⟩
  refine Proc.wp_mono (wp_waitReport 50 (by decide) _) ?_
  rintro - _ ⟨m, hm, rfl⟩
  obtain ⟨r, hr⟩ := exists_power_slept reports pace n ⟨p, s, e⟩
  obtain ⟨r', hr'⟩ := exists_power_slept reports 50 m
    ⟨(slept reports pace n ⟨p, s, e⟩).power.powerSoftOff, s + n, e + pace * n⟩
  refine hQ _ r' (timed_of_waited hset hn hm) (hr'.trans ?_)
  dsimp only
  rw [hr]
  dsimp only
  rw [powerSoftOff_rptPower]

/-- The waiting of an item that does not. -/
theorem wp_unasked {p : Power} {s e : ℕ} {Q : Unit → PowerWait → Prop}
    (hQ : ∀ w' r, w'.elapsed ≤ e + 4000 → w'.power = { p with rptPower := r } → Q () w') :
    (waitReport reports 50 80).wp Q ⟨p, s, e⟩ := by
  refine Proc.wp_mono (wp_waitReport 50 (by decide) ⟨p, s, e⟩) ?_
  rintro - _ ⟨m, hm, rfl⟩
  obtain ⟨r, hr⟩ := exists_power_slept reports 50 m ⟨p, s, e⟩
  have hle := hm.le
  refine hQ _ r ?_ hr
  show e + 50 * m ≤ e + 4000
  omega

/-! ## The items -/

theorem Settled.of_timed {item : PowerItem} {w w' : PowerWait}
    (hlimits : item.limits = (item.pace * 40, item.pace * 40 + 4000))
    (hpower : ∃ r, w'.power = { item.atomic w.power with rptPower := r })
    (h : Timed reports item.pace w.sleeps w.elapsed w') : Settled reports item w w' where
  power := hpower
  limit := by
    rw [hlimits]
    dsimp only
    rw [← Nat.add_assoc]
    exact h.limit
  answered k hk _ := h.answered k hk
  late k hk _ hsilent hreport := by
    rw [hlimits]
    dsimp only
    exact h.late k hk hsilent hreport
  silent _ hnone := by
    rw [hlimits]
    dsimp only
    rw [← Nat.add_assoc]
    exact h.silent hnone

theorem Settled.of_unasked {item : PowerItem} {w w' : PowerWait} (hasks : ¬ item.Asks w.power)
    (hpower : ∃ r, w'.power = { item.atomic w.power with rptPower := r })
    (hlimit : w'.elapsed ≤ w.elapsed + item.limits.2) : Settled reports item w w' where
  power := hpower
  limit := hlimit
  answered _ _ h := absurd h hasks
  late _ _ h := absurd h hasks
  silent h := absurd h hasks

theorem emit_rptPower (p : Power) (r : U8) (e : PowerEvent) :
    ({ p with rptPower := r } : Power).emit e = { p.emit e with rptPower := r } := rfl

theorem callActive_beforeOff (p : Power) : (beforeOff p).callActive = p.callActive := by
  unfold beforeOff
  extract_lets q
  split <;> rfl

theorem refcnt_beforeOffAcc (p : Power) : (beforeOffAcc p).refcnt = p.refcnt := by
  unfold beforeOffAcc
  extract_lets q
  split
  · rfl
  · split <;> rfl

theorem wp_runOff (w : PowerWait) : (runOff reports).wp (fun _ => Settled reports .off w) w := by
  have hatomic : w.power.workOff =
      (if (beforeOff w.power).callActive ≠ 0 then announce (beforeOff w.power)
        else beforeOff w.power).powerSoftOff.emit (.armSend 0x20B) := rfl
  unfold runOff
  simp only [Proc.wp_bind, wp_onPower, Proc.wp_get, Proc.wp_ite]
  constructor
  · intro hcall
    refine wp_asked rfl fun w' r htimed hpower => Settled.of_timed rfl ⟨r, ?_⟩ ⟨htimed.1, htimed.2, htimed.3, htimed.4⟩
    show w'.power.emit (.armSend 0x20B) = { w.power.workOff with rptPower := r }
    rw [hpower, emit_rptPower, hatomic, if_pos hcall]
  · intro hcall
    refine wp_unasked fun w' r hlimit hpower => Settled.of_unasked ?_ ⟨r, ?_⟩ ?_
    · show ¬ w.power.callActive ≠ 0
      rwa [← callActive_beforeOff]
    · show w'.power.emit (.armSend 0x20B) = { w.power.workOff with rptPower := r }
      rw [hpower, emit_rptPower, hatomic, if_neg hcall]
    · exact Nat.le_trans hlimit (Nat.add_le_add_left (by decide) _)

theorem wp_runOffAcc (w : PowerWait) : (runOffAcc reports).wp (fun _ => Settled reports .offAcc w) w := by
  have hatomic : w.power.workOffAcc =
      (if (beforeOffAcc w.power).refcnt ≠ 0 then announce ((beforeOffAcc w.power).setRefcnt 0)
        else beforeOffAcc w.power).powerSoftOff := rfl
  unfold runOffAcc
  simp only [Proc.wp_bind, wp_onPower, Proc.wp_get, Proc.wp_ite]
  constructor
  · intro hheld
    refine wp_asked rfl fun w' r htimed hpower => Settled.of_timed rfl ⟨r, ?_⟩ htimed
    show w'.power = { w.power.workOffAcc with rptPower := r }
    rw [hpower, hatomic, if_pos hheld]
  · intro hheld
    refine wp_unasked fun w' r hlimit hpower => Settled.of_unasked ?_ ⟨r, ?_⟩ ?_
    · show ¬ w.power.refcnt ≠ 0
      rwa [← refcnt_beforeOffAcc]
    · show w'.power = { w.power.workOffAcc with rptPower := r }
      rw [hpower, hatomic, if_neg hheld]
    · exact Nat.le_trans hlimit (Nat.add_le_add_left (by decide) _)

/-- An item without waiting. -/
theorem settled_atomic {item : PowerItem} (hasks : ¬ item.Asks w.power) :
    Settled reports item w { w with power := item.atomic w.power } :=
  Settled.of_unasked hasks ⟨(item.atomic w.power).rptPower, rfl⟩ (Nat.le_add_right _ _)

theorem wp_run (item : PowerItem) (w : PowerWait) : (run reports item).wp (fun _ => Settled reports item w) w := by
  cases item with
  | off => exact wp_runOff w
  | offAcc => exact wp_runOffAcc w
  | acquire => exact wp_onPower.mpr (settled_atomic id)
  | release => exact wp_onPower.mpr (settled_atomic id)
  | on cmd2 => exact wp_onPower.mpr (settled_atomic id)

end PowerWait

end MtcDrivers
