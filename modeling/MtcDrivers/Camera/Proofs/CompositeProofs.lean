import Mathlib.Tactic.SplitIfs
import MtcDrivers.Camera.Composite
import MtcDrivers.Search.First

/-!
# Proofs: composite detection

Each poll has a verdict that depends on the readings alone, and the loop ends with the first one. The
counters of the loop are the lengths of two streaks.
-/

namespace MtcDrivers

open Streak Wraparound Search

namespace Composite

variable {t : PageTables} {io : PollInput} {n : ℕ} {s : Composite}

/-! ## What one poll decides -/

/-- The result that the poll brings, if it brings one. -/
def verdict (io : PollInput) (n : ℕ) : Option U8 :=
  if 200000 ≤ (io.clock (n + 1) - io.clock 0) % 1000000 then some 1
  else if 5 ≤ length io.sig (n + 1) then some 1
  else if 4 ≤ length io.pal (n + 1) then some 2
  else none

theorem timedOut_eq {start cur : ℕ} (h : start ≤ cur) :
    timedOut (start % 1000000) (cur % 1000000) = decide (200000 ≤ (cur - start) % 1000000) := by
  unfold timedOut
  rw [decide_eq_decide]
  split <;> omega

/-- A counter of the loop holds a streak that has not reached its bound. -/
structure Counter (p : ℕ → Bool) (bound n : ℕ) (cnt : U8) : Prop where
  value : cnt.toNat = length p n
  lt : length p n < bound

theorem counter_zero {p : ℕ → Bool} {bound : ℕ} (h : 0 < bound) : Counter p bound 0 0 := ⟨rfl, h⟩

/-- One poll, and the test whether the bound is reached. -/
theorem Counter.step {p : ℕ → Bool} {bound : ℕ} {cnt : U8} (h : Counter p bound n cnt)
    (test : Prop) [Decidable test] (k : U8) (hk : k.toNat = bound) (htest : p n = decide test) :
    (if test then cnt + 1 else 0).toNat = length p (n + 1) ∧
      (test ∧ (if test then cnt + 1 else 0) = k ↔ bound ≤ length p (n + 1)) := by
  have hlt := h.lt
  have hbound := k.isLt
  by_cases ht : test
  · have hone : (cnt + 1).toNat = length p n + 1 := by
      rw [BitVec.toNat_add, h.value, show (1 : U8).toNat = 1 from rfl]
      omega
    rw [if_pos ht, length_succ_of_true (htest.trans (decide_eq_true ht))]
    refine ⟨hone, ?_⟩
    rw [and_iff_right ht, ← BitVec.toNat_inj, hone, hk]
    omega
  · rw [if_neg ht, length_succ_of_false (htest.trans (decide_eq_false ht))]
    refine ⟨rfl, ?_⟩
    constructor
    · exact fun hand => absurd hand.1 ht
    · intro hle
      omega

/-! ## The loop -/

/-- What a result leaves behind. -/
def landed (t : PageTables) (result : U8) (s : Composite) : Composite :=
  if result = 2 then ((s.setCvbsAuto 1).writePages t .pal).resetDecoder else s

/-- The state of the loop in front of poll `n`. -/
structure Counts (io : PollInput) (n : ℕ) (sigCnt palCnt : U8) : Prop where
  sig : Counter io.sig 5 n sigCnt
  pal : Counter io.pal 4 n palCnt

variable {sigCnt palCnt : U8}

theorem pollLoop_succ (hclock : io.clock 0 ≤ io.clock (n + 1)) (h : Counts io n sigCnt palCnt) (fuel : ℕ) :
    (∃ result, verdict io n = some result ∧
      pollLoop t io (fuel + 1) n sigCnt palCnt s = some (result, s.landed t result)) ∨
    verdict io n = none ∧ ∃ sigCnt' palCnt', Counts io (n + 1) sigCnt' palCnt' ∧
      pollLoop t io (fuel + 1) n sigCnt palCnt s = pollLoop t io fuel (n + 1) sigCnt' palCnt' s := by
  obtain ⟨hsig, hsig5⟩ := h.sig.step (io.v7 n &&& 7 = 1) 5 rfl rfl
  obtain ⟨hpal, hpal4⟩ := h.pal.step (io.v8 n &&& 4 ≠ 0) 4 rfl rfl
  by_cases hlate : 200000 ≤ (io.clock (n + 1) - io.clock 0) % 1000000
  · refine .inl ⟨1, if_pos hlate, ?_⟩
    rw [pollLoop, timedOut_eq hclock, if_pos (decide_eq_true hlate)]
    rfl
  have htime : ¬ timedOut (io.clock 0 % 1000000) (io.clock (n + 1) % 1000000) = true := by
    rwa [timedOut_eq hclock, decide_eq_true_eq]
  by_cases h5 : 5 ≤ length io.sig (n + 1)
  · have hnone := hsig5.mpr h5
    refine .inl ⟨1, by rw [verdict, if_neg hlate, if_pos h5], ?_⟩
    rw [pollLoop, if_neg htime]
    dsimp only
    rw [if_pos hnone, hnone.1]
    rfl
  by_cases h4 : 4 ≤ length io.pal (n + 1)
  · refine .inl ⟨2, by rw [verdict, if_neg hlate, if_neg h5, if_pos h4], ?_⟩
    rw [pollLoop, if_neg htime]
    dsimp only
    rw [if_neg (mt hsig5.mp h5), if_pos (hpal4.mpr h4)]
    rfl
  · refine .inr ⟨by rw [verdict, if_neg hlate, if_neg h5, if_neg h4], _, _, ⟨⟨hsig, by omega⟩, ⟨hpal, by omega⟩⟩, ?_⟩
    rw [pollLoop, if_neg htime]
    dsimp only
    rw [if_neg (mt hsig5.mp h5), if_neg (mt hpal4.mp h4)]

/-- The loop ends with the first verdict. -/
theorem pollLoop_of_first (hclock : ∀ m, io.clock 0 ≤ io.clock m) {d fuel : ℕ} {result : U8}
    (h : Counts io n sigCnt palCnt) (hfuel : d < fuel)
    (hbefore : ∀ m, n ≤ m → m < n + d → verdict io m = none) (hlast : verdict io (n + d) = some result) :
    pollLoop t io fuel n sigCnt palCnt s = some (result, s.landed t result) := by
  induction d generalizing n sigCnt palCnt fuel with
  | zero =>
    obtain ⟨fuel, rfl⟩ : ∃ k, fuel = k + 1 := ⟨fuel - 1, by omega⟩
    rcases pollLoop_succ (t := t) (s := s) (hclock (n + 1)) h fuel with ⟨r, hr, hloop⟩ | ⟨hnone, -⟩
    · obtain rfl : r = result := Option.some.inj (hr.symm.trans hlast)
      exact hloop
    · exact absurd (hnone.symm.trans hlast) (by simp)
  | succ d ih =>
    obtain ⟨fuel, rfl⟩ : ∃ k, fuel = k + 1 := ⟨fuel - 1, by omega⟩
    have hnow := hbefore n (Nat.le_refl n) (by omega)
    rcases pollLoop_succ (t := t) (s := s) (hclock (n + 1)) h fuel with ⟨r, hr, -⟩ | ⟨-, sig', pal', h', hloop⟩
    · exact absurd (hnow.symm.trans hr) (by simp)
    · rw [hloop]
      refine ih h' (by omega) (fun m hm hlt => hbefore m (by omega) (by omega)) ?_
      rwa [show n + 1 + d = n + (d + 1) by omega]

/-! ## The first verdict -/

theorem verdict_cases {result : U8} (h : verdict io n = some result) : result = 1 ∨ result = 2 := by
  unfold verdict at h
  split_ifs at h
  · exact .inl (Option.some.inj h).symm
  · exact .inl (Option.some.inj h).symm
  · exact .inr (Option.some.inj h).symm

/-- The poll comes in time and does not complete five without a signal. -/
def Goes (io : PollInput) (n : ℕ) : Prop :=
  (io.clock (n + 1) - io.clock 0) % 1000000 < 200000 ∧ ¬ Ends io.sig 5 (n + 1)

theorem verdict_of_not_goes (h : ¬ Goes io n) : verdict io n = some 1 := by
  unfold verdict
  split_ifs with hlate hsig hpal
  · rfl
  · rfl
  all_goals exact absurd ⟨by omega, mt le_length_iff.mpr hsig⟩ h

theorem verdict_of_goes (h : Goes io n) :
    verdict io n = if 4 ≤ length io.pal (n + 1) then some 2 else none := by
  unfold verdict
  rw [if_neg (Nat.not_le.mpr h.1), if_neg (mt le_length_iff.mp h.2)]

theorem verdict_two_iff : verdict io n = some 2 ↔ Goes io n ∧ Ends io.pal 4 (n + 1) := by
  by_cases h : Goes io n
  · rw [verdict_of_goes h, and_iff_right h, ← le_length_iff]
    split_ifs with hpal <;> simp [hpal]
  · rw [verdict_of_not_goes h]
    exact iff_of_false (by decide) fun hand => h hand.1

theorem verdict_none_iff : verdict io n = none ↔ Goes io n ∧ ¬ Ends io.pal 4 (n + 1) := by
  by_cases h : Goes io n
  · rw [verdict_of_goes h, and_iff_right h, ← le_length_iff]
    split_ifs with hpal <;> simp [hpal]
  · rw [verdict_of_not_goes h]
    exact iff_of_false (by decide) fun hand => h hand.1

/-- On a clock that goes on, some poll brings the first verdict. -/
theorem exists_first (h : Runs 800000 io.clock) : ∃ n result, verdict io n = some result ∧
    ∀ m < n, verdict io m = none := by
  obtain ⟨k, hk⟩ := h.exists_timeout (P := 1000000) (d := 200000) (by decide) (by decide)
  have hverdict : verdict io k ≠ none := by
    intro hnone
    have hearly := (verdict_none_iff.mp hnone).1.1
    omega
  obtain ⟨n, -, hfirst⟩ := exists_isFirst (p := fun k => verdict io k ≠ none) (Nat.lt_succ_self k) hverdict
  obtain ⟨result, hresult⟩ := Option.ne_none_iff_exists'.mp hfirst.holds
  exact ⟨n, result, hresult, fun m hm => not_not.mp (hfirst.before m hm)⟩

/-- The first verdict is PAL exactly if PAL comes first. -/
theorem palFirst_iff (h : Runs 800000 io.clock) {result : U8} (hn : verdict io n = some result)
    (hbefore : ∀ m < n, verdict io m = none) : result = 2 ↔ io.PalFirst := by
  constructor
  · rintro rfl
    obtain ⟨⟨htime, hsig⟩, hpal⟩ := verdict_two_iff.mp hn
    refine ⟨n, hpal, fun m hm => ?_, ?_⟩
    · rcases Nat.lt_or_eq_of_le hm with hlt | rfl
      · exact (verdict_none_iff.mp (hbefore m hlt)).1.2
      · exact hsig
    · refine h.lt_of_no_timeout (P := 1000000) (d := 200000) (by decide) (by decide) fun m hm => ?_
      rcases Nat.lt_succ_iff_lt_or_eq.mp hm with hlt | rfl
      · exact (verdict_none_iff.mp (hbefore m hlt)).1.1
      · exact htime
  · rintro ⟨k, hpal, hsig, htime⟩
    have hle : n ≤ k := by
      by_contra hlt
      exact (verdict_none_iff.mp (hbefore k (by omega))).2 hpal
    -- no timeout and no five polls without a signal up to the verdict, so it is the third kind
    have hgoes : Goes io n := by
      refine ⟨?_, hsig n hle⟩
      have hmono : io.clock (n + 1) ≤ io.clock (k + 1) := h.monotone (Nat.succ_le_succ hle)
      rw [Nat.mod_eq_of_lt (by omega)]
      omega
    have hsome : verdict io n ≠ none := by
      rw [hn]
      exact Option.some_ne_none _
    have hpal_n : Ends io.pal 4 (n + 1) := not_not.mp fun hno => hsome (verdict_none_iff.mpr ⟨hgoes, hno⟩)
    exact Option.some.inj (hn.symm.trans (verdict_two_iff.mpr ⟨hgoes, hpal_n⟩))

/-! ## The registers -/

/-- A page write depends on two status values, the selected system and `cvbs_auto`. -/
theorem pages_congr {s s' : Composite} (hcam : s'.camera.camState = s.camera.camState)
    (hstatus : s'.camera.backviewStatusU32 = s.camera.backviewStatusU32)
    (hflag : s'.avChannelFlag1 = s.avChannelFlag1) (hauto : s'.camera.cvbsAuto = s.camera.cvbsAuto)
    (set : PageSet) : s'.pages t set = s.pages t set := by
  have hregister : ∀ devAddr data mask,
      s'.pageRegister t devAddr data mask = s.pageRegister t devAddr data mask := by
    intro devAddr data mask
    funext i
    unfold pageRegister systemRegister
    rw [hcam, hstatus, hflag, hauto]
  unfold pages pageWrite
  rw [hregister, hregister]

theorem pages_writePages (set set' : PageSet) (s : Composite) :
    (s.writePages t set).pages t set' = s.pages t set' := by
  apply pages_congr <;> dsimp only [writePages, Camera.writePages, Camera.backviewStatusU32, Camera.emit]

theorem pages_i2cWrite (dev reg dat : U8) (set : PageSet) (s : Composite) :
    (s.i2cWrite dev reg dat).pages t set = s.pages t set := by
  apply pages_congr <;> dsimp only [i2cWrite, Camera.backviewStatusU32, Camera.emit]

theorem pages_resetDecoder (set : PageSet) (s : Composite) :
    s.resetDecoder.pages t set = s.pages t set := by
  unfold resetDecoder
  rw [pages_i2cWrite, pages_i2cWrite]

theorem writes_resetDecoder (s : Composite) : s.resetDecoder.writes = s.writes ++ resetWrites := by
  unfold resetDecoder i2cWrite resetWrites
  rw [List.append_assoc]
  rfl

theorem lastPages_reset (set : PageSet) (s : Composite) :
    ((s.writePages t set).resetDecoder).LastPages t set resetWrites where
  page := rfl
  writes := ⟨s.writes, by rw [writes_resetDecoder, pages_resetDecoder, pages_writePages]; rfl⟩

theorem lastPages_autoStart (s : Composite) :
    (s.autoStart t).LastPages t s.camera.ntscSet (⟨0x44, 129, 11⟩ :: resetWrites) where
  page := rfl
  writes := by
    refine ⟨s.writes, ?_⟩
    unfold autoStart
    rw [writes_resetDecoder, pages_resetDecoder, pages_i2cWrite, pages_writePages]
    exact List.append_assoc _ _ _

/-! ## The detection -/

theorem counts_zero : Counts io 0 0 0 := ⟨counter_zero (by decide), counter_zero (by decide)⟩

theorem t132bCvbsAuto_right (t : PageTables) (io : PollInput) (s : Composite) (h : Runs 800000 io.clock) :
    ∃ out, (∃ polls, ∀ fuel, polls ≤ fuel → t132bCvbsAuto t io fuel s = some out) ∧
      DetectsRight t io s out := by
  obtain ⟨n, result, hn, hbefore⟩ := exists_first h
  have htwo := palFirst_iff h hn hbefore
  refine ⟨(result, (s.autoStart t).landed t result), ⟨n + 1, fun fuel hfuel => ?_⟩, verdict_cases hn, htwo, ?_, ?_⟩
  · exact pollLoop_of_first h.le_of_le counts_zero hfuel (fun m _ hm => hbefore m (by omega))
      (by rwa [Nat.zero_add])
  · intro hpal
    dsimp only at hpal ⊢
    rw [landed, if_pos hpal]
    exact ⟨rfl, lastPages_reset .pal _⟩
  · intro hntsc
    dsimp only at hntsc ⊢
    rw [landed, if_neg hntsc]
    exact ⟨rfl, lastPages_autoStart s⟩

/-- Each poll sleeps, so the clock goes on. -/
theorem runs_of_msleep {clock : ℕ → ℕ} (hstart : clock 0 ≤ clock 1)
    (hsleep : ∀ n, clock (n + 1) + 10000 ≤ clock (n + 2)) (hnear : ∀ n, clock (n + 1) < clock n + 800000) :
    Runs 800000 clock where
  mono n := by
    cases n with
    | zero => exact hstart
    | succ n => exact Nat.le_trans (Nat.le_add_right _ _) (hsleep n)
  steps := hnear
  unbounded b := by
    have hgrown : ∀ n, n ≤ clock (n + 1) := by
      intro n
      induction n with
      | zero => exact Nat.zero_le _
      | succ n ih =>
        exact Nat.le_trans (by omega) (hsleep n)
    exact ⟨b + 1, hgrown b⟩

/-- A PAL signal, seen by a clock that passes a full second on the way. -/
def palSeen : PollInput where
  clock n := 1990000 + 20000 * n
  v7 _ := 2
  v8 _ := 4

/-- Tables that write register 0 only. -/
def oneRegister : PageTables where
  p0 _ _ := 1
  p2 _ _ := 2
  p0Mask i := if i = 0 then 1 else 0
  p2Mask i := if i = 0 then 1 else 0
  p2SMask _ := 0
  p2SPal _ := 0
  p2SPalm _ := 0
  p2SPaln _ := 0
  p2SNtsc _ := 0
  p2SSecam _ := 0

theorem t132bCvbsAuto_palSeen :
    ∃ out, (∃ polls, ∀ fuel, polls ≤ fuel →
        t132bCvbsAuto oneRegister palSeen fuel ⟨default, 0, []⟩ = some out) ∧
      DetectsRight oneRegister palSeen ⟨default, 0, []⟩ out :=
  t132bCvbsAuto_right oneRegister palSeen ⟨default, 0, []⟩
    (runs_of_msleep (by decide) (fun n => by simp only [palSeen]; omega) fun n => by simp only [palSeen]; omega)

/-! ## The engine's detection -/

theorem camera_landed (s : Composite) :
    (((s.setCvbsAuto 1).writePages t .pal).resetDecoder).camera =
      (({ s.camera with cvbsAuto := 1 } : Camera).writePages .pal).resetDecoder := by
  dsimp only [setCvbsAuto, writePages, resetDecoder, i2cWrite, Camera.resetDecoder]

theorem pollLoop_refines {fuel : ℕ} {r : U8} {s' : Composite}
    (h : pollLoop t io fuel n sigCnt palCnt s = some (r, s')) :
    ∃ k, Camera.cvbsPoll (io.polls n k) sigCnt palCnt s.camera = (r, s'.camera) := by
  induction fuel generalizing n sigCnt palCnt with
  | zero => cases h
  | succ fuel ih =>
    rw [pollLoop] at h
    dsimp only at h
    by_cases hlate : timedOut (io.clock 0 % 1000000) (io.clock (n + 1) % 1000000) = true
    · rw [if_pos hlate] at h
      cases h
      exact ⟨0, rfl⟩
    rw [if_neg hlate] at h
    by_cases hsig : io.v7 n &&& 7 = 1 ∧ (if io.v7 n &&& 7 = 1 then sigCnt + 1 else 0) = 5
    · rw [if_pos hsig] at h
      cases h
      exact ⟨1, if_pos hsig⟩
    rw [if_neg hsig] at h
    by_cases hpal : io.v8 n &&& 4 ≠ 0 ∧ (if io.v8 n &&& 4 ≠ 0 then palCnt + 1 else 0) = 4
    · rw [if_pos hpal] at h
      cases h
      refine ⟨1, ?_⟩
      rw [camera_landed]
      exact (if_neg hsig).trans (if_pos hpal)
    · rw [if_neg hpal] at h
      obtain ⟨k, hk⟩ := ih h
      exact ⟨k + 1, ((if_neg hsig).trans (if_neg hpal)).trans hk⟩

/-- What the detection does to the camera is what the camera engine has of it, for the polls before the
    timeout. -/
theorem t132bCvbsAuto_refines {fuel : ℕ} {r : U8} {s' : Composite}
    (h : t132bCvbsAuto t io fuel s = some (r, s')) :
    ∃ k, Camera.t132bCvbsAuto (io.polls 0 k) s.camera = (r, s'.camera) := by
  obtain ⟨k, hk⟩ := pollLoop_refines h
  exact ⟨k, hk⟩

end Composite

end MtcDrivers
