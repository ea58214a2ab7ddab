import MtcDrivers.Dvd.Interrupt

/-!
# Proofs: the balance of the DVD interrupt

The disable depth is what the threads owe, plus one while the drive is off, plus the number of times a
thread gave up between its `disable_irq` and its `enable_irq`. Nobody makes up for the latter.
-/

namespace MtcDrivers

namespace Dvd

open Run

/-- A thread between the `disable_irq` that was done for it and its `enable_irq`. -/
def owes (tasks : List Task) : ℕ :=
  if .sync .enableIrq ∈ tasks ∧ .sync .disableIrq ∉ tasks then 1 else 0

/-- What the power switch owes while no call of it is running. -/
def offShare (on : Bool) : ℕ := if on then 0 else 1

theorem revWork_suffix : revWork <:+ cmdSendTasks := List.suffix_cons _ _

/-! ## The receive work and `cmd_send` -/

section Suffix

variable {rest : List Task}

theorem suffix_disable (h : .sync .disableIrq :: rest <:+ cmdSendTasks) :
    .sync .enableIrq ∈ rest ∧ .sync .disableIrq ∉ rest := by
  simp only [cmdSendTasks, revPart2Tasks, List.suffix_cons_iff, List.cons.injEq, List.suffix_nil,
    Task.sync.injEq, reduceCtorEq, false_and, or_false, true_and] at h
  subst h
  decide

theorem suffix_enable (h : .sync .enableIrq :: rest <:+ cmdSendTasks) :
    .sync .enableIrq ∉ rest ∧ .sync .disableIrq ∉ rest := by
  simp only [cmdSendTasks, revPart2Tasks, List.suffix_cons_iff, List.cons.injEq, List.suffix_nil,
    Task.sync.injEq, reduceCtorEq, false_and, or_false, false_or, true_and] at h
  subst h
  decide

/-- Only the first thing that `cmd_send` does is a `disable_irq`. -/
theorem suffix_tail {t : Task} (h : t :: rest <:+ cmdSendTasks) : .sync .disableIrq ∉ rest := by
  have htail : rest <:+ revWork := by
    rcases List.suffix_cons_iff.mp h with heq | htail
    · obtain ⟨_, rfl⟩ := List.cons.inj heq
      exact List.suffix_refl _
    · exact (List.suffix_cons t rest).trans htail
  intro hmem
  exact absurd (htail.subset hmem) (by decide)

end Suffix

theorem owes_cons {t : Task} (rest : List Task) (he : t ≠ .sync .enableIrq) (hd : t ≠ .sync .disableIrq) :
    owes (t :: rest) = owes rest := by
  simp [owes, he.symm, hd.symm]

namespace Drive

/-- A thread goes on from `tasks` to `rest`, and leaves the line behind. -/
structure Went (s : Drive) (tasks : List Task) (line : Line) (rest : List Task) (lost : ℕ) : Prop where
  advance : s.advance tasks = ({ s with line := line }, rest)
  suffix : rest <:+ tasks
  depth : ∀ a, s.line.depth = a + owes tasks → line.depth = a + owes rest + lost
  lost : lost = 0 ↔ ¬ s.GivesUp tasks

theorem went_stay {s : Drive} {tasks : List Task} (hadv : s.advance tasks = (s, tasks))
    (h : ¬ s.GivesUp tasks) : Went s tasks s.line tasks 0 :=
  ⟨hadv, List.suffix_refl _, fun _ ha => ha, iff_of_true rfl h⟩

/-- An operation on the line or the mutex. -/
theorem went_sync (s : Drive) {op : SyncOp} {rest : List Task} (h : .sync op :: rest <:+ cmdSendTasks) :
    ∃ line rest', Went s (.sync op :: rest) line rest' 0 := by
  have hsuffix := List.suffix_cons (Task.sync op) rest
  have hgoes : ¬ s.GivesUp (.sync op :: rest) := by simp [GivesUp]
  cases op with
  | disableIrq =>
    obtain ⟨he, hd⟩ := suffix_disable h
    refine ⟨_, rest, rfl, hsuffix, fun a ha => ?_, iff_of_true rfl hgoes⟩
    rw [owes, if_pos ⟨he, hd⟩]
    rw [owes, if_neg (by simp)] at ha
    exact congrArg (· + 1) ha
  | enableIrq =>
    obtain ⟨he, hd⟩ := suffix_enable h
    refine ⟨_, rest, rfl, hsuffix, fun a ha => ?_, iff_of_true rfl hgoes⟩
    rw [owes, if_neg fun hmem => he hmem.1]
    rw [owes, if_pos (by simp [hd])] at ha
    exact congrArg (· - 1) ha
  | mutexLock =>
    cases hlocked : s.line.locked with
    | true => exact ⟨_, _, went_stay (by simp [Drive.advance, SyncOp.run, hlocked]) hgoes⟩
    | false =>
      refine ⟨{ s.line with locked := true }, rest, ?_, hsuffix, fun a ha => ?_, iff_of_true rfl hgoes⟩
      · simp [Drive.advance, SyncOp.run, hlocked]
      · rwa [owes_cons rest (by simp) (by simp)] at ha
  | mutexUnlock =>
    refine ⟨_, rest, rfl, hsuffix, fun a ha => ?_, iff_of_true rfl hgoes⟩
    rwa [owes_cons rest (by simp) (by simp)] at ha

/-- A test: the thread goes on, or it leaves what it owes to nobody. -/
theorem went_ifOn (s : Drive) {rest : List Task} (h : .ifOn :: rest <:+ cmdSendTasks) :
    ∃ rest' lost, Went s (.ifOn :: rest) s.line rest' lost := by
  cases hon : s.on with
  | true =>
    refine ⟨rest, 0, congrArg (Prod.mk s) (if_pos hon), List.suffix_cons _ _, fun a ha => ?_, ?_⟩
    · rwa [owes_cons rest (by simp) (by simp)] at ha
    · simp [GivesUp, hon]
  | false =>
    have hoff : ¬ s.on = true := by simp [hon]
    refine ⟨[], owes rest, congrArg (Prod.mk s) (if_neg hoff), List.nil_suffix, fun a ha => ?_, ?_⟩
    · rwa [owes_cons rest (by simp) (by simp)] at ha
    · simp [owes, GivesUp, hon, suffix_tail h]

theorem advance_went (s : Drive) {tasks : List Task} (h : tasks <:+ cmdSendTasks) :
    ∃ line rest lost, Went s tasks line rest lost := by
  cases tasks with
  | nil => exact ⟨_, _, 0, went_stay rfl (by simp [GivesUp])⟩
  | cons t rest =>
    cases t with
    | sync op =>
      obtain ⟨line, rest', hwent⟩ := went_sync s h
      exact ⟨line, rest', 0, hwent⟩
    | ifOn => exact ⟨s.line, went_ifOn s h⟩
    | resetIfOn => exact absurd (h.subset List.mem_cons_self) (by simp [cmdSendTasks, revPart2Tasks])
    | setOn b => exact absurd (h.subset List.mem_cons_self) (by simp [cmdSendTasks, revPart2Tasks])
    | flush => exact absurd (h.subset List.mem_cons_self) (by simp [cmdSendTasks, revPart2Tasks])

/-! ## The power switch -/

/-- What `dvd_power(1)` does to a drive that is off. -/
def powerUp : List Task := [.setOn true, .sync .enableIrq]

/-- How far a call of `dvd_power` is, with `dvd_power_on` and what the switch owes. -/
inductive Phase : List Task → Bool → ℕ → Prop
  | idle (on : Bool) : Phase [] on (offShare on)
  | called (pwr on : Bool) : Phase (dvdPower pwr) on (offShare on)
  | down {rest : List Task} (h : rest = [] ∨ rest = powerUp) : Phase (powerDown ++ rest) true 0
  | flush {rest : List Task} (h : rest = [] ∨ rest = powerUp) :
      Phase (.flush :: .sync .disableIrq :: rest) false 0
  | disable {rest : List Task} (h : rest = [] ∨ rest = powerUp) : Phase (.sync .disableIrq :: rest) false 0
  | up : Phase powerUp false 1
  | enable : Phase [.sync .enableIrq] true 1

theorem phase_idle {on : Bool} {b : ℕ} (h : Phase [] on b) : b = offShare on := by
  generalize htasks : ([] : List Task) = tasks at h
  cases h with
  | idle => rfl
  | called pwr => cases pwr <;> cases htasks
  | down _ => cases htasks
  | flush _ => cases htasks
  | disable _ => cases htasks
  | up => cases htasks
  | enable => cases htasks

/-- The first test of a call. -/
theorem advance_called (s : Drive) (pwr : Bool) :
    ∃ rest b, s.advance (dvdPower pwr) = (s, rest) ∧ Phase rest s.on b ∧ b = offShare s.on := by
  cases hon : s.on with
  | true =>
    cases pwr with
    | true =>
      exact ⟨powerDown ++ powerUp, 0, congrArg (Prod.mk s) (if_pos hon), .down (Or.inr rfl), rfl⟩
    | false => exact ⟨powerDown ++ [], 0, congrArg (Prod.mk s) (if_pos hon), .down (Or.inl rfl), rfl⟩
  | false =>
    have hoff : ¬ s.on = true := by simp [hon]
    cases pwr with
    | true => exact ⟨powerUp, 1, congrArg (Prod.mk s) (if_neg hoff), .up, rfl⟩
    | false => exact ⟨[], 1, congrArg (Prod.mk s) (if_neg hoff), .idle false, rfl⟩

/-- A step of a call moves the depth by what the switch owes. -/
theorem phase_advance {s : Drive} {tasks : List Task} {b : ℕ} (h : Phase tasks s.on b) :
    ∃ line on rest b', s.advance tasks = ({ s with line := line, on := on }, rest) ∧ Phase rest on b' ∧
      ∀ a, s.line.depth = a + b → line.depth = a + b' := by
  generalize hon : s.on = on at h
  cases h with
  | idle => exact ⟨s.line, s.on, [], offShare s.on, rfl, .idle _, fun a ha => hon ▸ ha⟩
  | called pwr =>
    obtain ⟨rest, b', hadv, hphase, rfl⟩ := advance_called s pwr
    exact ⟨s.line, s.on, rest, _, hadv, hphase, fun a ha => hon ▸ ha⟩
  | down hrest => exact ⟨s.line, false, _, 0, rfl, .flush hrest, fun a ha => ha⟩
  | @flush rest hrest =>
    by_cases hsend : s.send = []
    · exact ⟨s.line, s.on, .sync .disableIrq :: rest, 0, congrArg (Prod.mk s) (if_pos hsend),
        hon ▸ .disable hrest, fun a ha => ha⟩
    · exact ⟨s.line, s.on, .flush :: .sync .disableIrq :: rest, 0, congrArg (Prod.mk s) (if_neg hsend),
        hon ▸ .flush hrest, fun a ha => ha⟩
  | @disable rest hrest =>
    refine ⟨_, s.on, rest, 1, rfl, ?_, fun a ha => congrArg (· + 1) ha⟩
    rcases hrest with rfl | rfl
    · exact hon ▸ .idle false
    · exact hon ▸ .up
  | up => exact ⟨s.line, true, _, 1, rfl, .enable, fun a ha => ha⟩
  | enable => exact ⟨_, s.on, [], 0, rfl, hon ▸ .idle true, fun a ha => congrArg (· - 1) ha⟩

/-! ## The runs -/

/-- The depth is what everybody owes and the `n` things that nobody owes any more. -/
structure Accounted (n : ℕ) (s : Drive) : Prop where
  rev : s.rev <:+ cmdSendTasks
  send : s.send <:+ cmdSendTasks
  power : ∃ b, Phase s.power s.on b ∧
    s.line.depth = n + s.pending.toNat + owes s.rev + owes s.send + b

theorem accounted_probed : Accounted 0 probed :=
  ⟨List.nil_suffix, List.nil_suffix, 1, .idle false, rfl⟩

/-- Every step keeps the account, and only a thread that gives up adds to it. -/
theorem Accounted.step {n : ℕ} {s : Drive} (h : Accounted n s) (st : Step) :
    ∃ lost, Accounted (n + lost) (s.step st) ∧ (lost = 0 ↔ s.FindsOn st) := by
  obtain ⟨hrev, hsend, b, hphase, hdepth⟩ := h
  cases st with
  | interrupt =>
    refine ⟨0, ?_, iff_of_true rfl trivial⟩
    by_cases hzero : s.line.depth = 0
    · have hidle : s.pending = false := by
        rw [← Bool.toNat_eq_zero]
        omega
      rw [Drive.step, if_pos hzero]
      refine ⟨hrev, hsend, b, hphase, ?_⟩
      show s.line.depth + 1 = n + 0 + 1 + owes s.rev + owes s.send + b
      rw [hidle] at hdepth
      simp only [Bool.toNat_false] at hdepth
      omega
    · rw [Drive.step, if_neg hzero]
      exact ⟨hrev, hsend, b, hphase, hdepth⟩
  | startRev =>
    refine ⟨0, ?_, iff_of_true rfl trivial⟩
    by_cases hstart : s.pending ∧ s.rev = []
    · rw [Drive.step, if_pos hstart]
      refine ⟨revWork_suffix, hsend, b, hphase, ?_⟩
      rw [hstart.1, hstart.2] at hdepth
      exact hdepth
    · rw [Drive.step, if_neg hstart]
      exact ⟨hrev, hsend, b, hphase, hdepth⟩
  | rev =>
    obtain ⟨line, rest, lost, hwent⟩ := s.advance_went hrev
    refine ⟨lost, ?_, hwent.lost⟩
    rw [Drive.step, hwent.advance]
    refine ⟨hwent.suffix.trans hrev, hsend, b, hphase, ?_⟩
    have hdepth' := hwent.depth (n + s.pending.toNat + owes s.send + b) (by omega)
    show line.depth = n + lost + s.pending.toNat + owes rest + owes s.send + b
    omega
  | startSend =>
    refine ⟨0, ?_, iff_of_true rfl trivial⟩
    by_cases hidle : s.send = []
    · rw [Drive.step, if_pos hidle]
      refine ⟨hrev, List.suffix_refl _, b, hphase, ?_⟩
      rw [hidle] at hdepth
      exact hdepth
    · rw [Drive.step, if_neg hidle]
      exact ⟨hrev, hsend, b, hphase, hdepth⟩
  | send =>
    obtain ⟨line, rest, lost, hwent⟩ := s.advance_went hsend
    refine ⟨lost, ?_, hwent.lost⟩
    rw [Drive.step, hwent.advance]
    refine ⟨hrev, hwent.suffix.trans hsend, b, hphase, ?_⟩
    have hdepth' := hwent.depth (n + s.pending.toNat + owes s.rev + b) (by omega)
    show line.depth = n + lost + s.pending.toNat + owes s.rev + owes rest + b
    omega
  | startPower pwr =>
    refine ⟨0, ?_, iff_of_true rfl trivial⟩
    by_cases hidle : s.power = []
    · rw [Drive.step, if_pos hidle]
      rw [hidle] at hphase
      obtain rfl := phase_idle hphase
      exact ⟨hrev, hsend, _, .called pwr s.on, hdepth⟩
    · rw [Drive.step, if_neg hidle]
      exact ⟨hrev, hsend, b, hphase, hdepth⟩
  | power =>
    refine ⟨0, ?_, iff_of_true rfl trivial⟩
    obtain ⟨line, on, rest, b', hadv, hphase', hdepth'⟩ := phase_advance hphase
    rw [Drive.step, hadv]
    exact ⟨hrev, hsend, b', hphase', hdepth' _ hdepth⟩

/-- A run from an account. -/
theorem Accounted.run {n : ℕ} {s : Drive} {steps : List Step} (h : Accounted n s) :
    ∃ m, Accounted m (after Drive.step s steps) ∧ n ≤ m ∧
      (m = n ↔ Always Drive.step FindsOn s steps) := by
  induction steps generalizing n s with
  | nil => exact ⟨n, h, Nat.le_refl n, iff_of_true rfl always_nil⟩
  | cons st steps ih =>
    obtain ⟨lost, hstep, hlost⟩ := h.step st
    obtain ⟨m, hrun, hle, hiff⟩ := ih hstep
    refine ⟨m, hrun, by omega, ?_⟩
    rw [always_cons, ← hlost, ← hiff]
    omega

/-- At rest, only what was lost is left. -/
theorem Accounted.resting {n : ℕ} {s : Drive} (h : Accounted n s) (hrest : s.Resting) :
    s.line.depth = n := by
  obtain ⟨_, _, b, hphase, hdepth⟩ := h
  rw [hrest.power] at hphase
  obtain rfl := phase_idle hphase
  rw [hdepth, hrest.pending, hrest.rev, hrest.send, hrest.on]
  rfl

/-- The drive can be heard at rest if and only if nobody gave up so far. -/
theorem resting_iff {steps : List Step} (hrest : (after Drive.step probed steps).Resting) :
    (after Drive.step probed steps).line.depth = 0 ↔ Always Drive.step FindsOn probed steps := by
  obtain ⟨m, hrun, _, hiff⟩ : ∃ m, Accounted m (after Drive.step probed steps) ∧ 0 ≤ m ∧
      (m = 0 ↔ Always Drive.step FindsOn probed steps) := accounted_probed.run
  rw [hrun.resting hrest, hiff]

/-- The drive can be heard after every power cycle of a run if and only if no test in front of an
    `enable_irq` has found it off before one of the states at rest. -/
theorem canBeHeard_iff (steps : List Step) :
    Throughout Drive.step CanBeHeard probed steps ↔
      ∀ pre post, steps = pre ++ post → (after Drive.step probed pre).Resting →
        Always Drive.step FindsOn probed pre := by
  constructor
  · intro h pre post hsteps hrest
    exact (resting_iff hrest).mp (h pre post hsteps hrest)
  · intro h pre post hsteps hrest
    exact (resting_iff hrest).mpr (h pre post hsteps hrest)

/-- The drive is switched on, interrupts, is switched off, and its receive work runs only then. -/
def silencing : List Step :=
  [.startPower true, .power, .power, .power, .interrupt, .startPower false, .power, .power, .power,
    .power, .startRev, .rev, .startPower true, .power, .power, .power]

/-- The drive is on and at rest, and its interrupt is disabled for good. -/
theorem not_canBeHeard_silencing : ¬ Throughout Drive.step CanBeHeard probed silencing := by
  intro h
  have hlast : after Drive.step probed silencing = ⟨⟨1, false⟩, true, false, [], [], []⟩ := rfl
  have hheard := h silencing [] rfl
  rw [hlast] at hheard
  cases hheard ⟨rfl, rfl, rfl, rfl, rfl⟩

end Drive

end Dvd

end MtcDrivers
