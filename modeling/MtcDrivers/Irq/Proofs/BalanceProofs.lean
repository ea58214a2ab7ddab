import MtcDrivers.Irq.Model

/-!
# Proofs: the interrupt balance

The disable depth is the number of parties that owe an `enable_irq`. The receive work counts as one
of them from the interrupt on: it is a sender whose `disable_irq` was done by `mcu_isr`. The same
counting shows that `car_lock` has at most one holder.
-/

namespace MtcDrivers

/-! ## One operation -/

/-- What a party contributes to a count. -/
def share (p : List SyncOp → Prop) [DecidablePred p] (rest : List SyncOp) : ℕ :=
  if p rest then 1 else 0

theorem workScript_suffix : workScript <:+ senderScript := List.suffix_cons _ _

/-- An operation of a party moves the depth and the mutex by the change of the party's shares. `a` and
`b` are the shares of everything else. -/
theorem op_moves {op : SyncOp} {rest : List SyncOp} {l l' : Line} {a b : ℕ}
    (hs : op :: rest <:+ senderScript) (hrun : op.run l = some l')
    (hdepth : l.depth = a + share Masking (op :: rest))
    (hlock : l.locked.toNat = b + share Holding (op :: rest)) :
    l'.depth = a + share Masking rest ∧ l'.locked.toNat = b + share Holding rest := by
  simp only [senderScript, List.suffix_cons_iff, List.cons.injEq, List.suffix_nil, reduceCtorEq,
    or_false] at hs
  rcases hs with ⟨rfl, rfl⟩ | ⟨rfl, rfl⟩ | ⟨rfl, rfl⟩ | ⟨rfl, rfl⟩
  · obtain rfl := Option.some.inj hrun
    exact ⟨congrArg (· + 1) hdepth, hlock⟩
  · obtain ⟨hfree, rfl⟩ : l.locked = false ∧ { l with locked := true } = l' := by
      simpa [SyncOp.run] using hrun
    rw [hfree] at hlock
    exact ⟨hdepth, congrArg (· + 1) hlock⟩
  · obtain rfl := Option.some.inj hrun
    exact ⟨congrArg (· - 1) hdepth, hlock⟩
  · obtain rfl := Option.some.inj hrun
    refine ⟨hdepth, ?_⟩
    have hone : l.locked.toNat = b + 1 := hlock
    have hle := Bool.toNat_le l.locked
    show 0 = b + 0
    omega

/-! ## The invariant -/

namespace IrqState

structure Balanced (s : IrqState) : Prop where
  work : s.work <:+ workScript
  calls : ∀ c ∈ s.calls, c <:+ senderScript
  depth : s.line.depth = s.pending.toNat + share Masking s.work + s.masking
  locked : s.line.locked.toNat = share Holding s.work + s.holding
  once : s.pending = true → ¬ Masking s.work
  taken : s.taken = s.started + s.pending.toNat

theorem balanced_init : Balanced init where
  work := List.nil_suffix
  calls _ hc := absurd hc List.not_mem_nil
  depth := rfl
  locked := rfl
  once h := absurd h Bool.false_ne_true
  taken := rfl

/-- An interrupt is only taken while no work is owed, so that `queue_work` queues it. -/
theorem Balanced.interrupt {s : IrqState} (h : s.Balanced) (enabled : s.line.depth = 0) :
    s.mcuIsr.Balanced := by
  have hdepth := h.depth
  rw [enabled] at hdepth
  have hidle : s.pending = false := by
    rw [← Bool.toNat_eq_zero]
    omega
  have hwork : ¬ Masking s.work := by
    intro hm
    simp only [share, if_pos hm] at hdepth
    omega
  have hisr : s.mcuIsr = { s with
      line := { s.line with depth := s.line.depth + 1 }, pending := true, taken := s.taken + 1 } := by
    simp [mcuIsr, queueWork, hidle]
  rw [hisr]
  refine ⟨h.work, h.calls, ?_, h.locked, fun _ => hwork, ?_⟩
  · show s.line.depth + 1 = 1 + share Masking s.work + s.masking
    omega
  · have htaken := h.taken
    rw [hidle] at htaken
    exact congrArg (· + 1) htaken

theorem Balanced.start {s : IrqState} (h : s.Balanced) (pending : s.pending = true)
    (free : s.work = []) :
    Balanced { s with pending := false, work := workScript, started := s.started + 1 } := by
  have hdepth := h.depth
  have hlocked := h.locked
  have htaken := h.taken
  rw [pending, free] at hdepth
  rw [free] at hlocked
  rw [pending] at htaken
  refine ⟨List.suffix_refl _, h.calls, ?_, hlocked, fun hp => absurd hp Bool.false_ne_true, htaken⟩
  show s.line.depth = 0 + 1 + s.masking
  exact hdepth

theorem Balanced.workStep {s : IrqState} {op : SyncOp} {rest : List SyncOp} {l : Line}
    (h : s.Balanced) (hwork : s.work = op :: rest) (hrun : op.run s.line = some l) :
    Balanced { s with line := l, work := rest } := by
  have hsuffix := h.work
  rw [hwork] at hsuffix
  have hdepth := h.depth
  have hlocked := h.locked
  rw [hwork] at hdepth hlocked
  obtain ⟨hdepth', hlocked'⟩ := op_moves (a := s.pending.toNat + s.masking) (b := s.holding)
    (hsuffix.trans workScript_suffix) hrun (by omega) (by omega)
  refine ⟨(List.suffix_cons op rest).trans hsuffix, h.calls, ?_, ?_, fun hp hm => ?_, h.taken⟩
  · show l.depth = s.pending.toNat + share Masking rest + s.masking
    omega
  · show l.locked.toNat = share Holding rest + s.holding
    omega
  · refine h.once hp ?_
    rw [hwork]
    exact ⟨List.mem_cons_of_mem op hm.1, fun hmem => absurd (hsuffix.subset hmem) (by decide)⟩

theorem countP_share {p : List SyncOp → Prop} [DecidablePred p] (before after : List (List SyncOp))
    (c : List SyncOp) : (before ++ c :: after).countP (p ·) =
      before.countP (p ·) + after.countP (p ·) + share p c := by
  simp only [List.countP_append, List.countP_cons, decide_eq_true_eq, share]
  omega

theorem Balanced.senderStep {s : IrqState} {before after : List (List SyncOp)} {op : SyncOp}
    {rest : List SyncOp} {l : Line} (h : s.Balanced)
    (hcalls : s.calls = before ++ (op :: rest) :: after) (hrun : op.run s.line = some l) :
    Balanced { s with line := l, calls := before ++ rest :: after } := by
  have hsuffix := h.calls (op :: rest) (by simp [hcalls])
  have hdepth := h.depth
  have hlocked := h.locked
  rw [masking, hcalls, countP_share] at hdepth
  rw [holding, hcalls, countP_share] at hlocked
  obtain ⟨hdepth', hlocked'⟩ := op_moves
    (a := s.pending.toNat + share Masking s.work +
      (before.countP (Masking ·) + after.countP (Masking ·)))
    (b := share Holding s.work + (before.countP (Holding ·) + after.countP (Holding ·)))
    hsuffix hrun (by omega) (by omega)
  refine ⟨h.work, fun c hc => ?_, ?_, ?_, h.once, h.taken⟩
  · simp only [List.mem_append, List.mem_cons] at hc
    rcases hc with hc | rfl | hc
    · exact h.calls c (by simp [hcalls, hc])
    · exact (List.suffix_cons op c).trans hsuffix
    · exact h.calls c (by simp [hcalls, hc])
  · show l.depth = s.pending.toNat + share Masking s.work + (before ++ rest :: after).countP _
    rw [countP_share]
    omega
  · show l.locked.toNat = share Holding s.work + (before ++ rest :: after).countP _
    rw [countP_share]
    omega

/-- Every step of every party keeps the balance. -/
theorem Balanced.step {s s' : IrqState} (h : s.Balanced) (hstep : Step s s') : s'.Balanced := by
  cases hstep with
  | interrupt enabled => exact h.interrupt enabled
  | start pending free => exact h.start pending free
  | work hwork hrun => exact h.workStep hwork hrun
  | call =>
    refine ⟨h.work, fun c hc => ?_, h.depth, h.locked, h.once, h.taken⟩
    rcases List.mem_cons.mp hc with rfl | hc
    · exact List.suffix_refl _
    · exact h.calls c hc
  | sender hcalls hrun => exact h.senderStep hcalls hrun

theorem Reachable.balanced {s : IrqState} (h : s.Reachable) : s.Balanced := by
  induction h with
  | refl => exact balanced_init
  | tail _ hstep ih => exact ih.step hstep

/-- At most one party holds the mutex. -/
theorem Reachable.exclusive {s : IrqState} (h : s.Reachable) :
    share Holding s.work + s.holding ≤ 1 := by
  rw [← h.balanced.locked]
  exact Bool.toNat_le _

theorem Balanced.share_outstanding {s : IrqState} (h : s.Balanced) :
    s.pending.toNat + share Masking s.work = if s.Outstanding then 1 else 0 := by
  have hmask : Masking s.work ↔ .enableIrq ∈ s.work :=
    ⟨fun hm => hm.1, fun he => ⟨he, fun hd => absurd (h.work.subset hd) (by decide)⟩⟩
  cases hp : s.pending with
  | true => simp [share, h.once hp, Outstanding, hp]
  | false => simp [share, hmask, Outstanding, hp]

/-- The disable depth of the line is the receive work that owes an `enable_irq`, 0 or 1, plus the
senders that do; it is 0 when nobody does, and every interrupt taken has its own run of the receive
work, started or pending. -/
theorem mcu_irq_balance (s : IrqState) (h : s.Reachable) :
    s.line.depth = (if s.Outstanding then 1 else 0) + s.masking ∧
    (¬ s.Outstanding → (∀ c ∈ s.calls, ¬ Masking c) → s.line.depth = 0) ∧
    s.taken = s.started + s.pending.toNat := by
  have hb := h.balanced
  have hdepth : s.line.depth = (if s.Outstanding then 1 else 0) + s.masking := by
    rw [hb.depth, hb.share_outstanding]
  refine ⟨hdepth, fun hout hcalls => ?_, hb.taken⟩
  have hnone : s.masking = 0 := List.countP_eq_zero.mpr fun c hc => by simpa using hcalls c hc
  rw [hdepth, if_neg hout, hnone]

/-- An interrupt taken while a sender has not yet begun, and the sender's `disable_irq` after it. -/
theorem mcu_irq_balance_two : ∃ s : IrqState, s.Reachable ∧ s.line.depth = 2 ∧
    s.line.depth = (if s.Outstanding then 1 else 0) + s.masking ∧
    (¬ s.Outstanding → (∀ c ∈ s.calls, ¬ Masking c) → s.line.depth = 0) ∧
    s.taken = s.started + s.pending.toNat := by
  have h1 : Step init { init with calls := [senderScript] } := .call
  have h2 : Step { init with calls := [senderScript] } _ := .interrupt rfl
  have h3 : Step (IrqState.mcuIsr { init with calls := [senderScript] }) _ :=
    .sender (show _ = [] ++ senderScript :: [] from rfl) rfl
  have hreach : Reachable _ := ((Relation.ReflTransGen.single h1).tail h2).tail h3
  exact ⟨_, hreach, rfl, mcu_irq_balance _ hreach⟩

end IrqState

end MtcDrivers
