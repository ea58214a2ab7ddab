import MtcDrivers.Proc.Basic

/-!
# Rules for runs of procedures

Inversion of `Ends` through every constructor (`ends_bind`, `ends_iter`, ...), the induction and
invariant rules of loops, and closure of `Respects` under the constructors for a preorder on states.
-/

namespace Proc

variable {σ α β γ : Type}

/-! ## Inversion -/

@[simp] theorem ends_pure {a b : α} {s s' : σ} :
    (pure a : Proc σ α).Ends s b s' ↔ b = a ∧ s' = s := by
  constructor
  · rintro ⟨n, h⟩
    have h' : some (a, s) = some (b, s') := h
    simp only [Option.some.injEq, Prod.mk.injEq] at h'
    exact ⟨h'.1.symm, h'.2.symm⟩
  · rintro ⟨rfl, rfl⟩
    exact ⟨0, rfl⟩

/-- A run of a sequence is a run of its first part followed by a run of its second part. -/
@[simp] theorem ends_bind {m : Proc σ α} {f : α → Proc σ β} {s : σ} {b : β} {s' : σ} :
    (m >>= f).Ends s b s' ↔ ∃ a s1, m.Ends s a s1 ∧ (f a).Ends s1 b s' := by
  constructor
  · rintro ⟨n, h⟩
    obtain ⟨⟨a, s1⟩, h1, h2⟩ := Option.bind_eq_some_iff.mp h
    exact ⟨a, s1, ⟨n, h1⟩, ⟨n, h2⟩⟩
  · rintro ⟨a, s1, ⟨n, h1⟩, ⟨k, h2⟩⟩
    refine ⟨max n k, ?_⟩
    exact Option.bind_eq_some_iff.mpr
      ⟨(a, s1), m.mono (Nat.le_max_left n k) h1, (f a).mono (Nat.le_max_right n k) h2⟩

@[simp] theorem ends_map {m : Proc σ α} {f : α → β} {s : σ} {b : β} {s' : σ} :
    (f <$> m).Ends s b s' ↔ ∃ a, m.Ends s a s' ∧ b = f a := by
  have h : (f <$> m) = (m >>= fun a => pure (f a)) := rfl
  rw [h, ends_bind]
  constructor
  · rintro ⟨a, s1, h1, h2⟩
    obtain ⟨rfl, rfl⟩ := ends_pure.mp h2
    exact ⟨a, h1, rfl⟩
  · rintro ⟨a, h1, rfl⟩
    exact ⟨a, s', h1, ends_pure.mpr ⟨rfl, rfl⟩⟩

@[simp] theorem ends_get {s t s' : σ} : (get : Proc σ σ).Ends s t s' ↔ t = s ∧ s' = s := by
  constructor
  · rintro ⟨n, h⟩
    have h' : some (s, s) = some (t, s') := h
    simp only [Option.some.injEq, Prod.mk.injEq] at h'
    exact ⟨h'.1.symm, h'.2.symm⟩
  · rintro ⟨rfl, rfl⟩
    exact ⟨0, rfl⟩

@[simp] theorem ends_modify {f : σ → σ} {s : σ} {u : Unit} {s' : σ} :
    (modify f).Ends s u s' ↔ s' = f s := by
  constructor
  · rintro ⟨n, h⟩
    have h' : some ((), f s) = some (u, s') := h
    simp only [Option.some.injEq, Prod.mk.injEq] at h'
    exact h'.2.symm
  · rintro rfl
    exact ⟨0, rfl⟩

/-- A procedure has at most one outcome from each state. -/
theorem Ends.det {m : Proc σ α} {s : σ} {a b : α} {s1 s2 : σ} (h1 : m.Ends s a s1)
    (h2 : m.Ends s b s2) : a = b ∧ s1 = s2 := by
  obtain ⟨n, hn⟩ := h1
  obtain ⟨k, hk⟩ := h2
  have h := (m.mono (Nat.le_max_left n k) hn).symm.trans (m.mono (Nat.le_max_right n k) hk)
  simpa using h

/-- The outcome of one pass of a loop, continued. -/
theorem ends_iter {body : β → Proc σ (β ⊕ α)} {b : β} {s : σ} {a : α} {s' : σ} :
    (iter body b).Ends s a s' ↔
      (∃ b' s1, (body b).Ends s (.inl b') s1 ∧ (iter body b').Ends s1 a s') ∨
        (body b).Ends s (.inr a) s' := by
  constructor
  · rintro ⟨n, h⟩
    cases n with
    | zero => simp [iter, iterRun] at h
    | succ k =>
      simp only [iter, iterRun] at h
      cases hb : (body b).run (k + 1) s with
      | none => simp [hb] at h
      | some p =>
        obtain ⟨x, s1⟩ := p
        cases x with
        | inl b' =>
          rw [hb] at h
          exact Or.inl ⟨b', s1, ⟨_, hb⟩, ⟨_, iterRun_mono body (Nat.le_refl _) (by omega) h⟩⟩
        | inr a' =>
          rw [hb] at h
          simp only [Option.some.injEq, Prod.mk.injEq] at h
          obtain ⟨rfl, rfl⟩ := h
          exact Or.inr ⟨_, hb⟩
  · rintro (⟨b', s1, ⟨n, h1⟩, ⟨k, h2⟩⟩ | ⟨n, h⟩)
    · refine ⟨max n k + 1, ?_⟩
      have hb := (body b).mono (show n ≤ max n k + 1 by omega) h1
      simp only [iter, iterRun, hb]
      exact iterRun_mono body (show k ≤ max n k + 1 by omega) (Nat.le_max_right n k) h2
    · refine ⟨n + 1, ?_⟩
      simp only [iter, iterRun, (body b).mono (Nat.le_succ n) h]

/-! ## Loops -/

/-- Induction over the passes of a loop. -/
theorem iter_induction {body : β → Proc σ (β ⊕ α)} {P : β → σ → α → σ → Prop}
    (hstep : ∀ b s b' s1 a s', (body b).Ends s (.inl b') s1 → P b' s1 a s' → P b s a s')
    (hstop : ∀ b s a s', (body b).Ends s (.inr a) s' → P b s a s') :
    ∀ {b s a s'}, (iter body b).Ends s a s' → P b s a s' := by
  have main : ∀ n k b s a s', iterRun body n k b s = some (a, s') → P b s a s' := by
    intro n k
    induction k with
    | zero => intro b s a s' h; simp [iterRun] at h
    | succ k ih =>
      intro b s a s' h
      rw [iterRun] at h
      cases hb : (body b).run n s with
      | none => simp [hb] at h
      | some p =>
        obtain ⟨x, s1⟩ := p
        rw [hb] at h
        cases x with
        | inl b' => exact hstep b s b' s1 a s' ⟨n, hb⟩ (ih b' s1 a s' h)
        | inr a' =>
          simp only [Option.some.injEq, Prod.mk.injEq] at h
          obtain ⟨rfl, rfl⟩ := h
          exact hstop b s _ _ ⟨n, hb⟩
  rintro b s a s' ⟨n, h⟩
  exact main n n b s a s' h

/-- Invariant rule: what every pass preserves, and what a last pass turns into `Q`, holds at the end
of the loop. -/
theorem iter_invariant {body : β → Proc σ (β ⊕ α)} (Inv : β → σ → Prop) (Q : α → σ → Prop)
    (hstep : ∀ b s b' s', Inv b s → (body b).Ends s (.inl b') s' → Inv b' s')
    (hstop : ∀ b s a s', Inv b s → (body b).Ends s (.inr a) s' → Q a s')
    {b : β} {s : σ} {a : α} {s' : σ} (h0 : Inv b s) (h : (iter body b).Ends s a s') : Q a s' := by
  have main : Inv b s → Q a s' :=
    iter_induction (P := fun b s a s' => Inv b s → Q a s')
      (fun b s b' s1 a s' hb ih hI => ih (hstep b s b' s1 hI hb))
      (fun b s a s' hb hI => hstop b s a s' hI hb) h
  exact main h0

/-! ## Relations kept by every run -/

section Respects

variable {R : σ → σ → Prop}

theorem respects_pure [Std.Refl R] (a : α) : Respects R (pure a : Proc σ α) := by
  intro s b s' h
  rw [(ends_pure.mp h).2]
  exact Std.Refl.refl s

theorem respects_get [Std.Refl R] : Respects R (get : Proc σ σ) := by
  intro s b s' h
  rw [(ends_get.mp h).2]
  exact Std.Refl.refl s

theorem respects_modify {f : σ → σ} (hf : ∀ s, R s (f s)) : Respects R (modify f) := by
  intro s b s' h
  rw [ends_modify.mp h]
  exact hf s

theorem Respects.bind [IsTrans σ R] {m : Proc σ α} {f : α → Proc σ β}
    (hm : Respects R m) (hf : ∀ a, Respects R (f a)) : Respects R (m >>= f) := by
  intro s b s' h
  obtain ⟨a, s1, h1, h2⟩ := ends_bind.mp h
  exact IsTrans.trans _ _ _ (hm s a s1 h1) (hf a s1 b s' h2)

theorem Respects.iter [IsTrans σ R] {body : β → Proc σ (β ⊕ α)}
    (hb : ∀ b, Respects R (body b)) (b : β) : Respects R (Proc.iter body b) := by
  intro s a s' h
  exact iter_induction (P := fun _ s _ s' => R s s')
    (fun b s b' s1 a s' h1 ih => IsTrans.trans _ _ _ (hb b s _ s1 h1) ih)
    (fun b s a s' h1 => hb b s _ s' h1) h

theorem Respects.repeatUntil [IsTrans σ R] {body : Proc σ (Unit ⊕ α)}
    (hb : Respects R body) : Respects R (Proc.repeatUntil body) :=
  Respects.iter (fun _ => hb) ()

theorem Respects.ite {c : Prop} [Decidable c] {m k : Proc σ α} (hm : Respects R m)
    (hk : Respects R k) : Respects R (if c then m else k) := by
  split
  · exact hm
  · exact hk

theorem respects_closed [Std.Refl R] [IsTrans σ R] : Closed (Respects R) where
  pure := respects_pure
  get := respects_get
  bind := Respects.bind

end Respects

theorem Closed.ite {C : ∀ {α : Type}, Proc σ α → Prop} (_ : Closed C) {c : Prop} [Decidable c]
    {m n : Proc σ α} (hm : C m) (hn : C n) : C (if c then m else n) := by
  split
  · exact hm
  · exact hn

end Proc
