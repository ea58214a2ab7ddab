import Mathlib.Data.Nat.Notation
import Mathlib.Order.Defs.Unbundled

/-!
# Stateful procedures with unbounded loops

A procedure over the states `σ` either returns a value in a later state or keeps running. It is
given by its fuelled runs: `run n s` is the outcome of running from `s` when every loop may make at
most `n` passes, and `none` if some loop needed more. More fuel never changes an outcome, which is a
field of the structure; `Ends m s a s'` ("`m` started in `s` returns `a` in `s'`") therefore does not
depend on the fuel, and `Returns m s` says that some amount of fuel is enough. What holds of all runs
is stated by `wlp` (a postcondition) and `Respects` (a relation between start and end), and `wp` adds
that there is a run.
-/

/-- A procedure over the states `σ` with results in `α`. -/
structure Proc (σ α : Type) where
  /-- The outcome of a run in which every loop makes at most the given number of passes. -/
  run : ℕ → σ → Option (α × σ)
  /-- An outcome is not changed by more fuel. -/
  mono : ∀ {n m : ℕ} {s : σ} {r : α × σ}, n ≤ m → run n s = some r → run m s = some r

namespace Proc

variable {σ α β : Type}

/-- The procedure that returns at once. -/
def ret (a : α) : Proc σ α where
  run _ s := some (a, s)
  mono _ h := h

/-- Run `m`, then `f` on its result. -/
def andThen (m : Proc σ α) (f : α → Proc σ β) : Proc σ β where
  run n s := (m.run n s).bind fun r => (f r.1).run n r.2
  mono hnm h := by
    obtain ⟨r, hr, hf⟩ := Option.bind_eq_some_iff.mp h
    exact Option.bind_eq_some_iff.mpr ⟨r, m.mono hnm hr, (f r.1).mono hnm hf⟩

instance : Monad (Proc σ) where
  pure := ret
  bind := andThen

/-- The current state. -/
def get : Proc σ σ where
  run _ s := some (s, s)
  mono _ h := h

/-- Replace the state by its image under `f`. -/
def modify (f : σ → σ) : Proc σ Unit where
  run _ s := some ((), f s)
  mono _ h := h

/-- At most `k` passes of a loop body, each with fuel `n`. -/
def iterRun (body : β → Proc σ (β ⊕ α)) (n : ℕ) : ℕ → β → σ → Option (α × σ)
  | 0, _, _ => none
  | k + 1, b, s =>
    match (body b).run n s with
    | none => none
    | some (.inl b', s') => iterRun body n k b' s'
    | some (.inr a, s') => some (a, s')

theorem iterRun_mono (body : β → Proc σ (β ⊕ α)) {n m : ℕ} (hnm : n ≤ m) :
    ∀ {k l : ℕ} {b : β} {s : σ} {r : α × σ}, k ≤ l →
      iterRun body n k b s = some r → iterRun body m l b s = some r := by
  intro k
  induction k with
  | zero => intro l b s r _ h; simp [iterRun] at h
  | succ k ih =>
    intro l b s r hkl h
    obtain ⟨l, rfl⟩ : ∃ l', l = l' + 1 := ⟨l - 1, by omega⟩
    rw [iterRun] at h ⊢
    cases hb : (body b).run n s with
    | none => simp [hb] at h
    | some p =>
      obtain ⟨x, s1⟩ := p
      rw [(body b).mono hnm hb]
      cases x with
      | inl b' =>
        rw [hb] at h
        exact ih (by omega) h
      | inr a => simpa [hb] using h

/-- The loop over `body`: a pass that returns `inl b` is followed by a pass on `b`, and a pass that
returns `inr a` ends the loop with `a`. -/
def iter (body : β → Proc σ (β ⊕ α)) (b : β) : Proc σ α where
  run n s := iterRun body n n b s
  mono hnm h := iterRun_mono body hnm hnm h

/-- The loop without local variables. -/
def repeatUntil (body : Proc σ (Unit ⊕ α)) : Proc σ α := iter (fun _ : Unit => body) ()

/-- Started in `s`, the procedure returns `a` in `s'`. -/
def Ends (m : Proc σ α) (s : σ) (a : α) (s' : σ) : Prop := ∃ n, m.run n s = some (a, s')

/-- Started in `s`, the procedure returns. -/
def Returns (m : Proc σ α) (s : σ) : Prop := ∃ a s', m.Ends s a s'

/-- Every run of the procedure relates its start to its end by `R`. -/
def Respects (R : σ → σ → Prop) (m : Proc σ α) : Prop := ∀ s a s', m.Ends s a s' → R s s'

/-- A property of procedures that is closed under their sequencing. -/
structure Closed (C : ∀ {α : Type}, Proc σ α → Prop) : Prop where
  pure : ∀ {α : Type} (a : α), C (pure a : Proc σ α)
  get : C (get : Proc σ σ)
  bind : ∀ {α β : Type} {m : Proc σ α} {f : α → Proc σ β}, C m → (∀ a, C (f a)) → C (m >>= f)

/-- The weakest liberal precondition: if the procedure started in `s` returns, its result and final
state satisfy `Q`. -/
def wlp (m : Proc σ α) (Q : α → σ → Prop) (s : σ) : Prop := ∀ a s', m.Ends s a s' → Q a s'

/-- The weakest precondition: started in `s`, the procedure returns, and its result and final state
satisfy `Q`. -/
def wp (m : Proc σ α) (Q : α → σ → Prop) (s : σ) : Prop := ∃ a s', m.Ends s a s' ∧ Q a s'

/-- From the states in `I` the procedure returns, and it keeps `I`. -/
def Total (I : σ → Prop) (m : Proc σ α) : Prop := ∀ s, I s → m.wp (fun _ => I) s

end Proc
