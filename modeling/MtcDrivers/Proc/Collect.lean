import MtcDrivers.Proc.Proofs.WlpProofs

/-!
# Procedures from procedures

`collect m n` runs `m` for `n` times and returns what the runs returned. `zoom get set m` runs a procedure on the part
of the state that `get` reads and `set` replaces.
-/

namespace Proc

/-! ## Several runs of one procedure -/

section

variable {σ α : Type}

/-- The results of `n` runs. -/
def collect (m : Proc σ α) : ℕ → Proc σ (List α)
  | 0 => return []
  | n + 1 => do
    let a ← m
    let as ← collect m n
    return a :: as

variable {m : Proc σ α} {s : σ}

theorem wp_collect_zero {Q : List α → σ → Prop} : (collect m 0).wp Q s ↔ Q [] s :=
  wp_pure

theorem wp_collect_succ {n : ℕ} {Q : List α → σ → Prop} :
    (collect m (n + 1)).wp Q s ↔
      m.wp (fun a s' => (collect m n).wp (fun as s'' => Q (a :: as) s'') s') s := by
  simp only [collect, wp_bind, wp_pure]

/-- From a state in `I k` every run returns the `k`-th of the expected results, and it leads to `I (k + 1)`. -/
theorem wp_collect (I : ℕ → σ → Prop) (expected : ℕ → α) (n : ℕ)
    (hrun : ∀ k s, I k s → m.wp (fun a s' => a = expected k ∧ I (k + 1) s') s) {k : ℕ} (h : I k s) :
    (collect m n).wp (fun as s' => as = (List.range n).map (fun i => expected (k + i)) ∧ I (k + n) s') s := by
  induction n generalizing k s with
  | zero => exact wp_collect_zero.mpr ⟨rfl, h⟩
  | succ n ih =>
    rw [wp_collect_succ]
    refine wp_mono (hrun k s h) ?_
    rintro a s1 ⟨rfl, h1⟩
    refine wp_mono (ih h1) ?_
    rintro as s2 ⟨rfl, h2⟩
    rw [List.range_succ_eq_map, List.map_cons, List.map_map]
    have hadd : ∀ i, k + 1 + i = k + (i + 1) := fun i => by omega
    refine ⟨?_, hadd n ▸ h2⟩
    exact congrArg _ (List.map_congr_left fun i _ => congrArg expected (hadd i))

end

/-! ## Procedures on a part of the state -/

section

variable {σ τ α : Type}

/-- Run a procedure on a part of the state. -/
def zoom (get : σ → τ) (set : τ → σ → σ) (m : Proc τ α) : Proc σ α where
  run n s := (m.run n (get s)).map fun r => (r.1, set r.2 s)
  mono hnm h := by
    obtain ⟨r, hr, hset⟩ := Option.map_eq_some_iff.mp h
    exact Option.map_eq_some_iff.mpr ⟨r, m.mono hnm hr, hset⟩

theorem ends_zoom {get : σ → τ} {set : τ → σ → σ} {m : Proc τ α} {s s' : σ} {a : α} :
    (zoom get set m).Ends s a s' ↔ ∃ t, m.Ends (get s) a t ∧ set t s = s' := by
  constructor
  · rintro ⟨n, h⟩
    obtain ⟨⟨b, t⟩, hr, heq⟩ := Option.map_eq_some_iff.mp h
    obtain ⟨rfl, hset⟩ := Prod.mk.inj heq
    exact ⟨t, ⟨n, hr⟩, hset⟩
  · rintro ⟨t, ⟨n, hr⟩, hset⟩
    exact ⟨n, Option.map_eq_some_iff.mpr ⟨(a, t), hr, Prod.ext rfl hset⟩⟩

@[simp] theorem wlp_zoom {get : σ → τ} {set : τ → σ → σ} {m : Proc τ α} {s : σ} {Q : α → σ → Prop} :
    (zoom get set m).wlp Q s ↔ m.wlp (fun a t => Q a (set t s)) (get s) := by
  constructor
  · intro h a t ht
    exact h a (set t s) (ends_zoom.mpr ⟨t, ht, rfl⟩)
  · intro h a s' hends
    obtain ⟨t, ht, rfl⟩ := ends_zoom.mp hends
    exact h a t ht

@[simp] theorem wp_zoom {get : σ → τ} {set : τ → σ → σ} {m : Proc τ α} {s : σ} {Q : α → σ → Prop} :
    (zoom get set m).wp Q s ↔ m.wp (fun a t => Q a (set t s)) (get s) := by
  constructor
  · rintro ⟨a, s', h, hQ⟩
    obtain ⟨t, ht, rfl⟩ := ends_zoom.mp h
    exact ⟨a, t, ht, hQ⟩
  · rintro ⟨a, t, ht, hQ⟩
    exact ⟨a, set t s, ends_zoom.mpr ⟨t, ht, rfl⟩, hQ⟩

end

end Proc
