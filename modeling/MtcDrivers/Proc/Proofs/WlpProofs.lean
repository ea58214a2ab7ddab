import MtcDrivers.Proc.Proofs.EndsProofs

/-!
# Weakest preconditions

The rules of `wlp` and `wp`, one for each constructor of procedures. All but the loop rules are
equivalences and are in the simp set, so that `simp only` with them turns a straight-line procedure
into its verification condition. A loop takes an invariant, and for `wp` also a decreasing measure;
a loop can also be run one pass at a time (`wp_iter_pass`).
-/

namespace Proc

variable {σ α β : Type} {Q Q' : α → σ → Prop} {s : σ}

@[simp] theorem wlp_pure {a : α} : (pure a : Proc σ α).wlp Q s ↔ Q a s := by
  constructor
  · intro h
    exact h a s (ends_pure.mpr ⟨rfl, rfl⟩)
  · intro h b s' hb
    obtain ⟨rfl, rfl⟩ := ends_pure.mp hb
    exact h

@[simp] theorem wlp_bind {m : Proc σ β} {f : β → Proc σ α} :
    (m >>= f).wlp Q s ↔ m.wlp (fun b s' => (f b).wlp Q s') s := by
  constructor
  · intro h b s1 h1 a s' h2
    exact h a s' (ends_bind.mpr ⟨b, s1, h1, h2⟩)
  · intro h a s' hm
    obtain ⟨b, s1, h1, h2⟩ := ends_bind.mp hm
    exact h b s1 h1 a s' h2

@[simp] theorem wlp_get {Q : σ → σ → Prop} : (get : Proc σ σ).wlp Q s ↔ Q s s := by
  constructor
  · intro h
    exact h s s (ends_get.mpr ⟨rfl, rfl⟩)
  · intro h t s' ht
    obtain ⟨rfl, rfl⟩ := ends_get.mp ht
    exact h

@[simp] theorem wlp_modify {f : σ → σ} {Q : Unit → σ → Prop} :
    (modify f).wlp Q s ↔ Q () (f s) := by
  constructor
  · intro h
    exact h () (f s) (ends_modify.mpr rfl)
  · intro h u s' hs
    rw [ends_modify.mp hs]
    exact h

@[simp] theorem wlp_ite {c : Prop} [Decidable c] {m k : Proc σ α} :
    (if c then m else k).wlp Q s ↔ (c → m.wlp Q s) ∧ (¬c → k.wlp Q s) := by
  by_cases hc : c <;> simp [hc]

/-- A weaker postcondition. -/
theorem wlp_mono {m : Proc σ α} (h : m.wlp Q s) (hQ : ∀ a s', Q a s' → Q' a s') : m.wlp Q' s :=
  fun a s' hm => hQ a s' (h a s' hm)

theorem wlp_and {m : Proc σ α} (h : m.wlp Q s) (h' : m.wlp Q' s) :
    m.wlp (fun a s' => Q a s' ∧ Q' a s') s :=
  fun a s' hm => ⟨h a s' hm, h' a s' hm⟩

/-- A procedure whose runs respect `R` establishes what holds of every `R`-successor. -/
theorem Respects.wlp {R : σ → σ → Prop} {m : Proc σ α} (hm : Respects R m)
    (h : ∀ a s', R s s' → Q a s') : m.wlp Q s :=
  fun a s' he => h a s' (hm s a s' he)

/-- The rule of the loop: every pass from the invariant leads back to it or stops in `Q`. -/
theorem wlp_iter {body : β → Proc σ (β ⊕ α)} (Inv : β → σ → Prop)
    (hpass : ∀ b s, Inv b s → (body b).wlp (fun x => x.elim Inv Q) s) {b : β} (h0 : Inv b s) :
    (iter body b).wlp Q s :=
  fun _ _ h => iter_invariant Inv Q
    (fun b s b' s' hI hb => hpass b s hI (.inl b') s' hb)
    (fun b s a s' hI hb => hpass b s hI (.inr a) s' hb) h0 h

/-- The first pass of a loop. -/
theorem wlp_iter_pass {body : β → Proc σ (β ⊕ α)} {b : β}
    (h : (body b).wlp (fun x s' => x.elim (fun b' => (iter body b').wlp Q s') (fun a => Q a s')) s) :
    (iter body b).wlp Q s := by
  intro a s' hends
  rcases ends_iter.mp hends with ⟨b', s1, h1, h2⟩ | h1
  · exact h (.inl b') s1 h1 a s' h2
  · exact h (.inr a) s' h1

/-- A loop whose passes always go on does not return. -/
theorem wlp_iter_forever {body : β → Proc σ (β ⊕ α)} (Inv : β → σ → Prop)
    (hpass : ∀ b s, Inv b s → (body b).wlp (fun x s' => ∃ b', x = .inl b' ∧ Inv b' s') s) {b : β}
    (h0 : Inv b s) : (iter body b).wlp Q s := by
  refine wlp_iter Inv (fun b s hI => wlp_mono (hpass b s hI) ?_) h0
  rintro x s' ⟨b', rfl, hI'⟩
  exact hI'

/-- The rule of the loop without local variables. -/
theorem wlp_repeatUntil {body : Proc σ (Unit ⊕ α)} (Inv : σ → Prop)
    (hpass : ∀ s, Inv s → body.wlp (fun x => x.elim (fun _ => Inv) Q) s) (h0 : Inv s) :
    (repeatUntil body).wlp Q s :=
  wlp_iter (fun _ => Inv) (fun _ s hI => hpass s hI) h0

/-! ## Total correctness -/

@[simp] theorem wp_pure {a : α} : (pure a : Proc σ α).wp Q s ↔ Q a s := by
  constructor
  · rintro ⟨b, s', hb, hQ⟩
    obtain ⟨rfl, rfl⟩ := ends_pure.mp hb
    exact hQ
  · intro h
    exact ⟨a, s, ends_pure.mpr ⟨rfl, rfl⟩, h⟩

@[simp] theorem wp_bind {m : Proc σ β} {f : β → Proc σ α} :
    (m >>= f).wp Q s ↔ m.wp (fun b s' => (f b).wp Q s') s := by
  constructor
  · rintro ⟨a, s', hm, hQ⟩
    obtain ⟨b, s1, h1, h2⟩ := ends_bind.mp hm
    exact ⟨b, s1, h1, a, s', h2, hQ⟩
  · rintro ⟨b, s1, h1, a, s', h2, hQ⟩
    exact ⟨a, s', ends_bind.mpr ⟨b, s1, h1, h2⟩, hQ⟩

@[simp] theorem wp_get {Q : σ → σ → Prop} : (get : Proc σ σ).wp Q s ↔ Q s s := by
  constructor
  · rintro ⟨t, s', ht, hQ⟩
    obtain ⟨rfl, rfl⟩ := ends_get.mp ht
    exact hQ
  · intro h
    exact ⟨s, s, ends_get.mpr ⟨rfl, rfl⟩, h⟩

@[simp] theorem wp_modify {f : σ → σ} {Q : Unit → σ → Prop} :
    (modify f).wp Q s ↔ Q () (f s) := by
  constructor
  · rintro ⟨u, s', hs, hQ⟩
    rw [ends_modify.mp hs] at hQ
    exact hQ
  · intro h
    exact ⟨(), f s, ends_modify.mpr rfl, h⟩

@[simp] theorem wp_ite {c : Prop} [Decidable c] {m k : Proc σ α} :
    (if c then m else k).wp Q s ↔ (c → m.wp Q s) ∧ (¬c → k.wp Q s) := by
  by_cases hc : c <;> simp [hc]

theorem wp_mono {m : Proc σ α} (h : m.wp Q s) (hQ : ∀ a s', Q a s' → Q' a s') : m.wp Q' s := by
  obtain ⟨a, s', hm, ha⟩ := h
  exact ⟨a, s', hm, hQ a s' ha⟩

/-- What holds of all runs holds of the run there is. -/
theorem wp_and_wlp {m : Proc σ α} (h : m.wp Q s) (h' : m.wlp Q' s) :
    m.wp (fun a s' => Q a s' ∧ Q' a s') s := by
  obtain ⟨a, s', hm, ha⟩ := h
  exact ⟨a, s', hm, ha, h' a s' hm⟩

/-- A procedure has one run at most, so what holds of it holds of all runs. -/
theorem wlp_of_wp {m : Proc σ α} (h : m.wp Q s) : m.wlp Q s := by
  obtain ⟨a, s', hm, hQ⟩ := h
  intro b s'' hm'
  obtain ⟨rfl, rfl⟩ := hm.det hm'
  exact hQ

/-- A procedure without runs establishes nothing. -/
theorem not_wp_of_wlp_false {m : Proc σ α} (h : m.wlp (fun _ _ => False) s) : ¬m.wp Q s := by
  rintro ⟨a, s', hm, -⟩
  exact h a s' hm

/-- The first pass of a loop. -/
theorem wp_iter_pass {body : β → Proc σ (β ⊕ α)} {b : β} :
    (iter body b).wp Q s ↔
      (body b).wp (fun x s' => x.elim (fun b' => (iter body b').wp Q s') (fun a => Q a s')) s := by
  constructor
  · rintro ⟨a, s', h, hQ⟩
    rcases ends_iter.mp h with ⟨b', s1, h1, h2⟩ | h1
    · exact ⟨.inl b', s1, h1, a, s', h2, hQ⟩
    · exact ⟨.inr a, s', h1, hQ⟩
  · rintro ⟨x, s1, h1, hx⟩
    cases x with
    | inl b' =>
      obtain ⟨a, s', h2, hQ⟩ := hx
      exact ⟨a, s', ends_iter.mpr (Or.inl ⟨b', s1, h1, h2⟩), hQ⟩
    | inr a => exact ⟨a, s1, ends_iter.mpr (Or.inr h1), hx⟩

/-- The rule of the loop: every pass from the invariant ends, and it leads back to the invariant with
a smaller measure or stops in `Q`. -/
theorem wp_iter {body : β → Proc σ (β ⊕ α)} (Inv : β → σ → Prop) (μ : β → σ → ℕ)
    (hpass : ∀ b s, Inv b s → (body b).wp (fun x s' =>
      x.elim (fun b' => Inv b' s' ∧ μ b' s' < μ b s) (fun a => Q a s')) s)
    {b : β} (h0 : Inv b s) : (iter body b).wp Q s := by
  have main : ∀ k b s, μ b s = k → Inv b s → (iter body b).wp Q s := by
    intro k
    induction k using Nat.strongRecOn with
    | _ k ih =>
      intro b s hk hI
      refine wp_iter_pass.mpr (wp_mono (hpass b s hI) fun x s' hx => ?_)
      cases x with
      | inl b' => exact ih _ (hk ▸ hx.2) b' s' rfl hx.1
      | inr a => exact hx
  exact main _ b s rfl h0

/-! ## Procedures that always return -/

section Total

variable {I : σ → Prop}

theorem total_modify {f : σ → σ} (hf : ∀ s, I s → I (f s)) : Total I (modify f) :=
  fun s hs => wp_modify.mpr (hf s hs)

theorem total_closed (I : σ → Prop) : Closed (Total I) where
  pure _ _ hs := wp_pure.mpr hs
  get _ hs := wp_get.mpr hs
  bind hm hf s hs := wp_bind.mpr (wp_mono (hm s hs) fun a s' hs' => hf a s' hs')

/-- A loop always returns if its passes do and the local variables of a pass that goes on decrease. -/
theorem Total.iter {body : β → Proc σ (β ⊕ α)} (J : β → Prop) (μ : β → ℕ)
    (hbody : ∀ b, J b → Total I (body b))
    (hdec : ∀ b s, J b → (body b).wlp (fun x _ => ∀ b', x = .inl b' → J b' ∧ μ b' < μ b) s)
    {b : β} (hb : J b) : Total I (Proc.iter body b) := by
  intro s hs
  refine wp_iter (fun b s => J b ∧ I s) (fun b _ => μ b) (fun b s hI => ?_) ⟨hb, hs⟩
  refine wp_mono (wp_and_wlp (hbody b hI.1 s hI.2) (hdec b s hI.1)) fun x s' hx => ?_
  cases x with
  | inl b' => exact ⟨⟨(hx.2 b' rfl).1, hx.1⟩, (hx.2 b' rfl).2⟩
  | inr a => exact hx.1

end Total

end Proc
