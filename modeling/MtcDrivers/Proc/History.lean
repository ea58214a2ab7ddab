import Mathlib.Order.Defs.Unbundled

/-!
# Histories

A history is a list that a run extends at its head, read off the state by a function `f`. `Grew f new
s s'` says that `new` was added between two states of a run, oldest entry first.
-/

namespace History

variable {σ β γ : Type}

/-- The last `n` entries, oldest first. -/
def latest (f : σ → List β) (n : Nat) (s : σ) : List β := ((f s).take n).reverse

/-- The entries added between two states of one run, oldest first. -/
def since (f : σ → List β) (s s' : σ) : List β := latest f ((f s').length - (f s).length) s'

/-- `new` was added between `s` and `s'`. -/
def Grew (f : σ → List β) (new : List β) (s s' : σ) : Prop := f s' = new.reverse ++ f s

/-- Only entries with the property `P` were added between `s` and `s'`. -/
def GrewWith (f : σ → List β) (P : β → Prop) (s s' : σ) : Prop :=
  ∃ new, Grew f new s s' ∧ ∀ e ∈ new, P e

variable {f : σ → List β} {new new' : List β} {s s' s'' : σ} {P : β → Prop}

theorem grew_nil : Grew f [] s s' ↔ f s' = f s := Iff.rfl

theorem grew_refl (s : σ) : Grew f [] s s := rfl

theorem grew_one {e : β} (h : f s' = e :: f s) : Grew f [e] s s' := h

theorem Grew.trans (h : Grew f new s s') (h' : Grew f new' s' s'') :
    Grew f (new ++ new') s s'' := by
  unfold Grew at *
  rw [h', h, List.reverse_append, List.append_assoc]

/-- What was added last. -/
theorem Grew.latest (h : Grew f new s s') : latest f new.length s' = new := by
  unfold Grew at h
  rw [History.latest, h, List.take_left' (by simp), List.reverse_reverse]

theorem Grew.since (h : Grew f new s s') : since f s s' = new := by
  have hlen : (f s').length - (f s).length = new.length := by
    unfold Grew at h
    simp [h]
  rw [History.since, hlen, h.latest]

theorem grewWith_isPreorder (f : σ → List β) (P : β → Prop) : IsPreorder σ (GrewWith f P) where
  refl s := ⟨[], grew_refl s, by simp⟩
  trans := by
    rintro s s' s'' ⟨new, h, hP⟩ ⟨new', h', hP'⟩
    refine ⟨new ++ new', h.trans h', fun e he => ?_⟩
    rcases List.mem_append.mp he with he | he
    · exact hP e he
    · exact hP' e he

theorem GrewWith.of_eq (h : f s' = f s) : GrewWith f P s s' := ⟨[], grew_nil.mpr h, by simp⟩

theorem GrewWith.of_cons {e : β} (h : f s' = e :: f s) (he : P e) : GrewWith f P s s' :=
  ⟨[e], h, by simpa using he⟩

theorem GrewWith.since (h : GrewWith f P s s') : ∀ e ∈ since f s s', P e := by
  obtain ⟨new, hgrew, hP⟩ := h
  rw [hgrew.since]
  exact hP

end History
