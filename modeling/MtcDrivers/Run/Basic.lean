/-!
# Runs of a deterministic machine

A machine over the states `σ` that takes one operation after the other. `Always` says that a property
of a state and the operation taken in it holds at every step of a run. The rules below reduce it to one
step, with an invariant of the states that are reached.
-/

namespace Run

variable {σ ι : Type} (step : σ → ι → σ)

/-- The state after the operations. -/
def after (s : σ) (ops : List ι) : σ := ops.foldl step s

/-- At every step of the run, `P` holds of the state before it and of its operation. -/
def Always (P : σ → ι → Prop) (s : σ) (ops : List ι) : Prop :=
  ∀ pre op post, ops = pre ++ op :: post → P (after step s pre) op

/-- `Q` holds of every state of the run. -/
def Throughout (Q : σ → Prop) (s : σ) (ops : List ι) : Prop :=
  ∀ pre post, ops = pre ++ post → Q (after step s pre)

variable {step} {Q : σ → Prop} {P C : σ → ι → Prop} {s : σ} {ops : List ι}

theorem after_append (pre post : List ι) :
    after step s (pre ++ post) = after step (after step s pre) post :=
  List.foldl_append

theorem always_nil : Always step P s [] := by
  intro pre op post h
  simp at h

theorem always_cons {op : ι} :
    Always step P s (op :: ops) ↔ P s op ∧ Always step P (step s op) ops := by
  constructor
  · intro h
    refine ⟨h [] op ops rfl, ?_⟩
    rintro pre op' post rfl
    exact h (op :: pre) op' post rfl
  · rintro ⟨hfirst, hrest⟩ pre op' post h
    cases pre with
    | nil =>
      obtain ⟨rfl, rfl⟩ := List.cons.inj h
      exact hfirst
    | cons op pre =>
      obtain ⟨rfl, rfl⟩ := List.cons.inj h
      exact hrest pre op' post rfl

theorem always_and {P' : σ → ι → Prop} :
    Always step (fun s op => P s op ∧ P' s op) s ops ↔ Always step P s ops ∧ Always step P' s ops := by
  constructor
  · intro h
    exact ⟨fun pre op post hops => (h pre op post hops).1, fun pre op post hops => (h pre op post hops).2⟩
  · rintro ⟨h, h'⟩ pre op post hops
    exact ⟨h pre op post hops, h' pre op post hops⟩

/-- The states of a run are its first one and the states behind its steps. -/
theorem throughout_iff :
    Throughout step Q s ops ↔ Q s ∧ Always step (fun s op => Q (step s op)) s ops := by
  constructor
  · intro h
    refine ⟨h [] ops rfl, ?_⟩
    intro pre op post hops
    have hq := h (pre ++ [op]) post (by simpa using hops)
    rwa [after_append] at hq
  · rintro ⟨hs, hsteps⟩ pre post hops
    rcases List.eq_nil_or_concat pre with rfl | ⟨pre', op, rfl⟩
    · exact hs
    · rw [List.concat_eq_append, after_append]
      exact hsteps pre' op post (by simpa using hops)

/-- What every step keeps holds after a run. -/
theorem after_keeps {Inv : σ → Prop} (hinv : Inv s) (hkeep : ∀ s op, Inv s → Inv (step s op)) (ops : List ι) :
    Inv (after step s ops) := by
  induction ops generalizing s with
  | nil => exact hinv
  | cons op ops ih => exact ih (hkeep s op hinv)

/-- Properties that agree under an invariant hold throughout the same runs. -/
theorem throughout_congr {Q' : σ → Prop} {Inv : σ → Prop} (hinv : Inv s)
    (hkeep : ∀ s op, Inv s → Inv (step s op)) (hiff : ∀ s, Inv s → (Q s ↔ Q' s)) :
    Throughout step Q s ops ↔ Throughout step Q' s ops :=
  forall_congr' fun pre => forall_congr' fun _ => imp_congr_right fun _ =>
    hiff _ (after_keeps hinv hkeep pre)

/-- If `C` keeps an invariant under which it decides `P`, then the runs of `P` are those of `C`. -/
theorem always_iff (Inv : σ → Prop) (hinv : Inv s)
    (hkeep : ∀ s op, Inv s → C s op → Inv (step s op)) (hiff : ∀ s op, Inv s → (P s op ↔ C s op)) :
    Always step P s ops ↔ Always step C s ops := by
  induction ops generalizing s with
  | nil => exact ⟨fun _ => always_nil, fun _ => always_nil⟩
  | cons op ops ih =>
    rw [always_cons, always_cons, hiff s op hinv]
    exact and_congr_right fun hc => ih (hkeep s op hinv hc)

/-! ## The last write

A part of the state that some operations overwrite and the others leave. After a run it is what was written
last. -/

section

variable {β : Type} {written : ι → Option β} {held : β} {op : ι}

/-- What was written last, or `held` if nothing was. -/
def latest (written : ι → Option β) (held : β) (ops : List ι) : β :=
  (ops.filterMap written).getLast?.getD held

theorem latest_cons : latest written held (op :: ops) = latest written ((written op).getD held) ops := by
  unfold latest
  cases hop : written op with
  | none => rw [List.filterMap_cons_none hop, Option.getD_none]
  | some b => rw [List.filterMap_cons_some hop, List.getLast?_cons, Option.getD_some, Option.getD_some]

theorem latest_append (ops ops' : List ι) :
    latest written held (ops ++ ops') = latest written (latest written held ops) ops' := by
  induction ops generalizing held with
  | nil => rfl
  | cons op ops ih =>
    rw [List.cons_append, latest_cons, latest_cons]
    exact ih

theorem latest_concat (ops : List ι) (op : ι) :
    latest written held (ops ++ [op]) = (written op).getD (latest written held ops) := by
  rw [latest_append, latest_cons]
  rfl

theorem latest_of_none (h : ∀ op ∈ ops, written op = none) : latest written held ops = held := by
  have hnone : ops.filterMap written = [] := List.filterMap_eq_nil_iff.mpr h
  rw [latest, hnone]
  rfl

/-- What an operation writes is read after it, and what it does not write is left. -/
theorem read_after (read : σ → β) (hstep : ∀ s op, read (step s op) = (written op).getD (read s)) (s : σ)
    (ops : List ι) : read (after step s ops) = latest written (read s) ops := by
  induction ops generalizing s with
  | nil => rfl
  | cons op ops ih =>
    rw [latest_cons, ← hstep s op]
    exact ih (step s op)

end

end Run
