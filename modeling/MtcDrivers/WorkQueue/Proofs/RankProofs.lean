import MtcDrivers.WorkQueue.Basic

/-!
# Proofs: an order of the resources excludes circular waits

Whoever holds a mutex, or runs an item of a queue, waits only for what is below it. Every step keeps this,
and along a chain of waits the rank of what is waited for decreases.
-/

namespace WorkQueue

variable {Q L ι T : Type} {s s' : State Q L ι T} {a b : Agent Q T}

/-- Others may wait for the agent at this resource. -/
inductive Serves (s : State Q L ι T) : Agent Q T → Resource Q L → Prop
  | lock {a : Agent Q T} {l : L} (held : s.owner l = some a) : Serves s a (.lock l)
  | queue {q : Q} {i : ι} (busy : s.running q = some i) : Serves s (.worker q) (.queue q)

/-- Nobody serves anything new. -/
def ServesLess (s s' : State Q L ι T) : Prop := ∀ a r, Serves s' a r → Serves s a r

theorem servesLess_of_eq (hrunning : s'.running = s.running) (howner : s'.owner = s.owner) :
    ServesLess s s' := by
  intro a r hr
  cases hr with
  | lock held => exact .lock (howner ▸ held)
  | queue busy => exact .queue (hrunning ▸ busy)

theorem servesLess_finish [DecidableEq Q] (s : State Q L ι T) (q : Q) : ServesLess s (s.setRunning q none) := by
  intro a r hr
  cases hr with
  | lock held => exact .lock held
  | @queue q' i busy =>
    change Function.update s.running q none q' = some i at busy
    by_cases hq : q' = q
    · rw [hq, Function.update_self] at busy
      cases busy
    · rw [Function.update_of_ne hq] at busy
      exact .queue busy

theorem servesLess_release [DecidableEq L] (s : State Q L ι T) (l : L) : ServesLess s (s.setOwner l none) := by
  intro a r hr
  cases hr with
  | @lock _ l' held =>
    change Function.update s.owner l none l' = some a at held
    by_cases hl : l' = l
    · rw [hl, Function.update_self] at held
      cases held
    · rw [Function.update_of_ne hl] at held
      exact .lock held
  | queue busy => exact .queue busy

variable [DecidableEq Q] [DecidableEq L]

/-- What an agent holds and what it has still to do fit the order. -/
def OrderlyAt (sys : System Q L ι T) (rank : Resource Q L → ℕ) (s : State Q L ι T) (a : Agent Q T) : Prop :=
  ∃ held, sys.Disciplined rank held (s.script a) ∧ ∀ r, Serves s a r → r ∈ held

def Orderly (sys : System Q L ι T) (rank : Resource Q L → ℕ) (s : State Q L ι T) : Prop :=
  ∀ a, OrderlyAt sys rank s a

variable {sys : System Q L ι T} {rank : Resource Q L → ℕ}

/-! ## The steps -/

/-- An agent that keeps its script and serves nothing new stays orderly. -/
theorem OrderlyAt.same (h : OrderlyAt sys rank s a) (hscript : s'.script a = s.script a)
    (hserves : ∀ r, Serves s' a r → Serves s a r) : OrderlyAt sys rank s' a := by
  obtain ⟨held, hdisciplined, hheld⟩ := h
  exact ⟨held, hscript ▸ hdisciplined, fun r hr => hheld r (hserves r hr)⟩

/-- An agent with nothing to do holds no mutex. -/
theorem OrderlyAt.noLock (h : OrderlyAt sys rank s a) (hidle : s.script a = []) (l : L) :
    s.owner l ≠ some a := by
  obtain ⟨held, hdisciplined, hheld⟩ := h
  rw [hidle] at hdisciplined
  intro howner
  exact hdisciplined l (hheld _ (.lock howner))

theorem orderly_idle : Orderly sys rank State.idle := by
  intro a
  refine ⟨[], fun l hl => absurd hl List.not_mem_nil, fun r hr => ?_⟩
  cases hr with
  | lock held => cases held
  | queue busy => cases busy

theorem Orderly.less (h : Orderly sys rank s) (hscript : s'.script = s.script) (hserves : ServesLess s s') :
    Orderly sys rank s' :=
  fun a => (h a).same (congrFun hscript a) (hserves a)

/-- One agent gets another script, and nobody else serves anything new. -/
theorem Orderly.setScript [DecidableEq T] (h : Orderly sys rank s) {ops : List (Op Q L ι)}
    {held : List (Resource Q L)} (hdisciplined : sys.Disciplined rank held ops)
    (hscript : s'.script = Function.update s.script a ops) (hheld : ∀ r, Serves s' a r → r ∈ held)
    (hothers : ∀ b, b ≠ a → ∀ r, Serves s' b r → Serves s b r) : Orderly sys rank s' := by
  intro b
  by_cases hb : b = a
  · subst hb
    refine ⟨held, ?_, hheld⟩
    rw [hscript, Function.update_self]
    exact hdisciplined
  · refine (h b).same ?_ (hothers b hb)
    rw [hscript, Function.update_of_ne hb]

theorem Orderly.call [DecidableEq T] (h : Orderly sys rank s) (hrank : sys.Ranked rank) {t : T}
    {ops : List (Op Q L ι)} (hidle : s.script (.caller t) = []) (hcalls : sys.calls t ops) :
    Orderly sys rank (s.setScript (.caller t) ops) := by
  have hsame : ServesLess s (s.setScript (.caller t) ops) := servesLess_of_eq rfl rfl
  refine h.setScript (hrank.calls t ops hcalls) rfl (fun r hr => ?_) fun b _ => hsame b
  cases hsame _ r hr with
  | lock held => exact absurd held ((h _).noLock hidle _)

theorem Orderly.start [DecidableEq T] (h : Orderly sys rank s) (hrank : sys.Ranked rank) {i : ι}
    {rest : List (Entry Q ι T)} {ops : List (Op Q L ι)}
    (hidle : s.script (.worker (sys.home i)) = []) (hwork : sys.work i ops) :
    Orderly sys rank (((s.setPending (sys.home i) rest).setRunning (sys.home i) (some i)).setScript
      (.worker (sys.home i)) ops) := by
  refine h.setScript (hrank.work i ops hwork) rfl (fun r hr => ?_) fun b hb r hr => ?_
  · generalize ha : Agent.worker (sys.home i) = a at hr
    cases hr with
    | lock held => exact absurd held (ha ▸ (h _).noLock hidle _)
    | queue busy =>
      obtain rfl := Agent.worker.inj ha
      exact List.mem_singleton.mpr rfl
  · cases hr with
    | lock held => exact .lock held
    | @queue q j busy =>
      have hq : q ≠ sys.home i := by
        rintro rfl
        exact hb rfl
      change Function.update s.running (sys.home i) (some i) q = some j at busy
      rw [Function.update_of_ne hq] at busy
      exact .queue busy

/-- An agent goes on with another script, and holds what it has held. -/
theorem Orderly.goOn [DecidableEq T] (h : Orderly sys rank s) {ops : List (Op Q L ι)}
    {held : List (Resource Q L)} (hheld : ∀ r, Serves s a r → r ∈ held)
    (hdisciplined : sys.Disciplined rank held ops) (hscript : s'.script = Function.update s.script a ops)
    (hless : ServesLess s s') : Orderly sys rank s' :=
  h.setScript hdisciplined hscript (fun r hr => hheld r (hless a r hr)) fun b _ => hless b

theorem Orderly.lock [DecidableEq T] (h : Orderly sys rank s) {l : L} {rest : List (Op Q L ι)}
    {held : List (Resource Q L)} (hheld : ∀ r, Serves s a r → r ∈ held)
    (hdisciplined : sys.Disciplined rank (.lock l :: held) rest) :
    Orderly sys rank ((s.setOwner l (some a)).setScript a rest) := by
  have howner : ∀ {b l'}, Function.update s.owner l (some a) l' = some b →
      (l' = l ∧ b = a) ∨ s.owner l' = some b := by
    intro b l' hb
    by_cases hl : l' = l
    · rw [hl, Function.update_self] at hb
      exact Or.inl ⟨hl, (Option.some.inj hb).symm⟩
    · rw [Function.update_of_ne hl] at hb
      exact Or.inr hb
  refine h.setScript hdisciplined rfl (fun r hr => ?_) fun b hb r hr => ?_
  · cases hr with
    | lock howned =>
      rcases howner howned with ⟨rfl, _⟩ | hold
      · exact List.mem_cons_self
      · exact List.mem_cons_of_mem _ (hheld _ (.lock hold))
    | queue busy => exact List.mem_cons_of_mem _ (hheld _ (.queue busy))
  · cases hr with
    | lock howned =>
      rcases howner howned with ⟨_, hba⟩ | hold
      · exact absurd hba hb
      · exact .lock hold
    | queue busy => exact .queue busy

theorem Orderly.unlock [DecidableEq T] (h : Orderly sys rank s) {l : L} {rest : List (Op Q L ι)}
    {held : List (Resource Q L)} (hheld : ∀ r, Serves s a r → r ∈ held)
    (hdisciplined : sys.Disciplined rank (held.filter (· ≠ .lock l)) rest) :
    Orderly sys rank ((s.setOwner l none).setScript a rest) := by
  have hscript : ServesLess (s.setOwner l none) ((s.setOwner l none).setScript a rest) :=
    servesLess_of_eq rfl rfl
  have hless : ServesLess s ((s.setOwner l none).setScript a rest) :=
    fun b r hr => servesLess_release s l b r (hscript b r hr)
  refine h.setScript hdisciplined rfl (fun r hr => ?_) fun b _ => hless b
  refine List.mem_filter.mpr ⟨hheld r (hless a r hr), ?_⟩
  cases hr with
  | @lock _ l' howned =>
    change Function.update s.owner l none l' = some a at howned
    have hl : l' ≠ l := by
      rintro rfl
      rw [Function.update_self] at howned
      cases howned
    simpa using hl
  | queue busy => simp

theorem Orderly.act [DecidableEq ι] [DecidableEq T] (h : Orderly sys rank s) {op : Op Q L ι}
    {rest : List (Op Q L ι)} (hnext : s.script a = op :: rest) (hrun : sys.perform a rest s op = some s') :
    Orderly sys rank s' := by
  obtain ⟨held, hdisciplined, hheld⟩ := h a
  rw [hnext] at hdisciplined
  obtain ⟨hbelow, hrest⟩ := hdisciplined
  cases op with
  | lock l =>
    obtain ⟨_, rfl⟩ : s.owner l = none ∧ (s.setOwner l (some a)).setScript a rest = s' := by
      simpa [System.perform] using hrun
    exact h.lock hheld hrest
  | unlock l =>
    obtain rfl := Option.some.inj hrun
    exact h.unlock hheld hrest
  | queue i =>
    obtain rfl := Option.some.inj hrun
    exact h.goOn hheld hrest rfl (servesLess_of_eq rfl rfl)
  | flush q =>
    obtain rfl := Option.some.inj hrun
    have hawait : sys.Disciplined rank held (.await q :: rest) := ⟨hbelow, hrest⟩
    exact h.goOn hheld hawait rfl (servesLess_of_eq rfl rfl)
  | await q =>
    obtain ⟨_, rfl⟩ : .barrier a ∉ s.pending q ∧ s.setScript a rest = s' := by
      simpa [System.perform] using hrun
    exact h.goOn hheld hrest rfl (servesLess_of_eq rfl rfl)
  | cancel i =>
    obtain ⟨_, rfl⟩ : ¬ s.running (sys.home i) = some i ∧ (s.setPending (sys.home i)
        ((s.pending (sys.home i)).filter (· ≠ .item i))).setScript a rest = s' := by
      simpa only [System.perform, ite_eq_iff, Option.some.injEq, reduceCtorEq, and_false, false_or] using hrun
    exact h.goOn hheld hrest rfl (servesLess_of_eq rfl rfl)

/-- Every step keeps the order. -/
theorem Orderly.step [DecidableEq ι] [DecidableEq T] (hrank : sys.Ranked rank) (h : Orderly sys rank s)
    (hstep : sys.Step s s') : Orderly sys rank s' := by
  cases hstep with
  | arrive i => exact h.less rfl (servesLess_of_eq rfl rfl)
  | call idle hcalls => exact h.call hrank idle hcalls
  | start _ idle _ hwork => exact h.start hrank idle hwork
  | barrier _ _ => exact h.less rfl (servesLess_of_eq rfl rfl)
  | finish _ => exact h.less rfl (servesLess_finish s _)
  | act next hrun => exact h.act next hrun

theorem orderly_reachable [DecidableEq ι] [DecidableEq T] (hrank : sys.Ranked rank)
    (h : sys.Reachable s) : Orderly sys rank s := by
  induction h with
  | refl => exact orderly_idle
  | tail _ hstep ih => exact ih.step hrank hstep

/-! ## Chains of waits -/

/-- The resource that the next operation of an agent may have to wait for. -/
def Wants (sys : System Q L ι T) (s : State Q L ι T) (a : Agent Q T) (r : Resource Q L) : Prop :=
  ∃ op rest, s.script a = op :: rest ∧ sys.target op = some r

omit [DecidableEq Q] [DecidableEq L] in
/-- Who waits wants something that the other one serves. -/
theorem waitsFor_wants (h : sys.WaitsFor s a b) : ∃ r, Wants sys s a r ∧ Serves s b r := by
  cases h with
  | lock next held => exact ⟨_, ⟨_, _, next, rfl⟩, .lock held⟩
  | await next _ busy => exact ⟨_, ⟨_, _, next, rfl⟩, .queue busy⟩
  | cancel next busy => exact ⟨_, ⟨_, _, next, rfl⟩, .queue busy⟩

/-- What is wanted is below everything that is served. -/
theorem Orderly.below (h : Orderly sys rank s) {r r' : Resource Q L} (hwants : Wants sys s a r)
    (hserves : Serves s a r') : rank r < rank r' := by
  obtain ⟨op, rest, hnext, htarget⟩ := hwants
  obtain ⟨held, hdisciplined, hheld⟩ := h a
  rw [hnext] at hdisciplined
  exact hdisciplined.1 r htarget r' (hheld r' hserves)

/-- Along a chain of waits the rank of what is served does not increase. -/
theorem Orderly.chain (h : Orderly sys rank s) (hchain : Relation.TransGen (sys.WaitsFor s) a b) :
    ∃ r r', Wants sys s a r ∧ Serves s b r' ∧ rank r' ≤ rank r := by
  induction hchain with
  | single hwait =>
    obtain ⟨r, hwants, hserves⟩ := waitsFor_wants hwait
    exact ⟨r, r, hwants, hserves, Nat.le_refl _⟩
  | tail _ hwait ih =>
    obtain ⟨r, r', hwants, hserves, hle⟩ := ih
    obtain ⟨r'', hwants', hserves'⟩ := waitsFor_wants hwait
    have hlt := h.below hwants' hserves
    exact ⟨r, r'', hwants, hserves', by omega⟩

/-- Nobody waits for itself, not even through others. -/
theorem Orderly.acyclic (h : Orderly sys rank s) (a : Agent Q T) :
    ¬ Relation.TransGen (sys.WaitsFor s) a a := by
  intro hcycle
  obtain ⟨r, r', hwants, hserves, hle⟩ := h.chain hcycle
  have hlt := h.below hwants hserves
  omega

/-- From somebody who serves a resource a chain of waits leads to somebody who waits for nobody. -/
theorem Orderly.ends_serving (h : Orderly sys rank s) {n : ℕ} :
    ∀ {b : Agent Q T} {r : Resource Q L}, Serves s b r → rank r = n →
      ∃ c, Relation.ReflTransGen (sys.WaitsFor s) b c ∧ ∀ d, ¬ sys.WaitsFor s c d := by
  induction n using Nat.strongRecOn with
  | _ n ih =>
    intro b r hserves hn
    by_cases hblocked : ∃ c, sys.WaitsFor s b c
    · obtain ⟨c, hwait⟩ := hblocked
      obtain ⟨r', hwants, hserves'⟩ := waitsFor_wants hwait
      have hlt := h.below hwants hserves
      obtain ⟨d, hchain, hfree⟩ := ih (rank r') (hn ▸ hlt) hserves' rfl
      exact ⟨d, hchain.head hwait, hfree⟩
    · exact ⟨b, .refl, fun d hd => hblocked ⟨d, hd⟩⟩

/-- Every chain of waits leads to somebody who waits for nobody. -/
theorem Orderly.ends (h : Orderly sys rank s) (a : Agent Q T) :
    ∃ b, Relation.ReflTransGen (sys.WaitsFor s) a b ∧ ∀ c, ¬ sys.WaitsFor s b c := by
  by_cases hblocked : ∃ b, sys.WaitsFor s a b
  · obtain ⟨b, hwait⟩ := hblocked
    obtain ⟨r, _, hserves⟩ := waitsFor_wants hwait
    obtain ⟨c, hchain, hfree⟩ := h.ends_serving hserves rfl
    exact ⟨c, hchain.head hwait, hfree⟩
  · exact ⟨a, .refl, fun c hc => hblocked ⟨c, hc⟩⟩

/-! ## Scripts that keep the order -/

/-- A piece of a script that takes no mutex and waits only for what ranks below `n`. -/
def Below (sys : System Q L ι T) (rank : Resource Q L → ℕ) (n : ℕ) (ops : List (Op Q L ι)) : Prop :=
  ∀ op ∈ ops, (∀ l, op ≠ .lock l ∧ op ≠ .unlock l) ∧ ∀ r, sys.target op = some r → rank r < n

section Below

omit [DecidableEq Q] [DecidableEq L]

variable {n m : ℕ} {ops ops' : List (Op Q L ι)}

theorem below_nil : Below sys rank n [] := fun _ h => absurd h List.not_mem_nil

theorem below_cons {op : Op Q L ι} (hlock : ∀ l, op ≠ .lock l ∧ op ≠ .unlock l)
    (hrank : ∀ r, sys.target op = some r → rank r < n) (h : Below sys rank n ops) :
    Below sys rank n (op :: ops) := by
  intro op' hop'
  rcases List.mem_cons.mp hop' with rfl | hop'
  · exact ⟨hlock, hrank⟩
  · exact h op' hop'

theorem below_queue (i : ι) (h : Below sys rank n ops) : Below sys rank n (.queue i :: ops) :=
  below_cons (fun _ => by simp) (fun _ hr => by cases hr) h

theorem below_flush {q : Q} (hq : rank (.queue q) < n) (h : Below sys rank n ops) :
    Below sys rank n (.flush q :: ops) := by
  refine below_cons (fun _ => by simp) (fun r hr => ?_) h
  obtain rfl := Option.some.inj hr
  exact hq

theorem below_cancel {i : ι} (hi : rank (.queue (sys.home i)) < n) (h : Below sys rank n ops) :
    Below sys rank n (.cancel i :: ops) := by
  refine below_cons (fun _ => by simp) (fun r hr => ?_) h
  obtain rfl := Option.some.inj hr
  exact hi

theorem Below.append (h : Below sys rank n ops) (h' : Below sys rank n ops') :
    Below sys rank n (ops ++ ops') := by
  intro op hop
  rcases List.mem_append.mp hop with hop | hop
  · exact h op hop
  · exact h' op hop

theorem Below.mono (h : Below sys rank n ops) (hnm : n ≤ m) : Below sys rank m ops := by
  intro op hop
  obtain ⟨hlock, hrank⟩ := h op hop
  exact ⟨hlock, fun r hr => Nat.lt_of_lt_of_le (hrank r hr) hnm⟩

theorem below_ite {c : Prop} [Decidable c] (h : Below sys rank n ops) (h' : Below sys rank n ops') :
    Below sys rank n (if c then ops else ops') := by
  by_cases hc : c
  · rw [if_pos hc]
    exact h
  · rw [if_neg hc]
    exact h'

end Below

/-- A piece below everything that is held. -/
theorem Below.disciplined {n : ℕ} {ops rest : List (Op Q L ι)} {held : List (Resource Q L)}
    (h : Below sys rank n ops) (hheld : ∀ r ∈ held, n ≤ rank r)
    (hrest : sys.Disciplined rank held rest) : sys.Disciplined rank held (ops ++ rest) := by
  induction ops with
  | nil => exact hrest
  | cons op ops ih =>
    obtain ⟨hlock, hrank⟩ := h op List.mem_cons_self
    have hkeeps : System.heldAfter held op = held := by
      cases op with
      | lock l => exact absurd rfl (hlock l).1
      | unlock l => exact absurd rfl (hlock l).2
      | _ => rfl
    refine ⟨fun r hr r' hr' => Nat.lt_of_lt_of_le (hrank r hr) (hheld r' hr'), ?_⟩
    rw [hkeeps]
    exact ih fun op' hop' => h op' (List.mem_cons_of_mem op hop')

/-- A mutex is taken that is below everything that is held. -/
theorem disciplined_lock {l : L} {rest : List (Op Q L ι)} {held : List (Resource Q L)}
    (hl : ∀ r ∈ held, rank (.lock l) < rank r) (hrest : sys.Disciplined rank (.lock l :: held) rest) :
    sys.Disciplined rank held (.lock l :: rest) := by
  refine ⟨fun r hr r' hr' => ?_, hrest⟩
  obtain rfl := Option.some.inj hr
  exact hl r' hr'

/-- The mutex that was taken last is released. -/
theorem disciplined_unlock {l : L} {rest : List (Op Q L ι)} {held : List (Resource Q L)}
    (hl : ∀ r ∈ held, rank (.lock l) < rank r) (hrest : sys.Disciplined rank held rest) :
    sys.Disciplined rank (.lock l :: held) (.unlock l :: rest) := by
  have hout : .lock l ∉ held := fun hmem => Nat.lt_irrefl _ (hl _ hmem)
  have hback : System.heldAfter (.lock l :: held) (.unlock l : Op Q L ι) = held := by
    simp only [System.heldAfter, ne_eq, not_true_eq_false, decide_false, Bool.false_eq_true,
      not_false_eq_true, List.filter_cons_of_neg]
    exact List.filter_eq_self.mpr fun r hr => by simpa using fun h : r = .lock l => hout (h ▸ hr)
  refine ⟨fun r hr => ?_, ?_⟩
  · cases hr
  · rw [hback]
    exact hrest

/-- A critical section whose body is below its mutex. -/
theorem disciplined_section {l : L} {ops rest : List (Op Q L ι)} {held : List (Resource Q L)}
    (hl : ∀ r ∈ held, rank (.lock l) < rank r) (hbody : Below sys rank (rank (.lock l)) ops)
    (hrest : sys.Disciplined rank held rest) :
    sys.Disciplined rank held (.lock l :: (ops ++ .unlock l :: rest)) := by
  refine disciplined_lock hl (hbody.disciplined (fun r hr => ?_) (disciplined_unlock hl hrest))
  rcases List.mem_cons.mp hr with rfl | hr
  · exact Nat.le_refl _
  · exact Nat.le_of_lt (hl r hr)

end WorkQueue
