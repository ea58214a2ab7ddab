import MtcDrivers.Vs.Probe

/-!
# Proofs: probing the virtual serial ports

Nothing in the loop frees a port or names the port of its own pass, so a probe that gets as far as the
first allocation is never right.
-/

namespace MtcDrivers

namespace Vs

variable {k : Kernel} {uartPort : Addr} {d : Driver}

@[simp] theorem allocate_allocated (i : Fin 4) (a : Addr) (d : Driver) :
    (d.allocate i a).allocated = d.allocated ++ [a] := rfl

@[simp] theorem allocate_vssDev (i : Fin 4) (a : Addr) (d : Driver) :
    (d.allocate i a).vssDev = Function.update d.vssDev i (some a) := rfl

@[simp] theorem addOnePort_allocated (port : Addr) (result : ℤ) (d : Driver) :
    (d.addOnePort port result).allocated = d.allocated := by
  unfold Driver.addOnePort
  split <;> rfl

@[simp] theorem addOnePort_vssDev (port : Addr) (result : ℤ) (d : Driver) :
    (d.addOnePort port result).vssDev = d.vssDev := by
  unfold Driver.addOnePort
  split <;> rfl

/-! ## The loop -/

theorem probePorts_none {i : Fin 4} (is : List (Fin 4)) (h : k.kmalloc i = none) :
    probePorts k uartPort (i :: is) d =
      ⟨enomem, [], { d with vssDev := Function.update d.vssDev i none }⟩ := by
  rw [probePorts, h]

theorem probePorts_some {i : Fin 4} {a : Addr} (is : List (Fin 4)) (h : k.kmalloc i = some a) :
    probePorts k uartPort (i :: is) d =
      { probePorts k uartPort is ((d.allocate i a).addOnePort uartPort (k.addOnePort i)) with
        calls := (d.allocate i a).addCall uartPort (k.addOnePort i) ::
          (probePorts k uartPort is ((d.allocate i a).addOnePort uartPort (k.addOnePort i))).calls } := by
  rw [probePorts, h]

/-- Ports are only added to what is allocated. -/
theorem length_le_probePorts (is : List (Fin 4)) :
    d.allocated.length ≤ (probePorts k uartPort is d).driver.allocated.length := by
  induction is generalizing d with
  | nil => exact Nat.le_refl _
  | cons i is ih =>
    cases hi : k.kmalloc i with
    | none => rw [probePorts_none is hi]
    | some a =>
      rw [probePorts_some is hi]
      refine Nat.le_trans ?_ ih
      simp

theorem length_lt_probePorts {i : Fin 4} {a : Addr} (is : List (Fin 4)) (h : k.kmalloc i = some a) :
    d.allocated.length < (probePorts k uartPort (i :: is) d).driver.allocated.length := by
  rw [probePorts_some is h]
  refine Nat.lt_of_lt_of_le ?_ (length_le_probePorts is)
  simp

/-- Every call passes what the local happens to hold. -/
theorem port_of_mem_calls {is : List (Fin 4)} {c : AddCall} (hc : c ∈ (probePorts k uartPort is d).calls) :
    c.port = uartPort := by
  induction is generalizing d with
  | nil => cases hc
  | cons i is ih =>
    cases hi : k.kmalloc i with
    | none =>
      rw [probePorts_none is hi] at hc
      cases hc
    | some a =>
      rw [probePorts_some is hi] at hc
      rcases List.mem_cons.mp hc with rfl | hc
      · rfl
      · exact ih hc

/-- The loop leaves the ports alone that it does not come to. -/
theorem vssDev_of_not_mem {is : List (Fin 4)} {j : Fin 4} (hj : j ∉ is) :
    (probePorts k uartPort is d).driver.vssDev j = d.vssDev j := by
  induction is generalizing d with
  | nil => rfl
  | cons i is ih =>
    obtain ⟨hji, hj⟩ := List.ne_and_not_mem_of_not_mem_cons hj
    cases hi : k.kmalloc i with
    | none =>
      rw [probePorts_none is hi]
      exact Function.update_of_ne hji _ _
    | some a =>
      rw [probePorts_some is hi]
      refine (ih hj).trans ?_
      rw [addOnePort_vssDev, allocate_vssDev]
      exact Function.update_of_ne hji _ _

/-- A loop that goes through has stored what `kmalloc` returned for each port. -/
theorem vssDev_of_result {is : List (Fin 4)} (hnd : is.Nodup)
    (h : (probePorts k uartPort is d).result = 0) {j : Fin 4} (hj : j ∈ is) :
    (probePorts k uartPort is d).driver.vssDev j = k.kmalloc j := by
  induction is generalizing d with
  | nil => cases hj
  | cons i is ih =>
    obtain ⟨hi_mem, hnd⟩ := List.nodup_cons.mp hnd
    cases hi : k.kmalloc i with
    | none =>
      rw [probePorts_none is hi] at h
      cases h
    | some a =>
      rw [probePorts_some is hi] at h ⊢
      rcases List.mem_cons.mp hj with rfl | hj
      · refine (vssDev_of_not_mem hi_mem).trans ?_
        rw [addOnePort_vssDev, allocate_vssDev, hi]
        exact Function.update_self _ _ _
      · exact ih hnd h hj

/-! ## The probe -/

@[simp] theorem register_allocated (d : Driver) : d.register.allocated = d.allocated := by
  unfold Driver.register
  split <;> rfl

@[simp] theorem register_uartInit (d : Driver) : d.register.uartInit = d.uartInit := by
  unfold Driver.register
  split <;> rfl

@[simp] theorem register_added (d : Driver) : d.register.added = d.added := by
  unfold Driver.register
  split <;> rfl

theorem register_registered (d : Driver) :
    d.register.registered = d.registered ↔ d.portsAdded = true ∨ d.registered = true := by
  unfold Driver.register
  split
  · next h => exact ⟨fun _ => .inl h, fun _ => rfl⟩
  · next h => exact ⟨fun heq => .inr heq.symm, fun hor => (hor.resolve_left h).symm⟩

theorem enomem_ne_zero : enomem ≠ 0 := by decide

theorem finish_of_ne {o : Outcome} (h : o.result ≠ 0) : o.finish = o := if_pos h

@[simp] theorem finish_result (o : Outcome) : o.finish.result = o.result := by
  unfold Outcome.finish
  split <;> rfl

@[simp] theorem finish_calls (o : Outcome) : o.finish.calls = o.calls := by
  unfold Outcome.finish
  split <;> rfl

@[simp] theorem finish_vssDev (o : Outcome) : o.finish.driver.vssDev = o.driver.vssDev := by
  unfold Outcome.finish
  split <;> rfl

/-- The ports are not complete: two of them would be at the address that the local holds. -/
theorem not_complete (h : (probePorts k uartPort (List.finRange 4) d).result = 0) :
    ¬ (probePorts k uartPort (List.finRange 4) d).finish.Complete := by
  rintro ⟨port, results, hport, -, hcalls⟩
  have hown : ∀ i, k.kmalloc i = some uartPort := by
    intro i
    have hcall : ⟨port i, BitVec.ofNat 32 i, results i⟩ ∈
        (probePorts k uartPort (List.finRange 4) d).calls := by
      rw [← finish_calls, hcalls]
      exact List.mem_ofFn.mpr ⟨i, rfl⟩
    have hvss := (hport i).1
    have heq : port i = uartPort := port_of_mem_calls hcall
    rw [finish_vssDev, vssDev_of_result (List.nodup_finRange 4) h (List.mem_finRange i), heq] at hvss
    exact hvss
  exact absurd (k.fresh (hown 0) (hown 1)) (by decide)

/-- Once the first port is allocated, the probe is wrong either way. -/
theorem not_right_of_allocated {a : Addr} (h : k.kmalloc 0 = some a) (before : Driver)
    (hbefore : d.allocated = before.allocated) :
    ¬ ProbeRight before (probePorts k uartPort (List.finRange 4) d).finish := by
  intro hright
  by_cases hres : (probePorts k uartPort (List.finRange 4) d).result = 0
  · exact not_complete hres (hright.complete ((finish_result _).trans hres))
  · have hkept := (hright.undone (.inl (by rwa [finish_result]))).allocated
    rw [finish_of_ne hres, ← hbefore] at hkept
    have hgrown : d.allocated.length < (probePorts k uartPort (List.finRange 4) d).driver.allocated.length :=
      length_lt_probePorts _ h
    rw [hkept] at hgrown
    exact Nat.lt_irrefl _ hgrown

/-- Where the first allocation fails, only the registration can be left. -/
theorem right_of_none_iff (h : k.kmalloc 0 = none) :
    ProbeRight d (probePorts k uartPort (List.finRange 4) d.register).finish ↔
      d.portsAdded = true ∨ d.registered = true := by
  have hout : (probePorts k uartPort (List.finRange 4) d.register).finish =
      ⟨enomem, [], { d.register with vssDev := Function.update d.register.vssDev 0 none }⟩ := by
    have hloop : probePorts k uartPort (List.finRange 4) d.register =
        ⟨enomem, [], { d.register with vssDev := Function.update d.register.vssDev 0 none }⟩ :=
      probePorts_none [1, 2, 3] h
    rw [hloop]
    exact finish_of_ne enomem_ne_zero
  rw [hout, ← register_registered]
  constructor
  · intro hright
    exact (hright.undone (.inl enomem_ne_zero)).registered
  · intro hreg
    refine ⟨fun hzero => absurd hzero enomem_ne_zero, fun _ => ?_⟩
    exact ⟨register_uartInit d, register_allocated d, register_added d, hreg⟩

theorem probeRight_iff (k : Kernel) (uartPort : Addr) (d : Driver) :
    ProbeRight d (vsProbe k uartPort d) ↔
      d.portsAdded = false ∧ k.registerDriver ≠ 0 ∨
        (d.portsAdded = true ∨ d.registered = true) ∧ k.kmalloc 0 = none := by
  unfold vsProbe
  by_cases href : ¬ d.portsAdded ∧ k.registerDriver ≠ 0
  · rw [if_pos href]
    refine ⟨fun _ => .inl ⟨Bool.eq_false_iff.mpr href.1, href.2⟩, fun _ => ?_⟩
    exact ⟨fun hzero => absurd hzero href.2, fun _ => ⟨rfl, rfl, rfl, rfl⟩⟩
  · rw [if_neg href]
    have hfirst : ¬ (d.portsAdded = false ∧ k.registerDriver ≠ 0) := by
      rwa [← Bool.not_eq_true]
    rw [or_iff_right hfirst]
    cases hk : k.kmalloc 0 with
    | none => simp [right_of_none_iff hk]
    | some a => simp [not_right_of_allocated hk d (register_allocated d)]

/-- A probe in which the kernel refuses nothing. -/
def willing : Kernel where
  registerDriver := 0
  kmalloc i := some (BitVec.ofNat 32 (4096 * (i + 1)))
  addOnePort _ := 0
  fresh {i j a} hi hj := by
    have hpages : ∀ i j : Fin 4,
        BitVec.ofNat 32 (4096 * (i + 1)) = BitVec.ofNat 32 (4096 * (j + 1)) → i = j := by decide
    exact hpages i j (Option.some.inj (hi.trans hj.symm))

def unprobed : Driver where
  portsAdded := false
  vssDev _ := none
  uartInit := false
  memory _ := ⟨0, 0, 0, 0, 0, 0, 0, 0, 0, 0, false⟩
  allocated := []
  added := []
  registered := false

theorem not_probeRight_willing : ¬ ProbeRight unprobed (vsProbe willing 0 unprobed) := by
  intro hright
  obtain ⟨port, results, hport, -, hcalls⟩ := hright.complete (by decide)
  have hcall : (vsProbe willing 0 unprobed).calls.head? = some ⟨0, 0, 0⟩ := by decide
  have hdev : (vsProbe willing 0 unprobed).driver.vssDev 0 = some 4096 := by decide
  have hport0 : port 0 = 0 := by
    rw [hcalls] at hcall
    exact congrArg AddCall.port (Option.some.inj hcall)
  rw [(hport 0).1, hport0] at hdev
  exact absurd hdev (by decide)

end Vs

end MtcDrivers
