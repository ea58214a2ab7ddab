import Mathlib.Data.Int.Notation
import Mathlib.Data.List.FinRange
import Mathlib.Logic.Function.Basic
import MtcDrivers.Car.State

/-!
# Probing the virtual serial ports

`vs_probe`, under any results of the kernel functions that it calls. The local `uart_port` is never
assigned, so what it happens to hold is a parameter. Of a port in memory the fields are kept that the loop
fills in, pointers apart.
-/

namespace MtcDrivers

namespace Vs

/-- An address of the kernel's memory. -/
abbrev Addr := U32

/-- The fields of a `struct mtc_vs_port` that `vs_probe` fills in. -/
structure PortMemory where
  flags : U32
  line : U32
  uartclk : U32
  fifosize : U32
  type : U32
  portN : U32
  pLine : U32
  dwordCC : U32
  dwordD0 : U32
  dwordF0 : U32
  /-- `mutex_init(&lock)` has been called. -/
  lockReady : Bool
deriving DecidableEq

/-- What the kernel functions will return. -/
structure Kernel where
  /-- `uart_register_driver` -/
  registerDriver : ℤ
  /-- `kmalloc` for each port; `none` is the null pointer. -/
  kmalloc : Fin 4 → Option Addr
  /-- `uart_add_one_port` for each port -/
  addOnePort : Fin 4 → ℤ
  /-- No memory is handed out twice. -/
  fresh : ∀ {i j : Fin 4} {a : Addr}, kmalloc i = some a → kmalloc j = some a → i = j

/-- The module's globals, its memory, and what the uart core knows of it. -/
structure Driver where
  /-- `vs_portlist.ports_added` -/
  portsAdded : Bool
  /-- `vs_portlist.vss_dev` -/
  vssDev : Fin 4 → Option Addr
  /-- `vs_uart_init` -/
  uartInit : Bool
  memory : Addr → PortMemory
  /-- The port structures that are allocated, oldest first. -/
  allocated : List Addr
  /-- The ports that are added to the uart driver, oldest first. -/
  added : List Addr
  /-- `vs_uart_driver` is registered. -/
  registered : Bool

/-- A call of `uart_add_one_port`: the pointer, the `line` found behind it, and the result. -/
structure AddCall where
  port : Addr
  line : U32
  result : ℤ
deriving DecidableEq

/-- What a probe returns, the ports it tried to add, and what it leaves behind. -/
structure Outcome where
  result : ℤ
  calls : List AddCall
  driver : Driver

/-! ## `vs_probe` -/

/-- The fields of port `i`. -/
def initPort (i : Fin 4) : PortMemory where
  dwordD0 := 1
  dwordF0 := 1
  flags := 0x10000040
  portN := BitVec.ofNat 32 i
  line := BitVec.ofNat 32 i
  pLine := BitVec.ofNat 32 i
  dwordCC := 0
  uartclk := 1843200
  fifosize := 16
  type := 86
  lockReady := true

namespace Driver

/-- Port `i` is allocated at `a` and filled in. -/
def allocate (i : Fin 4) (a : Addr) (d : Driver) : Driver :=
  { d with
    vssDev := Function.update d.vssDev i (some a)
    allocated := d.allocated ++ [a]
    memory := Function.update d.memory a (initPort i) }

/-- The call of `uart_add_one_port` with this result. -/
def addCall (port : Addr) (result : ℤ) (d : Driver) : AddCall := ⟨port, (d.memory port).line, result⟩

/-- What a call of `uart_add_one_port` changes. -/
def addOnePort (port : Addr) (result : ℤ) (d : Driver) : Driver :=
  if result < 0 then d else { d with added := d.added ++ [port] }

end Driver

/-- `-ENOMEM` -/
def enomem : ℤ := -12

/-- The loop over the ports. It returns early where an allocation fails, and a port that is not added is
only reported. -/
def probePorts (k : Kernel) (uartPort : Addr) : List (Fin 4) → Driver → Outcome
  | [], d => ⟨0, [], d⟩
  | i :: is, d =>
    match k.kmalloc i with
    | none => ⟨enomem, [], { d with vssDev := Function.update d.vssDev i none }⟩
    | some a =>
      let d := d.allocate i a
      let rest := probePorts k uartPort is (d.addOnePort uartPort (k.addOnePort i))
      { rest with calls := d.addCall uartPort (k.addOnePort i) :: rest.calls }

/-- `uart_register_driver` has succeeded, if it was called. -/
def Driver.register (d : Driver) : Driver := if d.portsAdded then d else { d with registered := true }

/-- Behind the loop `vs_uart_init` is set. -/
def Outcome.finish (o : Outcome) : Outcome :=
  if o.result ≠ 0 then o else { o with driver := { o.driver with uartInit := true } }

/-- `vs_probe` -/
def vsProbe (k : Kernel) (uartPort : Addr) (d : Driver) : Outcome :=
  if ¬ d.portsAdded ∧ k.registerDriver ≠ 0 then ⟨k.registerDriver, [], d⟩
  else (probePorts k uartPort (List.finRange 4) d.register).finish

/-! ## What a probe is to leave behind -/

/-- Every port is allocated, and has been added as itself. -/
def Outcome.Complete (o : Outcome) : Prop :=
  ∃ (port : Fin 4 → Addr) (results : Fin 4 → ℤ),
    (∀ i, o.driver.vssDev i = some (port i) ∧ port i ∈ o.driver.allocated) ∧
    (∀ i, 0 ≤ results i) ∧
    o.calls = List.ofFn fun i => ⟨port i, BitVec.ofNat 32 i, results i⟩

/-- Nothing of the probe remains. -/
structure Undone (before after : Driver) : Prop where
  uartInit : after.uartInit = before.uartInit
  allocated : after.allocated = before.allocated
  added : after.added = before.added
  registered : after.registered = before.registered

/-- A probe succeeds with all ports or takes everything back. -/
structure ProbeRight (before : Driver) (o : Outcome) : Prop where
  complete : o.result = 0 → o.Complete
  undone : (o.result ≠ 0 ∨ ∃ c ∈ o.calls, c.result < 0) → Undone before o.driver

end Vs

end MtcDrivers
