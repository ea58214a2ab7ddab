import Mathlib.Data.Nat.Notation
import Mathlib.Logic.Function.Basic
import Mathlib.Logic.Relation

/-!
# Work queues, mutexes and synchronous waits

Single-threaded work queues, the mutexes that their items and other threads take, and the waits between
them: for a mutex, for everything that is on a queue (a flush), and for the end of one item (a
cancellation). Threads are given by what they have still to do; the scripts that an item or a thread may
run are a parameter.
-/

namespace WorkQueue

/-- What a thread does to queues and mutexes. -/
inductive Op (Q L ι : Type) where
  | lock (l : L)
  | unlock (l : L)
  /-- Put an item on its queue. -/
  | queue (i : ι)
  /-- Put a barrier behind everything on a queue, and wait for it. -/
  | flush (q : Q)
  /-- Wait for the barrier. -/
  | await (q : Q)
  /-- Take an item off its queue, or wait for its end if it is running. -/
  | cancel (i : ι)
deriving DecidableEq

/-- Those who run scripts: the worker of a queue, and other threads. -/
inductive Agent (Q T : Type) where
  | worker (q : Q)
  | caller (t : T)
deriving DecidableEq

/-- What is on a queue. -/
inductive Entry (Q ι T : Type) where
  | item (i : ι)
  /-- The agent waits for everything in front of it. -/
  | barrier (a : Agent Q T)
deriving DecidableEq

/-- What an agent may wait for. -/
inductive Resource (Q L : Type) where
  | lock (l : L)
  | queue (q : Q)
deriving DecidableEq

/-- The queues of the items, the scripts that an item may run, and those that a thread may run. -/
structure System (Q L ι T : Type) where
  home : ι → Q
  work : ι → List (Op Q L ι) → Prop
  calls : T → List (Op Q L ι) → Prop

structure State (Q L ι T : Type) where
  pending : Q → List (Entry Q ι T)
  /-- The item that a worker is running. -/
  running : Q → Option ι
  /-- What an agent has still to do. -/
  script : Agent Q T → List (Op Q L ι)
  /-- The holder of a mutex. -/
  owner : L → Option (Agent Q T)

variable {Q L ι T : Type}

namespace State

/-- Nobody has anything to do. -/
def idle : State Q L ι T := ⟨fun _ => [], fun _ => none, fun _ => [], fun _ => none⟩

def setPending [DecidableEq Q] (s : State Q L ι T) (q : Q) (entries : List (Entry Q ι T)) : State Q L ι T :=
  { s with pending := Function.update s.pending q entries }

def setRunning [DecidableEq Q] (s : State Q L ι T) (q : Q) (i : Option ι) : State Q L ι T :=
  { s with running := Function.update s.running q i }

def setScript [DecidableEq Q] [DecidableEq T] (s : State Q L ι T) (a : Agent Q T)
    (ops : List (Op Q L ι)) : State Q L ι T :=
  { s with script := Function.update s.script a ops }

def setOwner [DecidableEq L] (s : State Q L ι T) (l : L) (a : Option (Agent Q T)) : State Q L ι T :=
  { s with owner := Function.update s.owner l a }

/-- Put something at the end of a queue. -/
def push [DecidableEq Q] (s : State Q L ι T) (q : Q) (e : Entry Q ι T) : State Q L ι T :=
  s.setPending q (s.pending q ++ [e])

end State

namespace System

section Steps

variable [DecidableEq Q] [DecidableEq L] [DecidableEq ι] [DecidableEq T] (sys : System Q L ι T)

/-- The next operation of an agent, which has `rest` to do after it; `none` while it has to wait. -/
def perform (a : Agent Q T) (rest : List (Op Q L ι)) (s : State Q L ι T) :
    Op Q L ι → Option (State Q L ι T)
  | .lock l => if s.owner l = none then some ((s.setOwner l (some a)).setScript a rest) else none
  | .unlock l => some ((s.setOwner l none).setScript a rest)
  | .queue i => some ((s.push (sys.home i) (.item i)).setScript a rest)
  | .flush q => some ((s.push q (.barrier a)).setScript a (.await q :: rest))
  | .await q => if .barrier a ∈ s.pending q then none else some (s.setScript a rest)
  | .cancel i =>
    if s.running (sys.home i) = some i then none
    else some ((s.setPending (sys.home i)
      ((s.pending (sys.home i)).filter (· ≠ .item i))).setScript a rest)

/-- One step of anybody. -/
inductive Step : State Q L ι T → State Q L ι T → Prop
  /-- An item comes from outside: a timer has expired, or another thread has added it. -/
  | arrive {s : State Q L ι T} (i : ι) : Step s (s.push (sys.home i) (.item i))
  /-- A thread begins a script. -/
  | call {s : State Q L ι T} {t : T} {ops : List (Op Q L ι)} (idle : s.script (.caller t) = [])
      (hcalls : sys.calls t ops) : Step s (s.setScript (.caller t) ops)
  /-- A worker takes the next item of its queue. -/
  | start {s : State Q L ι T} {i : ι} {rest : List (Entry Q ι T)} {ops : List (Op Q L ι)}
      (free : s.running (sys.home i) = none) (idle : s.script (.worker (sys.home i)) = [])
      (next : s.pending (sys.home i) = .item i :: rest) (hwork : sys.work i ops) :
      Step s (((s.setPending (sys.home i) rest).setRunning (sys.home i) (some i)).setScript
        (.worker (sys.home i)) ops)
  /-- A worker reaches a barrier. -/
  | barrier {s : State Q L ι T} {q : Q} {a : Agent Q T} {rest : List (Entry Q ι T)}
      (free : s.running q = none) (next : s.pending q = .barrier a :: rest) : Step s (s.setPending q rest)
  /-- A worker is through with its item. -/
  | finish {s : State Q L ι T} {q : Q} (idle : s.script (.worker q) = []) : Step s (s.setRunning q none)
  /-- An agent goes on. -/
  | act {s s' : State Q L ι T} {a : Agent Q T} {op : Op Q L ι} {rest : List (Op Q L ι)}
      (next : s.script a = op :: rest) (hrun : sys.perform a rest s op = some s') : Step s s'

/-- What can be reached when nobody has begun anything. -/
def Reachable (s : State Q L ι T) : Prop := Relation.ReflTransGen sys.Step State.idle s

end Steps

/-- An agent cannot go on before another one has. -/
inductive WaitsFor (sys : System Q L ι T) (s : State Q L ι T) : Agent Q T → Agent Q T → Prop
  | lock {a b : Agent Q T} {l : L} {rest : List (Op Q L ι)} (next : s.script a = .lock l :: rest)
      (held : s.owner l = some b) : WaitsFor sys s a b
  | await {a : Agent Q T} {q : Q} {i : ι} {rest : List (Op Q L ι)} (next : s.script a = .await q :: rest)
      (behind : .barrier a ∈ s.pending q) (busy : s.running q = some i) : WaitsFor sys s a (.worker q)
  | cancel {a : Agent Q T} {i : ι} {rest : List (Op Q L ι)} (next : s.script a = .cancel i :: rest)
      (busy : s.running (sys.home i) = some i) : WaitsFor sys s a (.worker (sys.home i))

/-! ## An order of the resources -/

/-- The resource that an operation may have to wait for. -/
def target (sys : System Q L ι T) : Op Q L ι → Option (Resource Q L)
  | .lock l => some (.lock l)
  | .flush q => some (.queue q)
  | .await q => some (.queue q)
  | .cancel i => some (.queue (sys.home i))
  | _ => none

/-- What is held behind an operation. -/
def heldAfter [DecidableEq Q] [DecidableEq L] (held : List (Resource Q L)) :
    Op Q L ι → List (Resource Q L)
  | .lock l => .lock l :: held
  | .unlock l => held.filter (· ≠ .lock l)
  | _ => held

/-- The script waits only for resources that are below all that it holds, and holds no mutex at its end. -/
def Disciplined [DecidableEq Q] [DecidableEq L] (sys : System Q L ι T) (rank : Resource Q L → ℕ) :
    List (Resource Q L) → List (Op Q L ι) → Prop
  | held, [] => ∀ l, .lock l ∉ held
  | held, op :: rest =>
    (∀ r, sys.target op = some r → ∀ r' ∈ held, rank r < rank r') ∧
      Disciplined sys rank (heldAfter held op) rest

/-- Every script keeps the order; the script of an item holds the queue of the item. -/
structure Ranked [DecidableEq Q] [DecidableEq L] (sys : System Q L ι T) (rank : Resource Q L → ℕ) :
    Prop where
  work : ∀ i ops, sys.work i ops → sys.Disciplined rank [.queue (sys.home i)] ops
  calls : ∀ t ops, sys.calls t ops → sys.Disciplined rank [] ops

end System

end WorkQueue
