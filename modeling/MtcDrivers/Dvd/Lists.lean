import MtcDrivers.Car.State
import MtcDrivers.Linked.Ring
import MtcDrivers.Proc.Basic
import MtcDrivers.Proc.History

/-!
# Folder and media lists

`free_folder` and `free_media`, over the memory that the lists are in. A record starts with its two links, and
every access to it is recorded in a log, newest first. `list_del` is the kernel's: it links the neighbours of a
record and poisons its links.
-/

namespace MtcDrivers

namespace DvdLists

open Linked

/-- An access to a record or a head. -/
inductive Access where
  | readNext (a : U32)
  | readPrev (a : U32)
  | writeNext (a : U32)
  | writePrev (a : U32)
  /-- A read of the byte at an offset. -/
  | readByte (a : U32) (off : ℕ)
  | kfree (a : U32)
deriving DecidableEq, Repr

/-- The cell that is accessed. -/
def Access.cell : Access → U32
  | .readNext a => a
  | .readPrev a => a
  | .writeNext a => a
  | .writePrev a => a
  | .readByte a _ => a
  | .kfree a => a

/-- The memory of the lists and the answer buffer. -/
structure Memory where
  links : Links U32
  bytes : U32 → U8
  /-- The C string in the answer buffer. -/
  buf : List U8
  /-- The accesses, newest first. -/
  log : List Access

namespace Memory

def emit (w : Memory) (e : Access) : Memory := { w with log := e :: w.log }

def setNext (w : Memory) (a v : U32) : Memory :=
  { w with links := { w.links with next := Function.update w.links.next a v } }

def setPrev (w : Memory) (a v : U32) : Memory :=
  { w with links := { w.links with prev := Function.update w.links.prev a v } }

@[simp] theorem emit_links (w : Memory) (e : Access) : (w.emit e).links = w.links := rfl

@[simp] theorem emit_buf (w : Memory) (e : Access) : (w.emit e).buf = w.buf := rfl

@[simp] theorem emit_bytes (w : Memory) (e : Access) : (w.emit e).bytes = w.bytes := rfl

@[simp] theorem emit_log (w : Memory) (e : Access) : (w.emit e).log = e :: w.log := rfl

end Memory

/-! ## The kernel's list operations -/

/-- `a->next` -/
def readNext (a : U32) : Proc Memory U32 := do
  Proc.modify (·.emit (.readNext a))
  return (← Proc.get).links.next a

/-- `a->prev` -/
def readPrev (a : U32) : Proc Memory U32 := do
  Proc.modify (·.emit (.readPrev a))
  return (← Proc.get).links.prev a

/-- The byte at an offset from `a`. -/
def readByte (a : U32) (off : ℕ) : Proc Memory U8 := do
  Proc.modify (·.emit (.readByte a off))
  return (← Proc.get).bytes (a + BitVec.ofNat 32 off)

def writeNext (a v : U32) : Proc Memory Unit := Proc.modify fun w => (w.setNext a v).emit (.writeNext a)

def writePrev (a v : U32) : Proc Memory Unit := Proc.modify fun w => (w.setPrev a v).emit (.writePrev a)

def kfree (a : U32) : Proc Memory Unit := Proc.modify (·.emit (.kfree a))

/-- `list_del`, with the two poisons -/
def listDel (poison : U32 × U32) (entry : U32) : Proc Memory Unit := do
  let prev ← readPrev entry
  let next ← readNext entry
  writePrev next prev
  writeNext prev next
  writeNext entry poison.1
  writePrev entry poison.2

/-! ## `free_folder` and `free_media` -/

/-- The pass of the loop, with `v2`, `v3` and `i`. -/
def freePass (poison : U32 × U32) (v1 : U32) (b : U32 × U32 × U32) : Proc Memory ((U32 × U32 × U32) ⊕ U32) := do
  listDel poison b.1
  kfree b.1
  let v3 ← readNext b.2.1
  if v1 = b.2.2 then return .inr v1 else return .inl (b.2.2, v3, v3)

/-- The body that both functions have. -/
def freeList (poison : U32 × U32) (v1 : U32) : Proc Memory U32 := do
  let v2 ← readNext v1
  let first ← readNext v1
  if v1 ≠ first then
    let v3 ← readNext v2
    let i ← readNext v2
    Proc.iter (freePass poison v1) (v2, v3, i)
  else return v1

/-- `free_folder` -/
def freeFolder (poison : U32 × U32) (folder_list : U32) : Proc Memory U32 := freeList poison folder_list

/-- `free_media` -/
def freeMedia (poison : U32 × U32) (media_list : U32) : Proc Memory U32 := freeList poison media_list

/-! ## What they are for -/

/-- The records that are freed, in order. -/
def freed (accesses : List Access) : List U32 :=
  accesses.filterMap fun
    | .kfree a => some a
    | _ => none

/-- After a record has been freed it is not accessed. -/
def NoUseAfterFree (accesses : List Access) : Prop :=
  accesses.Pairwise fun e e' => ∀ a, e = .kfree a → e'.cell ≠ a

/-- The records of a list have been disposed of. -/
structure Disposed (head : U32) (records : List U32) (w w' : Memory) : Prop where
  once : freed (History.since Memory.log w w') = records
  unused : NoUseAfterFree (History.since Memory.log w w')
  empty : w'.links.next head = head ∧ w'.links.prev head = head

/-- The head at 64 and the records at 256 and 512, which hold nothing else. -/
def twoRecords : Memory where
  links :=
    { next := fun a => if a = 64 then 256 else if a = 256 then 512 else 64
      prev := fun a => if a = 256 then 64 else if a = 512 then 256 else 512 }
  bytes _ := 0
  buf := []
  log := []

theorem twoRecords_isRing : IsRing twoRecords.links 64 [256, 512] where
  joined := by
    simp [Links.Joined, twoRecords]
  nodup := by decide

end DvdLists

end MtcDrivers
