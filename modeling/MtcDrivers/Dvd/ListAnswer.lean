import MtcDrivers.Dvd.Lists
import MtcDrivers.Ioctl.Answer
import MtcDrivers.Radio.State

/-!
# Answers about folders and titles

`dvd_get_folder` and `dvd_get_media`, which look for a number in a list and append the record to the answer. The
fields of a record lie behind its links, as those of `dvd_dev` do behind the heads. What follows `result` in the
argument lists is what the functions print or count with beside it: `a4`, and the value that the uninitialised
`v7` starts from.
-/

namespace MtcDrivers

namespace DvdLists

open Linked

/-- The little-endian half-word at an offset. -/
def readWord (a : U32) (off : ℕ) : Proc Memory U16 := do
  let low ← readByte a off
  let high ← readByte a (off + 1)
  return high ++ low

/-- The little-endian `int` at an offset. -/
def readInt (a : U32) (off : ℕ) : Proc Memory U32 := do
  let low ← readWord a off
  let high ← readWord a (off + 2)
  return high ++ low

/-- `sprintf` behind the text. The result is the number of characters. -/
def sprintf (text : Text) : Proc Memory U32 := do
  Proc.modify fun w => { w with buf := w.buf ++ text }
  return BitVec.ofNat 32 text.length

/-- `str_fmt_d_comma` and `str_fmt_d_comma_0`, `"%d,"` -/
def fmtDComma (v : U32) : Text := decimalInt v ++ [comma]

/-- `str_fmt_d` and `str_fmt_d_0`, `"%d,%d"` -/
def fmtD (v v' : U32) : Text := decimalInt v ++ [comma] ++ decimalInt v'

/-- `LOBYTE(v) = 0` -/
def clearLow (v : U32) : U32 := v &&& 0xFFFFFF00

/-! ## The search -/

/-- `LOWORD(a[1].next) == result` -/
def isEntry (a result : U32) : Proc Memory Bool := do
  return (← readWord a 8).setWidth 32 == result

/-- The pass of the search: the cell behind `a`, up to the cell `stop`. -/
def findPass (result stop a : U32) : Proc Memory (U32 ⊕ Option U32) := do
  let a ← readNext a
  if stop = a then return .inr none
  else if ← isEntry a result then return .inr (some a)
  else return .inl a

/-- The first cell from `a` on that has the number. -/
def find (result stop a : U32) : Proc Memory (Option U32) := do
  if ← isEntry a result then return some a
  else Proc.iter (findPass result stop) a

/-! ## `dvd_get_folder` -/

/-- The pass over the bytes of a folder, with `v7` and `v10`. -/
def folderPass (folder_list : U32) (b : U32 × U32) : Proc Memory ((U32 × U32) ⊕ U32) := do
  let v7 := b.1 + 1
  let _ ← sprintf (fmtDComma b.2)
  -- `v9` stays at the pointer behind the number
  let v12 ← readInt folder_list 16
  if v7 ≠ 31 then return .inl (v7, v12) else return .inr v12

/-- `LABEL_7` of `dvd_get_folder` -/
def printFolder (result a4 v7 folder_list : U32) : Proc Memory U32 := do
  if folder_list ≠ 0 then
    let v7 := clearLow v7
    let low ← readWord folder_list 8
    let _ ← sprintf (fmtDComma (low.setWidth 32))
    let high ← readWord folder_list 10
    let _ ← sprintf (fmtDComma (high.setWidth 32))
    let v10 ← readByte folder_list 12
    let v10 ← Proc.iter (folderPass folder_list) (v7, v10.setWidth 32)
    sprintf (fmtD v10 a4)
  else return result

/-- `dvd_get_folder`, with the head of the list -/
def dvdGetFolder (head result a4 v7 : U32) : Proc Memory U32 := do
  let folder_list ← readNext head
  if head ≠ folder_list then
    match ← find result head folder_list with
    | some a => printFolder result a4 v7 a
    | none => return result
  else return result

/-! ## `dvd_get_media` -/

/-- The pass over the bytes of a title, with `next` and `v11`. The pointer counts in steps of a `list_head`. -/
def mediaPass (base : U32) (b : U32 × U32) : Proc Memory ((U32 × U32) ⊕ U32) := do
  let next := b.1 + 8
  let _ ← sprintf (fmtDComma b.2)
  let v14 ← readInt base 20
  if next ≠ 31 then return .inl (next, v14) else return .inr v14

/-- `LABEL_7` of `dvd_get_media` -/
def printMedia (result a4 next : U32) : Proc Memory U32 := do
  if next ≠ 0 then
    let v9 ← readWord next 8
    -- the counter is the pointer itself
    let next := clearLow next
    let _ ← sprintf (fmtDComma (v9.setWidth 32))
    let v12 ← readByte next 10
    let v11 ← Proc.iter (mediaPass next) (next, v12.setWidth 32)
    sprintf (fmtD v11 a4)
  else return result

/-- `dvd_get_media`, with the head of the list -/
def dvdGetMedia (head result a4 : U32) : Proc Memory U32 := do
  let media_list ← readNext head
  let next ← readNext media_list
  if head ≠ media_list then
    match ← find result media_list next with
    | some a => printMedia result a4 a
    | none => return result
  else return result

/-! ## What they are for -/

/-- The two lists. -/
inductive Kind where
  | folder
  | media
deriving DecidableEq, Repr

/-- The request for an entry. -/
def getEntry : Kind → (head result a4 v7 : U32) → Proc Memory U32
  | .folder, head, result, a4, v7 => dvdGetFolder head result a4 v7
  | .media, head, result, a4, _ => dvdGetMedia head result a4

namespace Memory

/-- The half-word of a record at an offset. -/
def wordOf (w : Memory) (r : U32) (off : ℕ) : U16 :=
  w.bytes (r + BitVec.ofNat 32 (off + 1)) ++ w.bytes (r + BitVec.ofNat 32 off)

/-- The number of a record. -/
def idOf (w : Memory) (r : U32) : U32 := (w.wordOf r 8).setWidth 32

/-- The 32 bytes of a record from an offset on. -/
def dataOf (w : Memory) (r : U32) (off : ℕ) : List U32 :=
  (List.range 32).map fun k => (w.bytes (r + BitVec.ofNat 32 (off + k))).setWidth 32

/-- The texts that show a record: its number and its bytes, for a folder with or without the half-word between
them. -/
def recordTexts (w : Memory) (r : U32) : Kind → List Text
  | .folder => [commaList (w.idOf r :: w.dataOf r 12),
      commaList (w.idOf r :: (w.wordOf r 10).setWidth 32 :: w.dataOf r 12)]
  | .media => [commaList (w.idOf r :: w.dataOf r 10)]

end Memory

/-- A list in memory. -/
structure WellFormed (w : Memory) (head : U32) (records : List U32) : Prop where
  ring : IsRing w.links head records
  notNull : 0 ∉ head :: records
  distinct : (records.map w.idOf).Nodup

/-- The answer to a request for the entry `result`. -/
structure Answered (kind : Kind) (head : U32) (records : List U32) (result : U32) (w w' : Memory) : Prop where
  kept : w'.links = w.links ∧ w'.bytes = w.bytes
  printed : ∃ text, w'.buf = w.buf ++ text ∧
    (∀ r ∈ records, w.idOf r = result → text ∈ w.recordTexts r kind) ∧
    ((∀ r ∈ records, w.idOf r ≠ result) → text = [])
  reads : ∀ e ∈ History.since Memory.log w w', e = .readNext head ∨ e.cell ∈ records

/-- The request ends with its answer. -/
def AnswersRight (kind : Kind) (head : U32) (records : List U32) (result a4 v7 : U32) (w : Memory) : Prop :=
  (getEntry kind head result a4 v7).wp (fun _ w' => Answered kind head records result w w') w

/-- No folder has the number; there is no title at all. -/
def NothingToShow (w : Memory) (records : List U32) (result : U32) : Kind → Prop
  | .folder => ∀ r ∈ records, w.idOf r ≠ result
  | .media => records = []

end DvdLists

end MtcDrivers
