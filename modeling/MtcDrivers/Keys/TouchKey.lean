import MtcDrivers.Car.Memory
import MtcDrivers.Link.Message

/-!
# Touch keys

`mtc_getTouchKey` and `mtc_getTouchKey_tab`, which look for the record of a coordinate in a table, and the
message `0xF021`, which stores the 32 bytes of the table in the status. A record is two key bytes, and the first
coordinate that it holds with the first one behind it.
-/

namespace MtcDrivers

namespace TouchKey

/-- Record `i` has no key. -/
def Empty (tab : ℕ → U8) (i : ℕ) : Prop := tab (4 * i) = 0 ∧ tab (4 * i + 1) = 0

/-- The coordinate is one of those of record `i`. -/
def Holds (tab : ℕ → U8) (i : ℕ) (a1 : U32) : Prop :=
  (tab (4 * i + 2)).setWidth 32 ≤ a1 ∧ a1 < (tab (4 * i + 3)).setWidth 32

instance (tab : ℕ → U8) (i : ℕ) : Decidable (Empty tab i) := inferInstanceAs (Decidable (_ ∧ _))

instance (tab : ℕ → U8) (i : ℕ) (a1 : U32) : Decidable (Holds tab i a1) := inferInstanceAs (Decidable (_ ∧ _))

/-- The loop, with `n` records left at record `i`. The result comes with the bytes `0x8C` and `0x8D` of
`keys_data`. -/
def scanFrom (a1 : U32) (tab : ℕ → U8) (keys : U8 × U8) : ℕ → ℕ → U32 × (U8 × U8)
  | 0, _ => (255, keys)
  | n + 1, i =>
    if Empty tab i then (255, keys)
    else if Holds tab i a1 then
      ((BitVec.ofNat 8 (i + 1)).setWidth 32, (tab (4 * i), tab (4 * i + 1)))
    else scanFrom a1 tab keys n (i + 1)

/-- `mtc_getTouchKey_tab`, with the bytes from `a2` on -/
def mtcGetTouchKeyTab (a1 : U32) (a2 : ℕ → U8) (keys : U8 × U8) : U32 × (U8 × U8) :=
  scanFrom a1 a2 keys 10 0

/-- The status from `reserved_22` on. -/
def tabIn (m : StatusBytes) (k : ℕ) : U8 := m.byte (StatusBytes.reserved22 + k)

/-- `mtc_getTouchKey` -/
def mtcGetTouchKey (a1 : U32) (m : StatusBytes) (keys : U8 × U8) : U32 × (U8 × U8) :=
  scanFrom a1 (tabIn m) keys 10 0

/-! ## What a table is for -/

/-- The bytes of a table with an empty record behind them. -/
def closedTab (table : List U8) (k : ℕ) : U8 := table.getD k 0

/-- Every coordinate has the key that it has in the table alone. -/
def KeysRight (table : List U8) (m : StatusBytes) : Prop :=
  ∀ a1 keys, mtcGetTouchKey a1 m keys = mtcGetTouchKeyTab a1 (closedTab table) keys

/-- The coordinate has a key in the bytes behind the 32 of the table: record 8 is in `rpt_boot_appinit`,
`cfg_maxvolume`, `reserved_54` and `touch_width`, and record 9 in `touch_width` and `touch_height`. -/
def HeldBehind (m : StatusBytes) (a1 : U32) : Prop :=
  ¬Empty (tabIn m) 8 ∧ (Holds (tabIn m) 8 a1 ∨ ¬Empty (tabIn m) 9 ∧ Holds (tabIn m) 9 a1)

/-- One of the eight records is empty, or a coordinate that has a key behind them has one in them. -/
def TableFits (table : List U8) (m : StatusBytes) : Prop :=
  (∃ i < 8, Empty (closedTab table) i) ∨ ∀ a1, HeldBehind m a1 → ∃ i < 8, Holds (closedTab table) i a1

/-! ## The message -/

/-- The receptions that succeeded, newest first. -/
def receptionsOk (w : World) : List (List U8) :=
  (callsSoFar w).filterMap fun
    | .payload true data => some data
    | _ => none

/-- The link as the message finds it, with this status. -/
def linkWorld (link : World) (m : StatusBytes) : World :=
  link.modifyCar fun c => { c with status := m.loadStatus }

/-- The status after a message `0xF021` whose table has been received. -/
structure TableAccepted (link : World) (m : StatusBytes) (table : List U8) (m' : StatusBytes) : Prop where
  ends : ∃ (v : ℤ) (w : World), (processMcuCommand 0xF021).Ends (linkWorld link m) v w ∧
    receptionsOk w = table :: receptionsOk link ∧ m' = m.storeStatus w.car.status

/-- Stores elsewhere than in the table. -/
def Elsewhere (changes : List (ℕ × U8)) : Prop :=
  ∀ c ∈ changes, c.1 < StatusBytes.reserved22 ∨ StatusBytes.reserved22 + 32 ≤ c.1

end TouchKey

end MtcDrivers
