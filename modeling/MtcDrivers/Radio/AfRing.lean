import MtcDrivers.Radio.AfList

/-!
# The ring of pairs

The calls of `rds_af_process` as steps on the block, the arguments that they give to `rds_af_add`, and
what the ring at bytes 82 to 151 has to be.
-/

namespace MtcDrivers

/-- A call of `rds_af_process`. -/
structure AfCall where
  hi : U8
  word : U16
deriving DecidableEq, Repr

namespace AfCall

def run (s : RadioStruct2) (c : AfCall) : RadioStruct2 := rdsAfProcess c.hi c.word s

/-- `v4`, the pair of the call. -/
def pair (c : AfCall) : U16 := c.word ||| c.hi.setWidth 16 <<< 8

/-- `a2` behind the range test. -/
def first (c : AfCall) : U16 := afCode (c.hi.setWidth 16)

/-- `a3` behind the range test. -/
def second (c : AfCall) : U16 := afCode c.word

/-- The call comes to `LABEL_30`, where the pair is stored. -/
def stores (c : AfCall) : Bool := c.hi ≠ 250 && c.second ||| c.first ≠ 0

/-- `a2` is the lesser frequency, or the only one. -/
def Ascending (c : AfCall) : Prop := c.first = 0 ∨ c.first < c.second ∨ c.second = 0

instance (c : AfCall) : Decidable c.Ascending := inferInstanceAs (Decidable (_ ∨ _ ∨ _))

/-- `v9` and `v8`, the frequencies of the last pair. -/
def lastPair (s : RadioStruct2) : U16 × U16 :=
  (afCode (s.afU16 152 >>> 8), afCode (s.afU16 152 &&& 0xFF))

/-- The pair makes a list of the second kind of the block. -/
def StartsPairs (s : RadioStruct2) (c : AfCall) : Prop :=
  c.first ≠ 0 ∧ (c.first = (lastPair s).1 ∨ c.first = (lastPair s).2) ∨ c.second ≠ 0

instance (s : RadioStruct2) (c : AfCall) : Decidable (c.StartsPairs s) :=
  inferInstanceAs (Decidable (_ ∧ _ ∨ _))

/-- The pair decides the kind of the list: it is the second one that is confirmed. -/
def Decides (s : RadioStruct2) (c : AfCall) : Prop :=
  c.stores ∧ afSeen c.pair s ∧ s.afU16 156 = 0 ∧ s.afU16 152 ≠ 0 ∧ c.pair ≠ s.afU16 152

instance (s : RadioStruct2) (c : AfCall) : Decidable (c.Decides s) :=
  inferInstanceAs (Decidable (_ ∧ _ ∧ _ ∧ _ ∧ _))

/-- The arguments of the calls of `rds_af_add`, in their order. -/
def adds (s : RadioStruct2) (c : AfCall) : List U16 :=
  if c.Decides s then
    if c.StartsPairs s then
      (if c.Ascending then [c.first, c.second] else []) ++
        if ¬ ((lastPair s).1 = 0 ∨ (lastPair s).1 < (lastPair s).2) ∧ (lastPair s).2 ≠ 0 then []
        else [(lastPair s).1, (lastPair s).2]
    else [c.first, 0, (lastPair s).1, (lastPair s).2]
  else if c.stores ∧ afSeen c.pair s ∧ (s.afU16 156 = 1 ∨ s.afU16 156 = 2 ∧ c.Ascending) then
    [c.first, c.second]
  else []

/-- The block with the words 152 (the last pair) and 156 (the kind of the list) that the call sets. -/
def mark (s : RadioStruct2) (c : AfCall) : RadioStruct2 :=
  if c.Decides s then s.putFront16 (afBase + 156) (if c.StartsPairs s then 2 else 1)
  else if c.stores ∧ afSeen c.pair s ∧ s.afU16 156 = 0 ∧ s.afU16 152 = 0 then
    s.putFront16 (afBase + 152) c.pair
  else s

/-- The list takes the codes. -/
def addAll (l : List U16) (s : RadioStruct2) : RadioStruct2 :=
  l.foldl (fun s af => rdsAfAdd afBase af s) s

/-- The pairs that calls have stored, newest first. -/
def stored (calls : List AfCall) : List U16 := ((calls.filter stores).map pair).reverse

/-- `*(u8 *)(v3 + 154)` -/
def ringIndex (s : RadioStruct2) : ℕ := (s.front (afBase + 154)).toNat

end AfCall

/-- The bytes of the block, from the list on: the list with its count, the ring and the words behind it. -/
def AfBlock (i : ℕ) : Prop := i ≤ 25 ∨ 82 ≤ i ∧ i ≤ 154 ∨ i = 156 ∨ i = 157

/-- What holds of a call behind the calls that went before, on the zeroed block. -/
structure AfRingKept (calls : List AfCall) (c : AfCall) (s : RadioStruct2) : Prop where
  index : AfCall.ringIndex s ≤ 34
  /-- The pair goes to the entry of the index, and the other entries stay. -/
  stored : ∀ k ≤ 34, (c.run s).afU16 (82 + 2 * k) =
    if c.stores ∧ k = AfCall.ringIndex s then c.pair else s.afU16 (82 + 2 * k)
  /-- The entries are the last 35 pairs that were stored. -/
  entries : ∀ p, p ≠ 0 → (afSeen p s ↔ p ∈ (AfCall.stored calls).take 35)
  confirmed : c.adds s ≠ [] → c.pair ∈ (AfCall.stored calls).take 35
  /-- The list is what the calls of `rds_af_add` make of it. -/
  list : ∀ i ≤ 25, (c.run s).front (afBase + i) = (AfCall.addAll (c.adds s) s).front (afBase + i)
  writes : ∀ j, (∀ i, AfBlock i → j ≠ afBase + i) → (c.run s).front j = s.front j
  reads : ∀ t : RadioStruct2, (∀ i, AfBlock i → t.front (afBase + i) = s.front (afBase + i)) →
    c.adds t = c.adds s ∧ ∀ i, AfBlock i → (c.run t).front (afBase + i) = (c.run s).front (afBase + i)

end MtcDrivers
