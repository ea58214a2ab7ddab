import MtcDrivers.Radio.Block

/-!
# Groups and the ways they arrive

`rds_input`, `rds_input2` and `rds_input3` queue the work items of `radio_cmd_work`, which the work
queue of the radio runs one after the other. This module says how the front ends deliver a group on each
of the three ways, and what the module should make of it.
-/

namespace MtcDrivers

open ShiftRegister CyclicCode

/-- The information words of the four blocks of a group. -/
structure RdsGroup where
  a : U16
  b : U16
  c : U16
  d : U16
deriving DecidableEq, Repr

namespace Radio

/-- `rds_input`; `v1` is what the local of that name happens to hold. -/
def rdsInput (v1 a1 : U32) (r : Radio) : List RadioWork :=
  if r.cfgRds ≠ 0 then [⟨1, a1, 0, v1⟩] else []

/-- `rds_input2` -/
def rdsInput2 (v1 a1 : U32) (r : Radio) : List RadioWork :=
  if r.cfgRds ≠ 0 then [⟨2, a1, 0, v1⟩] else []

/-- `barray2int` -/
def barray2int (hi lo : U8) : U32 := lo.setWidth 32 ||| hi.setWidth 32 <<< 8

/-- `rds_input3`, for the eight bytes of the four words. -/
def rdsInput3 (v1 : U32) (rds : ℕ → U8) (r : Radio) : List RadioWork :=
  if r.cfgRds ≠ 0 then
    [⟨3, barray2int (rds 0) (rds 1), 0, v1⟩, ⟨3, barray2int (rds 2) (rds 3), 1, v1⟩,
      ⟨3, barray2int (rds 4) (rds 5), 2, v1⟩, ⟨3, barray2int (rds 6) (rds 7), 3, v1⟩]
  else []

/-- The states after each of the work items. -/
def afterEach : List RadioWork → Radio → List Radio
  | [], _ => []
  | w :: ws, r => r.radioCmdWork w :: afterEach ws (r.radioCmdWork w)

/-- The state after all work items. -/
def afterAll (ws : List RadioWork) (r : Radio) : Radio := ws.foldl (fun r w => r.radioCmdWork w) r

end Radio

namespace RdsGroup

/-- A word with its tag, below a byte that nothing reads. -/
def tagged (hi : U8) (tag : U32) (word : U16) : U32 :=
  hi.setWidth 32 <<< 24 ||| tag <<< 16 ||| word.setWidth 32

/-- The words of the group in their order. -/
def words (g : RdsGroup) : List U16 := [g.a, g.b, g.c, g.d]

/-- The bytes that `rds_input3` gets, the high byte of each word first. -/
def bytes (g : RdsGroup) (i : ℕ) : U8 :=
  (g.words.flatMap fun w : U16 => [(w >>> 8).setWidth 8, w.setWidth 8]).getD i 0

/-- Delivery as tagged words through `rds_input`. -/
def viaInput (v1 : U32) (hi : U8) (g : RdsGroup) (r : Radio) : List RadioWork :=
  r.rdsInput v1 (tagged hi 0 g.a) ++ r.rdsInput v1 (tagged hi 1 g.b) ++
    r.rdsInput v1 (tagged hi 2 g.c) ++ r.rdsInput v1 (tagged hi 3 g.d)

/-- Delivery as tagged words of 24 bits through `rds_input2`. -/
def viaInput2 (v1 : U32) (g : RdsGroup) (r : Radio) : List RadioWork :=
  r.rdsInput2 v1 (tagged 0 0 g.a) ++ r.rdsInput2 v1 (tagged 0 1 g.b) ++
    r.rdsInput2 v1 (tagged 0 2 g.c) ++ r.rdsInput2 v1 (tagged 0 3 g.d)

/-- Delivery through `rds_input3`. -/
def viaInput3 (v1 : U32) (g : RdsGroup) (r : Radio) : List RadioWork := r.rdsInput3 v1 g.bytes

end RdsGroup

namespace Radio

/-- The three ways take a group alike: the synchroniser goes through the same states, the same words are
    stored, and `rds_process` is called once, at block D. -/
structure PathsAgree (v1 : U32) (hi : U8) (g : RdsGroup) (r : Radio) : Prop where
  sync2 : (afterEach (g.viaInput v1 hi r) r).map staRdsCache0 =
    (afterEach (g.viaInput2 v1 r) r).map staRdsCache0
  sync3 : (afterEach (g.viaInput v1 hi r) r).map staRdsCache0 =
    (afterEach (g.viaInput3 v1 r) r).map staRdsCache0
  words2 : (afterAll (g.viaInput v1 hi r) r).blockWord = (afterAll (g.viaInput2 v1 r) r).blockWord
  words3 : (afterAll (g.viaInput v1 hi r) r).blockWord = (afterAll (g.viaInput3 v1 r) r).blockWord
  calls : ∀ ws ∈ [g.viaInput v1 hi r, g.viaInput2 v1 r, g.viaInput3 v1 r],
    (afterEach ws r).map processCalls =
      [r.processCalls, r.processCalls, r.processCalls, r.processCalls + 1]

end Radio

/-! ## The station name -/

/-- The word of a block on air. -/
def codeWord (x : RdsBlock) (m : U16) : BitVec 26 := m ++ (checkWord m ^^^ x.offsetWord)

namespace RdsGroup

/-- The bits of the group on air; its third block is of kind C' in version B. -/
def bits (g : RdsGroup) : List Bool :=
  msbFirst (codeWord .a g.a) ++ msbFirst (codeWord .b g.b) ++
    msbFirst (codeWord (if g.b &&& 0x800 ≠ 0 then .cAlt else .c) g.c) ++ msbFirst (codeWord .d g.d)

/-- The group is of type 0 and carries segment `s` of the name, in block D with the high byte first. -/
structure CarriesSegment (code : U16) (name : ℕ → U8) (s : ℕ) (g : RdsGroup) : Prop where
  code : g.a = code
  groupType : g.b >>> 12 = 0
  segment : (g.b &&& 3).toNat = s
  chars : g.d = name (2 * s) ++ name (2 * s + 1)

/-- Two rounds of the four groups with the segments of the name. -/
structure TwoRounds (code : U16) (name : ℕ → U8) (gs : List RdsGroup) : Prop where
  length : gs.length = 8
  carries : ∀ i (hi : i < gs.length), CarriesSegment code name (i % 4) (gs.get ⟨i, hi⟩)

end RdsGroup

namespace Radio

/-- The front end delivers the groups with these work items. -/
inductive Delivers (r : Radio) (gs : List RdsGroup) : List RadioWork → Prop where
  | input (v1 : U32) (hi : U8) (hcust : r.cust24 = true) :
      Delivers r gs (gs.flatMap fun g => g.viaInput v1 hi r)
  | stream {ws : List RadioWork} (hcust : r.cust24 = false) (hcmd : ∀ w ∈ ws, w.cmd = 1)
      (hbits : (ws.flatMap fun w => msbFirst w.dword4) = gs.flatMap RdsGroup.bits) : Delivers r gs ws
  | input2 (v1 : U32) : Delivers r gs (gs.flatMap fun g => g.viaInput2 v1 r)
  | input3 (v1 : U32) : Delivers r gs (gs.flatMap fun g => g.viaInput3 v1 r)

end Radio

/-- The event is a station name. -/
def RadioEvent.isName : RadioEvent → Bool
  | .vsSend cmd _ => cmd = 0x99
  | _ => false

namespace Radio

/-- What a run from `r` to `r'` should have done with the groups: `rds_process` works on their words, and
    one message 0x99 ends with the name. -/
def StationNameMet (gs : List RdsGroup) (name : ℕ → U8) (r r' : Radio) : Prop :=
  ∃ new, r'.log = new ++ r.log ∧
    (new.filter RadioEvent.isProcess).reverse = gs.map (fun g =>
      .rdsProcess g.b [g.c.setWidth 8, (g.c >>> 8).setWidth 8, g.d.setWidth 8, (g.d >>> 8).setWidth 8]) ∧
    ∃ head, new.filter RadioEvent.isName = [.vsSend 0x99 (head ++ (List.range 8).map name)]

/-- The states of the module since its start, when `_s2` was cleared. -/
inductive Reachable : Radio → Prop where
  | init {r : Radio} (hs2 : r.s2 = .zero) (hlog : r.log = []) : Reachable r
  | work {r : Radio} (w : RadioWork) (h : Reachable r) : Reachable (r.radioCmdWork w)
  | rdslost {r : Radio} (h : Reachable r) : Reachable r.rdslostWork
  | ta {r : Radio} (h : Reachable r) : Reachable r.workTa
  /-- Tuning clears `_s2`. -/
  | tune {r : Radio} (freq a2 : U32) (h : Reachable r) :
      Reachable ((r.radioSetFrequencyCom freq a2).mapS2 fun _ => .zero)
  /-- The rest of the module and of the driver touches neither `_s2` nor sends names. -/
  | other {r r' : Radio} (h : Reachable r) (hs2 : r'.s2 = r.s2)
      (hlog : ∃ new, r'.log = new ++ r.log ∧ ∀ e ∈ new, e.isName = false) : Reachable r'

end Radio

end MtcDrivers
