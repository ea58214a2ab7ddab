import MtcDrivers.Car.State

/-!
# The bytes of the car status

`struct mtc_car_status` as its 160 bytes, for the code that goes by offsets or runs over the ends of its
fields.
-/

namespace MtcDrivers

/-- `struct mtc_car_status` -/
structure StatusBytes where
  u8 : Vector U8 160
deriving DecidableEq

namespace StatusBytes

/-- `memzero(car_status, 160)` -/
def zeroed : StatusBytes := ⟨Vector.replicate 160 0⟩

/-- The byte at offset `i`; 0 past the end. -/
def byte (m : StatusBytes) (i : ℕ) : U8 := m.u8[i]?.getD 0

/-- Store `b` at offset `i`. -/
def put (m : StatusBytes) (i : ℕ) (b : U8) : StatusBytes := ⟨m.u8.setIfInBounds i b⟩

theorem byte_put_self (m : StatusBytes) {i : ℕ} (hi : i < 160) (b : U8) : (m.put i b).byte i = b := by
  simp [byte, put, hi]

theorem byte_put_ne (m : StatusBytes) {i j : ℕ} (hij : i ≠ j) (b : U8) :
    (m.put i b).byte j = m.byte j := by
  simp [byte, put, hij]

theorem byte_zeroed (i : ℕ) : zeroed.byte i = 0 := by
  unfold byte zeroed
  by_cases hi : i < 160
  · simp [hi]
  · simp [hi]

/-- The bytes from an offset to the end. -/
def bytesFrom (m : StatusBytes) (off : ℕ) : List U8 := m.u8.toList.drop off

/-- The C string at an offset. -/
def cString (m : StatusBytes) (off : ℕ) : List U8 := (m.bytesFrom off).takeWhile (· ≠ 0)

/-- `strlen` -/
def strlen (m : StatusBytes) (off : ℕ) : ℕ := (m.cString off).length

theorem bytesFrom_cons (m : StatusBytes) {off : ℕ} (h : off < 160) :
    m.bytesFrom off = m.byte off :: m.bytesFrom (off + 1) := by
  have hlen : off < m.u8.toList.length := by simpa using h
  rw [bytesFrom, List.drop_eq_getElem_cons hlen]
  simp [bytesFrom, byte, h]

/-- The bytes of a string up to its end. -/
theorem cString_eq {m : StatusBytes} {text : List U8} {off : ℕ} (hfit : off + text.length < 160)
    (hbytes : ∀ i < text.length, m.byte (off + i) = text.getD i 0) (hne : ∀ b ∈ text, b ≠ 0)
    (hend : m.byte (off + text.length) = 0) : m.cString off = text := by
  induction text generalizing off with
  | nil =>
    rw [List.length_nil, Nat.add_zero] at hend
    rw [cString, bytesFrom_cons m (by simpa using hfit), hend]
    rfl
  | cons b text ih =>
    rw [List.length_cons] at hfit hend
    have hb : m.byte off = b := hbytes 0 (Nat.succ_pos _)
    have hrest : m.cString (off + 1) = text := by
      apply ih (by omega) _ (fun b hb => hne b (List.mem_cons_of_mem _ hb))
      · rw [← hend]
        congr 1
        omega
      · intro i hi
        have hnext := hbytes (i + 1) (by rw [List.length_cons]; omega)
        rw [List.getD_cons_succ] at hnext
        rw [← hnext]
        congr 1
        omega
    have hkeep : decide (b ≠ 0) = true := decide_eq_true (hne b List.mem_cons_self)
    rw [cString, bytesFrom_cons m (by omega), hb, List.takeWhile_cons, if_pos hkeep]
    exact congrArg (b :: ·) hrest

/-! ## Offsets -/

def powerRefcnt : ℕ := 1
def callActive : ℕ := 3
def rptBootAndroid : ℕ := 4
def audioReady : ℕ := 6
def staBits : ℕ := 8
def intval1 : ℕ := 12
def intval2 : ℕ := 16
def intval3 : ℕ := 24
def intval4 : ℕ := 28
def wipeFlag : ℕ := 32
def backlightStatus : ℕ := 33
def camState : ℕ := 34
def reserved8 : ℕ := 35
def reserved9 : ℕ := 36
def camSignal : ℕ := 37
def reserved10 : ℕ := 38
def reserved11 : ℕ := 39
def staView : ℕ := 40
def chMode : ℕ := 41
def keyMode : ℕ := 42
def staVideoSignal : ℕ := 45
def videoMode : ℕ := 47
def reserved13 : ℕ := 48
def decoderState : ℕ := 50
def radarVal : ℕ := 52
def mcuver2 : ℕ := 56
def mcuver1 : ℕ := 72
def videoSrcReady : ℕ := 91
def ajxActive : ℕ := 92
def reserved19 : ℕ := 93
def is1024screen : ℕ := 94
def reserved20 : ℕ := 95
def chStatus : ℕ := 97
def uValue : ℕ := 98
def vValue : ℕ := 99
def uvCal : ℕ := 100
def reserved22 : ℕ := 101
def rptBootAppinit : ℕ := 133
def touchWidth : ℕ := 136
def touchHeight : ℕ := 140
def touchInfo1 : ℕ := 144
def touchInfo2 : ℕ := 145
def customer : ℕ := 146
def avGpsMonitor : ℕ := 153
def power2Flag : ℕ := 155
def mcuCmdState : ℕ := 156

/-- Stores at several offsets. -/
def puts (m : StatusBytes) (bytes : List (ℕ × U8)) : StatusBytes :=
  bytes.foldl (fun m b => m.put b.1 b.2) m

/-- The `int` at an offset. -/
def word (m : StatusBytes) (i : ℕ) : U32 := m.byte (i + 3) ++ m.byte (i + 2) ++ m.byte (i + 1) ++ m.byte i

/-- The bytes of an `int` at an offset. -/
def wordAt (i : ℕ) (v : U32) : List (ℕ × U8) :=
  [(i, v.extractLsb' 0 8), (i + 1, v.extractLsb' 8 8), (i + 2, v.extractLsb' 16 8),
    (i + 3, v.extractLsb' 24 8)]

theorem byte_puts {m : StatusBytes} {bytes : List (ℕ × U8)} {i : ℕ} (h : ∀ b ∈ bytes, b.1 ≠ i) :
    (m.puts bytes).byte i = m.byte i := by
  induction bytes generalizing m with
  | nil => rfl
  | cons b bytes ih =>
    have hrest := ih (m := m.put b.1 b.2) (fun x hx => h x (List.mem_cons_of_mem _ hx))
    exact hrest.trans (byte_put_ne m (h b List.mem_cons_self) b.2)

theorem byte_puts_of_not_mem {m : StatusBytes} {bytes : List (ℕ × U8)} {i : ℕ}
    (h : i ∉ bytes.map Prod.fst) : (m.puts bytes).byte i = m.byte i := by
  refine byte_puts fun b hb heq => h ?_
  rw [← heq]
  exact List.mem_map_of_mem hb

/-! ## The fields of the MCU link -/

def loadStatus (m : StatusBytes) : CarStatus where
  staBits := m.byte staBits
  intval1 := m.word intval1
  intval2 := m.word intval2
  intval3 := m.word intval3
  intval4 := m.word intval4
  wipeFlag := m.byte wipeFlag
  camSignal := m.byte camSignal
  reserved10 := m.byte reserved10
  reserved22 := Vector.ofFn fun k => m.byte (reserved22 + k)
  power2Flag := m.byte power2Flag
  mcuCmdState := m.byte mcuCmdState

/-- What the messages from the MCU write. -/
def storeStatus (m : StatusBytes) (s : CarStatus) : StatusBytes :=
  m.puts ([(staBits, s.staBits)] ++ wordAt intval1 s.intval1 ++ wordAt intval2 s.intval2 ++
    wordAt intval3 s.intval3 ++ wordAt intval4 s.intval4 ++ [(wipeFlag, s.wipeFlag)] ++
    (List.range 32).map (fun k => (reserved22 + k, s.reserved22[k]?.getD 0)) ++
    [(power2Flag, s.power2Flag), (mcuCmdState, s.mcuCmdState)])

end StatusBytes

end MtcDrivers
