import Mathlib.Order.Monotone.Defs
import MtcDrivers.Bits.ShiftRegister
import MtcDrivers.Link.Wire
import MtcDrivers.Timer.Wraparound

/-!
# The other side of the link

Level streams of a peer that follows the handshakes of the link without delay, where every debounced read takes two
entries of a stream, and what `arm_send` and `arm_send_multi` need from their surroundings to return. The clock and
the debounced reads are assumed to go on (`Live`). A peer is given by the levels that its two pins go through, and the
driver reads them at moments that nobody fixes (`Reads`). Then the MCU must stop asking to be heard (`Relents`), and
on the firmware path, whose waits have no timeout, it must not take the command word at all (`Grants`).
-/

namespace MtcDrivers

/-! ## A cooperating MCU -/

section

open ShiftRegister

/-- The next debounced read of the pin sees `v`. -/
def hold (v : Bool) (s : Stream' Bool) : Stream' Bool := .cons v (.cons v s)

/-- The next debounced reads of the pin see these levels. -/
def holds (vs : List Bool) (s : Stream' Bool) : Stream' Bool := vs.foldr hold s

/-- The levels of a pin that acknowledges `n` bits, high before and low after each of them. -/
def pulses : ℕ → Stream' Bool → Stream' Bool
  | 0, s => s
  | n + 1, s => hold true (hold false (pulses n s))

/-- The levels of `MCU_CLK` while the MCU sends `n` bits: low for each of them, and high after it. -/
def strobes : ℕ → Stream' Bool → Stream' Bool
  | 0, s => s
  | n + 1, s => hold false (hold true (strobes n s))

/-- `MCU_CLK` during `arm_send_cmd`: free, then the handshake of the request. -/
def grantClk (s : Stream' Bool) : Stream' Bool := holds [true, false, true] s

/-- `MCU_DIN` during `arm_send_cmd`: free, then sixteen bits acknowledged. -/
def grantDin (s : Stream' Bool) : Stream' Bool := hold true (pulses 16 s)

/-- `MCU_CLK` while the MCU sends a command word. -/
def callClk (s : Stream' Bool) : Stream' Bool := hold true (strobes 16 s)

/-- `MCU_DIN` while the MCU sends a command word: the request, its end, and the bits of the word. -/
def callDin (bits : List Bool) (s : Stream' Bool) : Stream' Bool := holds ([false, true] ++ bits) s

/-- The idle bus with the given levels ahead, and everything else at rest. -/
def World.ofPeer (clk din : Stream' Bool) : World where
  levels
    | .mcuClk => clk
    | .mcuDin => din
    | .mcuDout => .const true
  clock := .const 0
  frames := .const ⟨0, fun _ => 0⟩
  pads
    | .mcuClk => ⟨false, true⟩
    | .mcuDin => ⟨false, true⟩
    | .mcuDout => ⟨true, true⟩
  car := default
  log := []

/-- An MCU that sends a command word. -/
def World.caller (word : BitVec 16) : World :=
  .ofPeer (callClk (.const true)) (callDin (msbFirst word) (.const true))

/-- An MCU that sends a payload and then takes its acknowledge. -/
def World.sender (data : List U8) : World :=
  .ofPeer (strobes (8 * data.length) (.const true))
    (holds (data.flatMap msbFirst ++ [false, true, true]) (.const true))

end

/-! ## Peers and clocks that let the link return -/

/-- Debounced reads of these levels settle: wherever they start, two reads of one pair agree. -/
def Settles (s : Stream' Bool) : Prop := ∀ i, ∃ k, s.get (i + 2 * k) = s.get (i + 2 * k + 1)

/-- The clock goes on with less than 750 ms between two readings, and every pin settles. -/
structure Live (w : World) : Prop where
  clock : Wraparound.Runs 750000 w.clock.get
  pins : ∀ p, Settles (w.levels p)

/-- The pair `k` of these levels agrees on `v`. -/
def PairAt (s : Stream' Bool) (k : ℕ) (v : Bool) : Prop :=
  s.get (2 * k) = v ∧ s.get (2 * k + 1) = v

/-- A debounced read of these levels sees `v`. -/
def SettlesTo (s : Stream' Bool) (v : Bool) : Prop :=
  ∃ k, PairAt s k v ∧ ∀ j < k, s.get (2 * j) ≠ s.get (2 * j + 1)

/-- The MCU asks to be heard: `MCU_CLK` is high and `MCU_DIN` is low. -/
def McuRequests (w : World) : Prop :=
  SettlesTo (w.levels .mcuClk) true ∧ SettlesTo (w.levels .mcuDin) false

/-- The pin goes high and then low, `n` times. -/
def Toggles : ℕ → Stream' Bool → Prop
  | 0, _ => True
  | n + 1, s => ∃ i j, PairAt s i true ∧ i < j ∧ PairAt s j false ∧ Toggles n (s.drop (2 * (j + 1)))

/-- What a pin shows to its reader while it goes through the levels `s` at whatever speed: a level may be read many
    times, or missed. -/
def Reads (s r : Stream' Bool) : Prop :=
  ∃ moment : ℕ → ℕ, Monotone moment ∧ (∀ n, ∃ i, n ≤ moment i) ∧ ∀ i, r.get i = s.get (moment i)

/-- In the end the MCU no longer asks to be heard: `MCU_CLK` stays low, or `MCU_DIN` stays high. -/
def Relents (clk din : Stream' Bool) : Prop :=
  (∃ n, ∀ i, n ≤ i → clk.get i = false) ∨ ∃ n, ∀ i, n ≤ i → din.get i = true

/-- The levels come to these values in turn. -/
def Shows : List Bool → Stream' Bool → Prop
  | [], _ => True
  | v :: vs, s => ∃ i, s.get i = v ∧ Shows vs (s.drop i)

/-- The levels of a pin that acknowledges `n` bits. -/
def pulseLevels (n : ℕ) : List Bool := (List.replicate n [true, false]).flatten

/-- The levels let a command word through: the bus is free, `MCU_CLK` makes the handshake of the request, and
    `MCU_DIN` acknowledges sixteen bits. -/
def Grants (clk din : Stream' Bool) : Prop := Shows [true, false, true] clk ∧ Shows (true :: pulseLevels 16) din

/-- An MCU that holds its pins at fixed levels, and a clock that shows a millisecond more at every
    reading. -/
def World.stuck (clk din : Bool) : World :=
  { World.ofPeer (.const clk) (.const din) with clock := fun n => 1000 * n }

/-- The procedure returns, and on its way out it has enabled the interrupt and released the mutex. -/
def ReturnsReleased {α : Type} (m : Link α) (w : World) : Prop :=
  m.wp (fun _ w' => ∃ w1 : World,
    w' = (w1.emit (.sync .enableIrq)).emit (.sync .mutexUnlock)) w

/-- Whatever the driver reads of a peer with these levels, the procedure returns and releases the link. -/
def ReturnsFor {α : Type} (clk din : Stream' Bool) (m : Link α) : Prop :=
  ∀ w, Live w → Reads clk (w.levels .mcuClk) → Reads din (w.levels .mcuDin) → ReturnsReleased m w

end MtcDrivers
