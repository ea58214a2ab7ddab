import MtcDrivers.Ioctl.Canbus
import MtcDrivers.Proc.Collect

/-!
# Numbers one after the other

Calls of `get_token_int` on a text in memory: several of them in a row, and the loops of `car_ioctl` that go
on as long as they yield a number.
-/

namespace MtcDrivers

namespace CanbusState

/-- `token_pos` at an index of these bytes, and nothing done so far. -/
def standing (ioctlBuf1 : List U8) (tokenPos : ℕ) (stack : ℕ → U8) : CanbusState :=
  ⟨ioctlBuf1, tokenPos, [], stack, [], []⟩

/-- The text in front of `token_pos`. -/
def left (s : CanbusState) : Text := cString (s.ioctlBuf1.drop s.tokenPos)

/-- The index of the zero behind that text. -/
def endPos (s : CanbusState) : ℕ := s.tokenPos + s.left.length

/-- The text and `token_pos` are the same. -/
structure SameText (s s' : CanbusState) : Prop where
  ioctlBuf1 : s'.ioctlBuf1 = s.ioctlBuf1
  tokenPos : s'.tokenPos = s.tokenPos
  moved : s'.moved = s.moved

end CanbusState

/-- Numbers in decimal, joined by commas. -/
def joinComma (vs : List ℕ) : Text := [comma].intercalate (vs.map decimal)

/-- `n` calls of `get_token_int` and their results. -/
def tokenCalls : ℕ → Proc CanbusState (List U32) := Proc.collect getTokenIntAt

/-- One pass of a loop that takes a number, ends if it is negative, and else does `use` with it, which may end
the loop as well. -/
def parsingPass {α β : Type} (use : β → U32 → Proc CanbusState (β ⊕ α)) (done : β → α) (b : β) :
    Proc CanbusState (β ⊕ α) := do
  let v ← getTokenIntAt
  if taken v then use b v else return .inr (done b)

/-! ## The calls on a text -/

/-- The results of `n` calls of `get_token_int`, and the text that they leave. -/
def tokenResults : ℕ → Text → List U32 × Text
  | 0, text => ([], text)
  | n + 1, text =>
    let (v, text) := getTokenInt text
    let (vs, text) := tokenResults n text
    (v :: vs, text)

/-- What one call makes of `token_pos`: a number takes it on, and the zero of the text is never passed. -/
structure TokenStep (s : CanbusState) (v : U32) (s' : CanbusState) : Prop where
  advances : taken v → s.tokenPos + 1 ≤ s'.tokenPos
  inside : s.tokenPos ≤ s'.tokenPos ∧ s'.tokenPos ≤ s.endPos
  moved : ∀ p ∈ s'.moved, p ≤ s.endPos
  text : s'.ioctlBuf1 = s.ioctlBuf1

end MtcDrivers
