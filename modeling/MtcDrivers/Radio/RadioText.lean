import MtcDrivers.Radio.AfList

/-!
# Radio text

The groups of type 2 with the text that they bring, and the message 0x9C that should go out with it.
-/

namespace MtcDrivers

/-- A group of type 2, as it waits for `rds_process`. -/
structure TextGroup where
  /-- The station code, which block B leaves in `psn_data`. -/
  code : U16
  /-- `rds_word_u16` -/
  info : U16
  fwA : U8
  fwB : U8
  fwC : U8
  fwD : U8
  typeTwo : info >>> 12 = 2
deriving DecidableEq

namespace TextGroup

/-- Version A, with four characters in a group. -/
def versionA (g : TextGroup) : Bool := g.info >>> 11 = 4

/-- The segment of the text. -/
def segment (g : TextGroup) : ℕ := (g.info &&& 0xF).toNat

/-- The characters of the group. -/
def chars (g : TextGroup) : List U8 :=
  if g.versionA then [g.fwB, g.fwA, g.fwD, g.fwC] else [g.fwD, g.fwC]

/-- The first character of the group. -/
def firstChar (g : TextGroup) : U8 := if g.versionA then g.fwB else g.fwD

/-- The group ends the text: with the character 13, or as the last segment. -/
def Ends (g : TextGroup) : Prop := 13 ∈ g.chars ∨ g.segment = 15

/-- The bit that is kept in `rds_ps_grp`. -/
def kind (g : TextGroup) : U8 := ((g.info >>> 4) &&& 1).setWidth 8

/-- A text of the other kind begins. -/
def Begins (r : Radio) (g : TextGroup) : Prop := r.s2.rdsPsGrp ≠ g.kind

instance (r : Radio) (g : TextGroup) : Decidable (g.Begins r) := inferInstanceAs (Decidable (_ ≠ _))

/-- `psn_data[0]` at the test in front of the text's end. -/
def stationByte (r : Radio) (g : TextGroup) : U8 := if g.Begins r then g.fwC else g.info.setWidth 8

/-- The group makes `rds_process` call `rds_send_rt`. -/
def Sends (r : Radio) (g : TextGroup) : Prop := g.stationByte r ≠ 0 ∧ g.Ends

/-- There is no text behind the group: its first character ends the text, or it comes behind a first
segment that was empty. -/
def LeavesEmpty (r : Radio) (g : TextGroup) : Prop :=
  if g.segment = 0 then g.firstChar = 0 ∨ g.firstChar = 13 else ¬ g.Begins r ∧ r.s2.psText 0 = 0

/-- `rds_process` with the group. -/
def receive (r : Radio) (g : TextGroup) : Radio :=
  (r.mapS2 fun s => { s.putFront16 0 g.code with
    rdsWordU16 := g.info, rdsFwA := g.fwA, rdsFwB := g.fwB, rdsFwC := g.fwC, rdsFwD := g.fwD }).rdsProcess

end TextGroup

namespace RadioStruct2

/-- The text in `ps_text`, up to its first zero. -/
def assembled (s : RadioStruct2) : List U8 := ((List.range 65).map s.psText).takeWhile (· ≠ 0)

end RadioStruct2

/-- Every message 0x9C that the group makes fits into `cmd_data` and carries the station code and the text
with its zero. -/
def TextSent (r : Radio) (g : TextGroup) : Prop :=
  ∃ sent, (g.receive r).log = sent ++ r.log ∧ ∀ data, .vsSend 0x9C data ∈ sent →
    data.length ≤ 16 ∧
      data = (g.receive r).s2.psnData 1 :: (g.receive r).s2.psnData 0 :: ((g.receive r).s2.assembled ++ [0])

/-- After `memset(&radio._s2, 0, sizeof(radio._s2))`. -/
def Radio.cleared (r : Radio) : Radio := r.mapS2 fun _ => .zero

end MtcDrivers
