import MtcDrivers.Car.Blocking

/-!
# When the touch panel follows the camera

The offsets of `isTouchDisable` hit `reserved_10`, `ch_mode`, `key_mode`, `mcuver1[7]` and
`reserved_22[12]`. Its result depends on the modes except where `reserved_22[12]` is set, and there it never
blocks.
-/

namespace MtcDrivers

namespace StatusBytes

/-- Where `cs[113]` is set, nothing is blocked. -/
theorem isTouchDisable_of_113 {cs : StatusBytes} (h : cs.byte 113 ≠ 0) (cs0xBA : U8) :
    cs.isTouchDisable cs0xBA = 0 := if_pos (.inr h)

/-- Where `ch_mode` and `key_mode` are set, nothing is blocked. -/
theorem isTouchDisable_of_modes (cs : StatusBytes) (hch : cs.byte 41 ≠ 0) (hkey : cs.byte 42 ≠ 0)
    (cs0xBA : U8) : cs.isTouchDisable cs0xBA = 0 := if_pos (.inl ⟨.inr hch, hkey⟩)

/-- Where `ch_mode` is set and `key_mode` is not, the panel is blocked. -/
theorem isTouchDisable_of_chMode {cs : StatusBytes} (h113 : cs.byte 113 = 0) (hch : cs.byte 41 ≠ 0)
    (hkey : cs.byte 42 = 0) (cs0xBA : U8) : cs.isTouchDisable cs0xBA = 1 := by
  have hopen : ¬ (((cs.byte 38 ≠ 0 ∨ cs.byte 41 ≠ 0) ∧ cs.byte 42 ≠ 0) ∨ cs.byte 113 ≠ 0) := by
    rintro (⟨-, h⟩ | h)
    · exact h hkey
    · exact h h113
  exact (if_neg hopen).trans (if_pos (.inr (.inr hch)))

/-- The keys are blocked while the camera is on. -/
theorem isKeyDisable_of_camera {cs : StatusBytes} (h : cs.byte camState ≠ 0 ∨ cs.byte camSignal ≠ 0) :
    cs.isKeyDisable = 1 := by
  rcases h with h | h
  · exact if_pos (.inr (.inr (.inl h)))
  · exact if_pos (.inr (.inr (.inr (.inl h))))

/-- The status with other phone and key modes. -/
def setModes (cs : StatusBytes) (ch key : U8) : StatusBytes := (cs.put 41 ch).put 42 key

theorem byte_setModes (cs : StatusBytes) (ch key : U8) {i : ℕ} (hch : i ≠ 41) (hkey : i ≠ 42) :
    (cs.setModes ch key).byte i = cs.byte i := by
  rw [setModes, byte_put_ne _ hkey.symm, byte_put_ne _ hch.symm]

theorem byte41_setModes (cs : StatusBytes) (ch key : U8) : (cs.setModes ch key).byte 41 = ch := by
  rw [setModes, byte_put_ne _ (by decide), byte_put_self _ (by decide)]

theorem byte42_setModes (cs : StatusBytes) (ch key : U8) : (cs.setModes ch key).byte 42 = key :=
  byte_put_self _ (by decide) _

end StatusBytes

namespace BlockSystem

open StatusBytes

/-- With two settings of the modes, the panel is blocked in one and not in the other. -/
theorem modes_iff (s : BlockSystem) :
    (∀ m : StatusBytes, (∀ i, i ≠ chMode → i ≠ keyMode → ¬ (56 ≤ i ∧ i < 88) → m.byte i = s.status.byte i) →
      m.isTouchDisable s.cs0xBA = s.status.isTouchDisable s.cs0xBA) ↔ s.status.byte 113 ≠ 0 := by
  constructor
  · intro h h113
    have hsame : ∀ ch key : U8, ∀ i, i ≠ chMode → i ≠ keyMode → ¬ (56 ≤ i ∧ i < 88) →
        (s.status.setModes ch key).byte i = s.status.byte i :=
      fun ch key i hch hkey _ => byte_setModes s.status ch key hch hkey
    have h113' : (s.status.setModes 1 0).byte 113 = 0 := by
      rw [byte_setModes s.status 1 0 (by decide) (by decide)]
      exact h113
    have hopen := isTouchDisable_of_modes (s.status.setModes 1 1)
      (by rw [byte41_setModes]; decide) (by rw [byte42_setModes]; decide) s.cs0xBA
    have hblocked := isTouchDisable_of_chMode h113' (by rw [byte41_setModes]; decide)
      (byte42_setModes s.status 1 0) s.cs0xBA
    have heq := (h _ (hsame 1 1)).trans (h _ (hsame 1 0)).symm
    rw [hopen, hblocked] at heq
    exact absurd heq (by decide)
  · intro h113 m hm
    have hm113 : m.byte 113 ≠ 0 := by
      rw [hm 113 (by decide) (by decide) (by decide)]
      exact h113
    rw [isTouchDisable_of_113 hm113, isTouchDisable_of_113 h113]

/-- A status is right exactly if it is in this case. -/
theorem followsCamera_iff (s : BlockSystem) : FollowsCamera s ↔ Unblocking s := by
  constructor
  · intro h
    have h113 : s.status.byte 113 ≠ 0 := (modes_iff s).mp h.modes
    refine ⟨h113, ?_⟩
    rintro ⟨hcam, h10, happ⟩
    exact (h.blocked hcam h10 happ).1 (isTouchDisable_of_113 h113 s.cs0xBA)
  · rintro ⟨h113, hcam⟩
    refine ⟨fun hon h10 happ => absurd ⟨hon, h10, happ⟩ hcam, (modes_iff s).mpr h113⟩

/-- In every run, all states are right exactly if all states are in this case. -/
theorem run_followsCamera_iff (run : Run) :
    (∀ s ∈ run.states, FollowsCamera s) ↔ ∀ s ∈ run.states, Unblocking s :=
  forall₂_congr fun s _ => followsCamera_iff s

/-! ## The bytes that the steps leave alone -/

/-- Only a message can change the byte that decides whether the modes matter. -/
theorem reserved22_capture (c : Camera.CaptureCommand) (s : BlockSystem) :
    (s.capture c).status.byte 113 = s.status.byte 113 :=
  byte_puts_of_not_mem (show 113 ∉ [34, 35, 36, 37, 38, 39, 40, 45, 47, 48, 52, 93, 98, 99, 100] by decide)

theorem reserved22_phone (w : AudioWork) (s : BlockSystem) :
    (s.phone w).status.byte 113 = s.status.byte 113 :=
  byte_puts_of_not_mem (show 113 ∉ [41, 92, 97] by decide)

/-- As long as no message has set the byte, no state of a run of commands and phone items is right. -/
theorem not_followsCamera_capture {s : BlockSystem} (h : s.status.byte 113 = 0) (c : Camera.CaptureCommand) :
    ¬ FollowsCamera (s.capture c) := by
  rw [followsCamera_iff]
  exact fun hright => hright.1 ((reserved22_capture c s).trans h)

/-- Powered, in a call, and the camera off. -/
def inCall : BlockSystem where
  status := zeroed.puts [(powerRefcnt, 1), (callActive, 1)]
  cs0xBA := 0
  camera := default
  audio := default
  link := ⟨fun _ => Stream'.const false, Stream'.const 0, Stream'.const ⟨0, fun _ => 0⟩,
    fun _ => ⟨false, false⟩, default, []⟩

/-- Command `'6'`, which turns the camera on. -/
def cameraOn : Camera.CaptureCommand := ⟨54, 0, ⟨⟨0, none, [], 0, 0⟩, ⟨none, none⟩, []⟩⟩

/-- The camera is on, and the touch panel is not blocked. -/
theorem cameraOn_unblocked :
    (inCall.capture cameraOn).status.byte camSignal = 1 ∧
      (inCall.capture cameraOn).status.isTouchDisable 0 = 0 := by
  decide +kernel

theorem not_run_followsCamera : ¬ ∀ run : Run, ∀ s ∈ run.states, FollowsCamera s := by
  intro h
  have hsteps : [inCall, inCall.capture cameraOn].IsChain Step :=
    .cons_cons (.capture cameraOn) (.singleton _)
  have hright := h ⟨_, hsteps⟩ (inCall.capture cameraOn) (List.mem_cons_of_mem _ List.mem_cons_self)
  have h113 : inCall.status.byte 113 = 0 := (byte_puts (by decide)).trans (byte_zeroed 113)
  exact not_followsCamera_capture h113 cameraOn hright

end BlockSystem

end MtcDrivers
