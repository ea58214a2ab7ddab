import MtcDrivers.Audio.Enter
import MtcDrivers.WorkQueue.Basic

/-!
# Who waits for whom

The operations of the work items, of `car_ioctl`, `car_probe` and `dvd_s_suspend` on the work queues and on
the mutexes that are held across them. The mutexes of the MCU link, of the serial ports and of the LCD are
only held over transfers, in which nothing waits; an item with a delay comes when its timer has expired.
-/

namespace MtcDrivers

/-- The single-threaded work queues. -/
inductive Queue where
  | carWq
  | audioWq
  | capWq
  | dvdWq
  | dvdRevWq
  | afWq
deriving DecidableEq, Repr

inductive Mutex where
  | carIoLock
  | carCmdLock
  /-- `car_struct.audio->lock` -/
  | audioLock
  | backCmdLock
  | dvdRevMutex
  /-- `car_ready` is not set: `car_work` polls it, and `car_probe` has not come to its end. -/
  | carReady
deriving DecidableEq, Repr

/-- The work items, with `cmd1` and `cmd2` where they have them. -/
inductive Item where
  | carWork (cmd1 cmd2 : U32)
  | audioWork (cmd1 cmd2 : U32)
  | captureWork (cmd1 cmd2 : U32)
  | captureCheckWork
  | cmdWork
  | stopWork
  | mediaWork
  | mediaIndexWork
  | revWork
  | workSignalLow
  | wipeCheckClearWork
deriving DecidableEq, Repr

/-- The queue of an item. -/
def Item.home : Item → Queue
  | .carWork _ _ => .carWq
  | .audioWork _ _ => .audioWq
  | .captureWork _ _ => .capWq
  | .captureCheckWork => .capWq
  | .cmdWork => .dvdWq
  | .stopWork => .dvdWq
  | .mediaWork => .dvdWq
  | .mediaIndexWork => .dvdWq
  | .revWork => .dvdRevWq
  | .workSignalLow => .afWq
  | .wipeCheckClearWork => .carWq

abbrev Script := List (WorkQueue.Op Queue Mutex Item)

/-- What the tests of one run find. Other threads change all this at any time. -/
structure Found where
  unit : AudioUnit
  callActive : Bool
  camSignal : Bool
  powerRefcnt : Bool
  videoSrcReady : Bool
  backlightStatus : Bool
  rptBootAndroid : Bool
  /-- `wipe_flag & 8` -/
  wipeFlag8 : Bool
  /-- The `n`-th read of `dvd_power_on`. -/
  dvdPowerOn : ℕ → Bool
  dvdU16val3 : BitVec 16
  /-- `dvd_flag1 & 0xFF` -/
  dvdFlag1 : U8
  mediaState : U8
  mediaCount : BitVec 16
  dvdByteval5 : Bool
  doMediaIndex : Bool
  /-- `track_flag & 1` -/
  trackFlag1 : Bool
  /-- `mcu_cmd_data` is not zero. -/
  mcuCmdData : Bool
  /-- The words that the `n`-th call of `dvd_rev_part_2` takes. -/
  words : ℕ → ℕ
  /-- `case 69` of `car_work` comes less than 30 ms behind the last one. -/
  tooSoon : Bool
deriving Inhabited

namespace Found

/-! ## Adding work -/

/-- `car_add_work` -/
def carAddWork (a1 a2 : U32) (flush : Bool) : Script :=
  .queue (.carWork a1 a2) :: if flush then [.flush .carWq] else []

/-- `capture_add_work` -/
def captureAddWork (cmd1 cmd2 : U32) (flush : Bool) : Script :=
  .queue (.captureWork cmd1 cmd2) :: if flush then [.flush .capWq] else []

/-- `audio_add_work` -/
def audioAddWork (f : Found) (cmd1 cmd2 : U32) : Script :=
  if f.unit.audio.audioReady ≠ 0 then [.queue (.audioWork cmd1 cmd2)] else []

/-- `audio_flush_work` -/
def audioFlushWork : Script := [.flush .audioWq]

/-- `audio_channel_switch_unmute`: only the item without a delay comes at once. -/
def audioChannelSwitchUnmute (f : Found) : Script :=
  if f.unit.state.gap11_0 = 1 ∧ f.unit.state.audioCh ≠ 2 ∧ f.unit.state.audioCh ≠ 5 then
    f.audioAddWork 26 0
  else []

/-! ## DVD -/

/-- The block that `dvd_poweroff` and `dvd_power(1)` run for a drive that is on. -/
def dvdPowerDown : Script := [.cancel .stopWork, .cancel .mediaWork, .cancel .mediaIndexWork, .flush .dvdWq]

/-- `dvd_poweroff` -/
def dvdPoweroff (f : Found) : Script := if f.dvdPowerOn 2 then dvdPowerDown else []

/-- `dvd_power` -/
def dvdPower (f : Found) (pwr : Bool) : Script :=
  if pwr then if f.dvdPowerOn 2 then dvdPowerDown else [] else f.dvdPoweroff

/-- `dvd_add_work` -/
def dvdAddWork : Script := [.queue .cmdWork]

/-- `LABEL_36` of `dvd_send_command_direct`. -/
def dvdLabel36 (f : Found) : Script :=
  .cancel .mediaIndexWork ::
    if (f.mediaState = 2 ∨ f.mediaState = 3) ∧ f.dvdByteval5 then [.cancel .stopWork, .queue .stopWork]
    else []

/-- The selection of a track in `dvd_send_command_direct`. -/
def dvdSelect (f : Found) (command : U32) : Script :=
  if (command + 1).toInt ≤ f.mediaCount.toNat then
    dvdAddWork ++
      if f.mediaState = 1 then [.cancel .mediaIndexWork]
      else [.cancel .stopWork, .queue .stopWork, .cancel .mediaIndexWork]
  else []

/-- `dvd_send_command_direct` -/
def dvdSendCommandDirect (f : Found) (command : U32) : Script :=
  let v10 := command &&& 0xFF0000
  if ¬ f.dvdPowerOn 1 then []
  else if f.dvdU16val3 ≠ 1 ∧ f.dvdU16val3 ≠ 2 then dvdAddWork
  else if (command = 0x22220 ∧ f.dvdFlag1 = 0) ∨ (command = 0x32200 ∧ f.dvdFlag1 = 1) then f.dvdLabel36
  else if v10 = 0x90000 ∨ v10 = 0xD0000 then [.cancel .mediaWork]
  else if f.trackFlag1 then []
  else if command = (if f.dvdFlag1 = 0 then 0x20F0D else 0x30F00) then .cancel .mediaIndexWork :: dvdAddWork
  else if v10 ≠ 0xB0000 then dvdAddWork
  else f.dvdSelect command

/-- `dvd_send_command` -/
def dvdSendCommand (f : Found) (command : U32) : Script :=
  let b3 := command &&& 0xFF0000
  if f.dvdPowerOn 0 then
    if f.dvdFlag1 = 1 then
      if b3 = 0x20000 then f.dvdSendCommandDirect ((command &&& 0xFF00) ||| 0x30000)
      else if b3 = 0x30000 then f.dvdSendCommandDirect 0x100000
      else if b3 = 0xF0000 then f.dvdSendCommandDirect ((command &&& 0xFF00) ||| 0x570000)
      else f.dvdSendCommandDirect command
    else f.dvdSendCommandDirect command
  else []

/-- `dvd_rev_part_2`, which takes `n` words. -/
def dvdRevPart2 (n : ℕ) : Script :=
  .lock .dvdRevMutex :: (List.replicate n (.queue .cmdWork) ++ [.unlock .dvdRevMutex])

/-- `rev_work` -/
def revWork (f : Found) : Script :=
  if f.dvdPowerOn 0 then
    dvdRevPart2 (f.words 0) ++ if f.dvdPowerOn 1 ∧ f.dvdPowerOn 2 then dvdRevPart2 (f.words 1) else []
  else []

/-- `cmd_send`, which reads `dvd_power_on` up to three times from the `k`-th read on. -/
def cmdSend (f : Found) (k : ℕ) : Script :=
  if f.dvdPowerOn k then
    .lock .dvdRevMutex :: .unlock .dvdRevMutex ::
      if f.dvdPowerOn (k + 1) ∧ f.dvdPowerOn (k + 2) then dvdRevPart2 (f.words k) else []
  else []

/-- `stop_work`; it comes again after two seconds. -/
def stopWork (f : Found) : Script := if f.dvdByteval5 then f.cmdSend 0 else []

/-- `media_index_work` -/
def mediaIndexWork (f : Found) : Script :=
  if ¬ f.dvdPowerOn 0 ∨ f.doMediaIndex ∨ f.trackFlag1 ∨ ¬ f.mcuCmdData then []
  else f.cmdSend 1 ++ f.cmdSend 4

/-! ## The audio work -/

/-- `Audio_EnterChannel` with `ch_sel_mode` 4. -/
def enterSelected (f : Found) (audioCh setCh : U32) (mode : Bool) : Script :=
  if setCh = 0 then []
  else if mode then
    if audioCh = setCh then []
    else if setCh = AudioUnit.channelDvd then f.dvdPower true
    else if audioCh = AudioUnit.channelDvd then f.dvdPower false
    else []
  else if audioCh = setCh ∧ setCh = AudioUnit.channelDvd then f.dvdPower false
  else []

/-- A change of the channel in the other modes. -/
def changeChannel (f : Found) (audioCh setCh : U32) : Script :=
  if f.unit.busy then if audioCh = AudioUnit.channelDvd then f.dvdPower false else []
  else if f.unit.isSimple audioCh setCh then []
  else
    (if audioCh = AudioUnit.channelDvd then f.dvdSendCommand 0x30003 else []) ++
      (if setCh = AudioUnit.channelDvd then f.dvdPower true else []) ++
      captureAddWork 0x2E setCh false ++
      (if audioCh = AudioUnit.channelDvd then f.dvdPower false else [])

/-- `Audio_EnterChannel` -/
def enterChannel (f : Found) (setCh : U32) (mode : Bool) : Script :=
  let audioCh := f.unit.state.audioCh.setWidth 32
  if f.unit.state.chSelMode = 4 then f.enterSelected audioCh setCh mode
  else if mode then
    if audioCh = setCh ∧ setCh ≠ AudioUnit.channelLine then [] else f.changeChannel audioCh setCh
  else if audioCh ≠ setCh ∨ audioCh = AudioUnit.channelSys then []
  else f.changeChannel audioCh AudioUnit.channelSys

/-- `case 0xD` of `audio_work`. -/
def workPhone (f : Found) (cmd2 : U32) : Script :=
  if cmd2 = f.unit.state.chMode.setWidth 32 then []
  else if f.unit.state.chMode ≠ 0 then if cmd2 ≠ 0 then [] else carAddWork 30 0 true
  else carAddWork 29 0 true

/-- The `switch` of `audio_work`. -/
def audioSwitch (f : Found) (cmd1 cmd2 : U32) : Script :=
  let setCh : U32 := cmd2 &&& 0xFF
  match cmd1.toNat with
  | 0 => if f.unit.state.audioActive ≠ 0 then f.enterChannel setCh true else []
  | 1 => if f.unit.state.audioActive ≠ 0 then f.enterChannel setCh false else []
  | 0xD => f.workPhone cmd2
  | 0x16 => if f.unit.state.ajxActive = 0 then carAddWork 29 0 true else []
  | 0x17 => if f.unit.state.ajxActive ≠ 0 then carAddWork 30 0 true else []
  | _ => []

/-- `audio_work` -/
def audioWork (f : Found) (cmd1 cmd2 : U32) : Script :=
  .lock .audioLock :: (f.audioSwitch cmd1 cmd2 ++ [.unlock .audioLock])

/-! ## The car work -/

/-- `power_soft_off` -/
def powerSoftOff (f : Found) : Script :=
  if f.callActive then captureAddWork 46 255 false ++ f.audioAddWork 21 0 else captureAddWork 47 0 false

/-- `LABEL_97` of `car_work`: the backlight is switched. -/
def switchBacklight (f : Found) : Script :=
  if f.backlightStatus then carAddWork 35 0 false else carAddWork 36 0 false

/-- `case 69` of `car_work`: the keys of the radio panel. -/
def workPanelKey (f : Found) (cmd2 : U32) : Script :=
  if cmd2 = 0x60 then if f.rptBootAndroid then f.audioAddWork 0x16 0 else []
  else if cmd2 = 0x61 then if f.rptBootAndroid then f.audioAddWork 0x17 0 else []
  else if cmd2 = 21 ∧ ¬ f.tooSoon then f.switchBacklight
  else []

/-- The `switch` of `car_work`. -/
def carSwitch (f : Found) (cmd1 cmd2 : U32) : Script :=
  match cmd1.toNat with
  | 31 => captureAddWork 0x38 0 false
  | 32 => captureAddWork 0x39 0 false
  | 33 => captureAddWork 0x3C 0 false
  | 34 => captureAddWork 0x3B 0 false
  | 37 => (if f.powerRefcnt then f.audioAddWork 0x14 0 else []) ++ captureAddWork 0x3A 2000 false
  | 38 => if f.videoSrcReady then f.audioAddWork 0x16 0 else []
  | 42 =>
    (if f.callActive then f.audioAddWork 20 0 ++ captureAddWork 46 1 false else captureAddWork 47 0 false) ++
      if cmd2 = 0 then captureAddWork 56 1000 false else []
  | 43 => (if f.camSignal then captureAddWork 0x37 0 true else []) ++ f.powerSoftOff
  | 45 =>
    (if f.unit.state.camState ≠ 0 then captureAddWork 0x3B 0 true
      else if f.camSignal then captureAddWork 0x37 0 true else []) ++ f.powerSoftOff
  | 67 => if cmd2 = 32 + 0x63 then f.switchBacklight else []
  | 69 => f.workPanelKey cmd2
  | _ => []

/-- `car_work` -/
def carWork (f : Found) (cmd1 cmd2 : U32) : Script :=
  .lock .carCmdLock :: .lock .carReady :: .unlock .carReady ::
    (f.carSwitch cmd1 cmd2 ++ [.unlock .carCmdLock])

/-! ## The capture work -/

/-- The `switch` of `capture_work`. -/
def captureSwitch (f : Found) (cmd1 : U32) : Script :=
  match cmd1.toNat with
  | 56 => if f.unit.state.camState = 0 then f.audioAddWork 17 0 else []
  | 59 => if f.unit.state.camState ≠ 0 then f.audioAddWork 17 0 else []
  | _ => []

/-- `capture_work` -/
def captureWork (f : Found) (cmd1 : U32) : Script :=
  .lock .backCmdLock :: (f.captureSwitch cmd1 ++ [.unlock .backCmdLock])

/-! ## The radio -/

/-- `work_signal_low` -/
def workSignalLow (f : Found) : Script :=
  (if f.unit.tuner.radio.hasTaWork ≠ 0 then f.audioAddWork 25 1 else []) ++
    if f.unit.tuner.endTa.mayStart ∧ f.unit.tuner.endTa.searchStart.isSome then [.queue .workSignalLow]
    else []

/-- `Radio_Set_Frequency` -/
def radioSetFrequency (f : Found) (freq : U32) : Script :=
  let radio := f.unit.tuner.radio
  let newBand : U8 := if (10000000 : U32).slt freq then 2 else 1
  (if radio.cfgRds ≠ 0 then [.flush .afWq] else []) ++
    if radio.tefCurBand = newBand then []
    else if radio.tefCurBand ≠ 255 ∨ radio.cfgRadio = 2 ∨ radio.cfgRadio = 4 ∨ radio.cfgRadio = 5 then
      f.audioAddWork 19 1
    else []

end Found

/-- The script of an item. `cmd_work`, `media_work` and `WipeCheckClear_work` are empty. -/
def Item.script (f : Found) : Item → Script
  | .carWork cmd1 cmd2 => f.carWork cmd1 cmd2
  | .audioWork cmd1 cmd2 => f.audioWork cmd1 cmd2
  | .captureWork cmd1 _ => f.captureWork cmd1
  | .captureCheckWork => []
  | .cmdWork => []
  | .stopWork => f.stopWork
  | .mediaWork => []
  | .mediaIndexWork => f.mediaIndexWork
  | .revWork => f.revWork
  | .workSignalLow => f.workSignalLow
  | .wipeCheckClearWork => []

/-! ## The other threads -/

/-- The requests of `car_ioctl`, as far as they add work or wait for it. -/
inductive Request where
  /-- `cmd == 119`, which is answered in front of the mutex. -/
  | version
  /-- `av_channel_enter` and `av_channel_exit` -/
  | channel (cmd1 avChannel : U32)
  /-- `ctl_capture_on` and `ctl_capture_off` -/
  | capture (cmd1 avChannel : U32)
  /-- `ctl_tv_demod` -/
  | tvDemod (val : U32)
  /-- `ctl_dvd_cmd` -/
  | dvdCmd (command : U32)
  /-- `ctl_radio_frequency` and `ctl_radio_sfrequency` -/
  | frequency (freq : U32)
  /-- A request that adds items and does not wait for them. -/
  | add (items : List Item)
deriving DecidableEq, Repr

namespace Found

/-- `car_ioctl` behind its mutex. -/
def request (f : Found) : Request → Script
  | .version => []
  | .channel cmd1 avChannel =>
    f.audioAddWork cmd1 avChannel ++ audioFlushWork ++ f.audioChannelSwitchUnmute
  | .capture cmd1 avChannel => captureAddWork cmd1 avChannel true
  | .tvDemod val => if (val - 1).sle 7 then captureAddWork 61 0 true else []
  | .dvdCmd command => f.dvdSendCommand command
  | .frequency freq => f.radioSetFrequency freq
  | .add items => items.map .queue

/-- `car_ioctl` -/
def carIoctl (f : Found) (r : Request) : Script :=
  if r = .version then [] else .lock .carIoLock :: (f.request r ++ [.unlock .carIoLock])

/-- `car_probe` -/
def carProbe (f : Found) : Script :=
  .lock .carReady :: ((if f.wipeFlag8 then captureAddWork 0x38 1 true else []) ++ [.unlock .carReady])

end Found

/-- The threads that wait besides the workers. -/
inductive Caller where
  /-- The `n`-th user of the device. -/
  | ioctl (n : ℕ)
  | probe
  /-- `dvd_s_suspend` -/
  | earlySuspend
deriving DecidableEq, Repr

/-- The scripts of a thread. -/
def Caller.script (f : Found) : Caller → Request → Script
  | .ioctl _, r => f.carIoctl r
  | .probe, _ => f.carProbe
  | .earlySuspend, _ => f.dvdPoweroff

/-- The head unit: every run of an item or a thread may find anything. -/
def headUnit : WorkQueue.System Queue Mutex Item Caller where
  home := Item.home
  work i ops := ∃ f, ops = i.script f
  calls t ops := ∃ f r, ops = t.script f r

end MtcDrivers
