import WavLpddr.PhyTask

/-!
# Host messages and the firmware API

The main task answers host messages one at a time.  A request for the firmware is
sent as a message, and the task waits for the answer; a call is retried while the
firmware asks for it.  The wait of a preparation is bounded, and a wait that times
out reads whatever notification value was left behind.
-/

namespace WavLpddr

/-- `Message_t` -/
structure Message where
  id : Word
  data : Word
deriving DecidableEq

/-- `app_state_t` -/
inductive AppState
  | idle | ready | error
deriving DecidableEq, Repr

def AppState.value : AppState → Word
  | idle => 0
  | ready => 1
  | error => 2

def messageWddrFreqPrepReq : Word := 0x00020002

def messageWddrFreqPrepResp : Word := 0x00020003

def wddrFreqPrepReqFreqId : RegField := ⟨0x000000FF, 0⟩

def wddrFreqPrepRspStatus : RegField := ⟨0x000000FF, 0⟩

def wddrFreqPrepRspFreqId : RegField := ⟨0x0000FF00, 8⟩

def wddrFreqPrepRspRespCode : RegField := ⟨0x00FF0000, 16⟩

def wddrBootReqCal : RegField := ⟨0x00000001, 0⟩

def wddrBootReqTrain : RegField := ⟨0x00000002, 1⟩

/-- The calls of `phy_api.h` that send a message. -/
inductive FirmwareCall
  | start (calibrate trainDram : Bool)
  | prepSwitch (freqId : UInt8)
deriving DecidableEq

namespace FirmwareCall

def msg : FirmwareCall → FwMsg
  | start calibrate trainDram =>
      ⟨FwPhyEvent.boot.code, .startCfg calibrate trainDram, some .main⟩
  | prepSwitch freqId => ⟨FwPhyEvent.prep.code, .ofFreqId freqId, some .main⟩

/-- `BOOT_TRY_COUNT` and `PREP_TRY_COUNT` -/
def tryCount : FirmwareCall → Nat
  | start _ _ => 1
  | prepSwitch _ => 3

/-- A BOOT waits with `portMAX_DELAY`, a PREP for `PREP_TIMEOUT`. -/
def timesOut : FirmwareCall → Bool
  | start _ _ => false
  | prepSwitch _ => true

end FirmwareCall

/-- Where the main task is. -/
inductive MainTask
  /-- Waiting for a host message. -/
  | receive
  /-- `__send_fw_msg` before it clears old notifications. -/
  | clear (call : FirmwareCall)
  /-- Before `fw_phy_task_notify`, with the tries that remain. -/
  | send (call : FirmwareCall) (tries : Nat)
  /-- In `xTaskNotifyWait`. -/
  | wait (call : FirmwareCall) (tries : Nat)
deriving DecidableEq

section HandleMessage

variable [KernelIo] [GeneralMessages]

/-- The response to a PREP request, after its call or without one. -/
def prepResponse (passed : Bool) (freqId : UInt8) (state : AppState) : Message where
  id := messageWddrFreqPrepResp
  data :=
    let data := updateRegField 0 wddrFreqPrepRspStatus (boolWord !passed)
    let data := updateRegField data wddrFreqPrepRspFreqId (freqId.toBitVec.setWidth 32)
    updateRegField data wddrFreqPrepRspRespCode state.value

/-- The response to a BOOT request, after its call or without one. -/
def bootResponse (passed : Bool) (state : AppState) : Message where
  id := GeneralMessages.mcuBootResp
  data :=
    let data := updateRegField 0 GeneralMessages.mcuBootRespStatus (boolWord !passed)
    updateRegField data GeneralMessages.mcuBootRespCode state.value

/-- All three numbers go to the major field. -/
def fwVerResponse : Message where
  id := GeneralMessages.fwVerResp
  data :=
    let major := GeneralMessages.fwVerRespMajor
    let data := updateRegField 0 major GeneralMessages.fwVersionMajor
    let data := updateRegField data major GeneralMessages.fwVersionMinor
    updateRegField data major GeneralMessages.fwVersionPatch

def hwVerResponse : Message where
  id := GeneralMessages.hwVerResp
  data :=
    let data := updateRegField 0 GeneralMessages.hwVerRespMajor 0x1
    updateRegField data GeneralMessages.hwVerRespMinor 0x0

/-- `handle_message` up to its call of the firmware: the call, or the response when
none is made. -/
def handleMessage (req : Message) (state : AppState) : FirmwareCall ⊕ Message :=
  if req.id = messageWddrFreqPrepReq then
    let freqId : UInt8 := ⟨(getRegField req.data wddrFreqPrepReqFreqId).setWidth 8⟩
    if state = .ready then .inl (.prepSwitch freqId)
    else .inr (prepResponse false freqId state)
  else if req.id = GeneralMessages.mcuBootReq then
    if state = .idle then
      .inl (.start (getRegField req.data wddrBootReqCal != 0)
        (getRegField req.data wddrBootReqTrain != 0))
    else .inr (bootResponse false state)
  else if req.id = GeneralMessages.fwVerReq then .inr fwVerResponse
  else if req.id = GeneralMessages.hwVerReq then .inr hwVerResponse
  else .inr ⟨0x0, 0x0⟩

/-- `handle_message` after its call returned: the new state and the response. -/
def finishMessage (call : FirmwareCall) (passed : Bool) (state : AppState) :
    AppState × Message :=
  match call with
  | .prepSwitch freqId =>
      let state := if passed then state else .error
      (state, prepResponse passed freqId state)
  | .start _ _ =>
      let state := if passed then .ready else state
      (state, bootResponse passed state)

end HandleMessage

/-- What `__send_fw_msg` makes of a response: try again, or return. -/
def afterResponse (call : FirmwareCall) (tries : Nat) : FwResponse → MainTask ⊕ Bool
  | .success => .inr true
  | .failure => .inr false
  | .retry => if tries - 1 = 0 then .inr false else .inl (.send call (tries - 1))

end WavLpddr
