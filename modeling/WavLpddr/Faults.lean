import WavLpddr.DeviceRuns

/-!
# What can stop the firmware

A handler only stops at an assertion of the impedance calibration, at the assertion
of the preparation, or at a message that does not carry what its event needs.  The
frequency table is never indexed out of range and no loop runs away, in any run.
-/

namespace WavLpddr

open TransitionSystem Outcome

/-- The message carries the structure that its event's handler follows. -/
def FwPhyEvent.carries (event : FwPhyEvent) (data : MsgData) : Prop :=
  match event with
  | .boot => ∃ calibrate trainDram, data = .startCfg calibrate trainDram
  | .phymstrReq => ∃ req, data = .phymstrReq req
  | _ => True

section Handlers

variable [KernelIo] [BuildConfig]

/-- The preparation of a switch runs, and its frequency is not valid. -/
structure Fw.PreparesInvalid (fw : Fw) (freqId : UInt8) : Prop where
  running : fw.Running
  admitted : fw.dfi ≠ .ctrlUpd
  inPrep : fw.fsw = .prep
  invalid : fw.wddr.table.validFreq freqId = false

/-- The reasons for which a handler stops. -/
inductive HandlerFault (fw : Fw) (event : FwPhyEvent) (data : MsgData) : Fault → Prop
  | calibration : HandlerFault fw event data (.assertion .wddrIocalCalibrate)
  | badData (lacks : ¬ event.carries data) : HandlerFault fw event data .nullPointer
  | unprepared (isPrep : event = .prep) (prepares : fw.PreparesInvalid data.freqId)
      (asserts : BuildConfig.configAssert = true) :
      HandlerFault fw event data (.assertion .fswPrepareSwitchHandler)

theorem Fw.enterCtrlUpd_fault {fw : Fw} {current : VcoIndex} {fault : Fault}
    (sound : fw.wddr.Sound current) (onPhy : current ≠ .mcu)
    (stopped : fw.enterCtrlUpd = .error fault) : fault = .assertion .wddrIocalCalibrate := by
  have ends : Ends fw.enterCtrlUpd Wddr.CalibrationFault fun _ => True := by
    unfold Fw.enterCtrlUpd
    apply (fw.wddr.wddrIocalCalibrate_ends fw.hw).bind
    intro calibrated untouched
    apply (Wddr.wddrIocalUpdatePhy_ends (untouched.sound sound) onPhy fw.hw).bind
    intro updated _
    exact Ends.pure trivial
  exact ends.allowed_of_error stopped

omit [BuildConfig] in
theorem Fw.finishPhyUpd_ne_error {fw : Fw} {current : VcoIndex} {fault : Fault}
    (sound : fw.wddr.Sound current) (onPhy : current ≠ .mcu) :
    fw.finishPhyUpd ≠ .error fault := by
  intro stopped
  have ends : Ends fw.finishPhyUpd (fun _ => False) fun _ => True := by
    unfold Fw.finishPhyUpd
    apply (Wddr.wddrIocalUpdatePhy_ends sound onPhy fw.hw).bind
    intro updated _
    exact Ends.pure trivial
  exact ends.allowed_of_error stopped

theorem Fw.dfiTransition_fault {fw : Fw} {current : VcoIndex} {event : FwPhyEvent}
    {data : MsgData} {fault : Fault} (sound : fw.wddr.Sound current) (onPhy : current ≠ .mcu)
    (stopped : fw.dfiTransition event data = .error fault) :
    HandlerFault fw event data fault := by
  unfold Fw.dfiTransition at stopped
  split at stopped
  case h_1 =>
    cases data with
    | phymstrReq req => cases stopped
    | word value =>
        cases stopped
        exact .badData (by simp [FwPhyEvent.carries])
    | startCfg calibrate trainDram =>
        cases stopped
        exact .badData (by simp [FwPhyEvent.carries])
  case h_3 =>
    rw [Fw.enterCtrlUpd_fault sound onPhy stopped]
    exact .calibration
  case h_7 => exact absurd stopped (Fw.finishPhyUpd_ne_error sound onPhy)
  all_goals cases stopped

variable [Device]

theorem Fw.fswTransition_fault {fw : Fw} {current : VcoIndex} {event : FwPhyEvent}
    {data : MsgData} {fault : Fault} (sound : fw.wddr.Sound current) (running : fw.Running)
    (admitted : fw.dfi ≠ .ctrlUpd) (stopped : fw.fswTransition event data = .error fault) :
    HandlerFault fw event data fault := by
  unfold Fw.fswTransition at stopped
  split at stopped
  case h_1 inPrep =>
    cases valid : fw.wddr.table.validFreq data.freqId with
    | true =>
        rw [Fw.prepareSwitch_of_valid sound valid] at stopped
        cases stopped
    | false =>
        rw [Fw.prepareSwitch_of_invalid valid] at stopped
        cases asserts : BuildConfig.configAssert with
        | true =>
            rw [asserts] at stopped
            cases stopped
            exact .unprepared rfl ⟨running, admitted, inPrep, valid⟩ asserts
        | false =>
            rw [asserts] at stopped
            cases stopped
  all_goals cases stopped

theorem handleStartEvent_fault {fw : Fw} {current : VcoIndex} {data : MsgData} {fault : Fault}
    (device : fw.DeviceSound current)
    (stopped : handleStartEvent .boot data fw = .error fault) :
    HandlerFault fw .boot data fault := by
  cases data with
  | startCfg calibrate trainDram =>
      rw [handleStartEvent_eq] at stopped
      cases ready : fw.ready with
      | true =>
          rw [ready] at stopped
          cases stopped
      | false =>
          have aligned := fun isBooted => device.aligned isBooted ready
          have ends := Wddr.wddrBoot_ends device.sound aligned fw.hw
            (startBootCfg calibrate trainDram)
          rw [ready] at stopped
          cases boots : fw.wddr.wddrBoot fw.hw (startBootCfg calibrate trainDram) with
          | ok booted =>
              rw [boots] at stopped
              cases stopped
          | error bootFault =>
              have allowed : bootFault = .assertion .wddrIocalCalibrate :=
                ends.allowed_of_error boots
              rw [boots, allowed] at stopped
              cases stopped
              exact .calibration
  | word value =>
      cases stopped
      exact .badData (by simp [FwPhyEvent.carries])
  | phymstrReq req =>
      cases stopped
      exact .badData (by simp [FwPhyEvent.carries])

/-- Why the handler of a message stopped. -/
theorem handlerFault_of_error {fw : Fw} {current : VcoIndex} {event : FwPhyEvent}
    {data : MsgData} {fault : Fault} (device : fw.DeviceSound current)
    (stopped : handled event data fw = .error fault) : HandlerFault fw event data fault := by
  unfold handled at stopped
  split at stopped
  case h_1 kind =>
    have isBoot : event = .boot := by
      cases event <;> first | rfl | cases kind
    subst isBoot
    exact handleStartEvent_fault device stopped
  case h_2 => cases stopped
  case h_3 =>
    obtain ⟨running, -, failed⟩ := Fw.guarded_error stopped
    exact Fw.dfiTransition_fault device.sound (device.current_ne_mcu running.1) failed
  case h_4 =>
    obtain ⟨running, admitted, failed⟩ := Fw.guarded_error stopped
    exact Fw.fswTransition_fault device.sound running admitted failed

end Handlers

end WavLpddr
