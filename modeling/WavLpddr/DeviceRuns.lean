import WavLpddr.SystemSteps

/-!
# The device along every run

Each step of the two machines keeps the device sound.  Along every run the PLL is
settled and the frequency table is only read at valid entries, whatever the host,
the timer and the interrupts do.
-/

namespace WavLpddr

open EventMachine TransitionSystem Outcome

section DfiFrame

variable [KernelIo]

/-- What the steps of the DFI machine leave alone. -/
structure Fw.DfiFrame (before after : Fw) : Prop where
  ready : after.ready = before.ready
  error : after.error = before.error
  fsw : after.fsw = before.fsw
  mq : after.mq = before.mq
  hw : after.hw = before.hw
  timer : after.timer = before.timer
  pll : after.wddr.pll = before.wddr.pll
  dfich : after.wddr.dfich = before.wddr.dfich
  switch : after.wddr.fsw = before.wddr.fsw
  isBooted : after.wddr.isBooted = before.wddr.isBooted
  dramCfg : after.wddr.dramCfg = before.wddr.dramCfg
  valid : after.wddr.table.valid = before.wddr.table.valid
  mask : after.wddr.irq.mask = before.wddr.irq.mask
  enabled : ∀ line, line ≠ .phymstrAck → line ≠ .phyupdAck →
    after.wddr.irq.enabled line = before.wddr.irq.enabled line

theorem Fw.DfiFrame.similar {before after : Fw} (frame : before.DfiFrame after) :
    Wddr.Similar before.wddr after.wddr where
  vcos := by
    rw [frame.pll]
    exact .refl _
  isBooted := frame.isBooted
  dramCfg := frame.dramCfg
  valid := frame.valid

omit [KernelIo] in
theorem Fw.dfiFrame_onDfi (update : DfiRegs → DfiRegs) (granted : Bool) (state : DfiState)
    (fw : Fw) :
    fw.DfiFrame
      { fw with wddr := fw.wddr.onDfi update, phyMstrEvent := granted, dfi := state } :=
  ⟨rfl, rfl, rfl, rfl, rfl, rfl, rfl, rfl, rfl, rfl, rfl, rfl, rfl, fun _ _ _ => rfl⟩

omit [KernelIo] in
/-- A step that also enables or disables an acknowledge interrupt. -/
theorem Fw.dfiFrame_onIrq (update : Irq → Irq)
    (mask : ∀ irq, (update irq).mask = irq.mask)
    (enabled : ∀ irq line, line ≠ .phymstrAck → line ≠ .phyupdAck →
      (update irq).enabled line = irq.enabled line)
    (drive : DfiRegs → DfiRegs) (granted : Bool) (state : DfiState) (fw : Fw) :
    fw.DfiFrame
      { fw with
        wddr := (fw.wddr.onDfi drive).onIrq update, phyMstrEvent := granted, dfi := state } :=
  ⟨rfl, rfl, rfl, rfl, rfl, rfl, rfl, rfl, rfl, rfl, rfl, rfl, mask _, enabled _⟩

variable [BuildConfig]

theorem Fw.dfiFrame_abortPhyMstr (fw : Fw) : fw.DfiFrame fw.abortPhyMstr := by
  refine Fw.dfiFrame_onIrq (Irq.disableIrq .phymstrAck) ?_ ?_
    dfiPhymstrReqDeassertRegIf fw.completePhyMstr.phyMstrEvent .idle fw
  · exact fun _ => rfl
  · intro irq line notPhymstr _
    simp [Irq.disableIrq, notPhymstr]

omit [BuildConfig] in
theorem Fw.dfiFrame_abortPhyUpd (fw : Fw) : fw.DfiFrame fw.abortPhyUpd := by
  refine Fw.dfiFrame_onIrq (Irq.disableIrq .phyupdAck) ?_ ?_
    dfiPhyupdReqDeassertRegIf fw.phyMstrEvent .idle fw
  · exact fun _ => rfl
  · intro irq line _ notPhyupd
    simp [Irq.disableIrq, notPhyupd]

omit [BuildConfig] in
theorem Fw.eq_of_finishPhyUpd {fw after : Fw} (finished : fw.finishPhyUpd = .ok after) :
    ∃ update, after =
      { fw with
        wddr := (fw.wddr.onPhy update).onDfi dfiPhyupdReqDeassertRegIf, dfi := .idle } := by
  unfold Fw.finishPhyUpd at finished
  cases updated : fw.wddr.wddrIocalUpdatePhy fw.hw with
  | error fault => simp [updated, bind, Except.bind] at finished
  | ok wddr =>
      obtain ⟨update, rfl⟩ := Wddr.eq_of_wddrIocalUpdatePhy updated
      simp only [updated, bind, Except.bind, pure, Except.pure, Except.ok.injEq] at finished
      exact ⟨update, finished.symm⟩

theorem Fw.eq_of_enterCtrlUpd {fw after : Fw} (entered : fw.enterCtrlUpd = .ok after) :
    ∃ zqcal phy, after =
      { fw with
        wddr := ({ fw.wddr with
          table := { fw.wddr.table with
            common := { fw.wddr.table.common with zqcal := zqcal } }
          phy := phy } : Wddr).onDfi dfiCtrlupdDeassertAckRegIf
        dfi := .ctrlUpd } := by
  unfold Fw.enterCtrlUpd at entered
  cases calibrated : fw.wddr.wddrIocalCalibrate fw.hw with
  | error fault => simp [calibrated, bind, Except.bind] at entered
  | ok wddr =>
      obtain ⟨zqcal, cmn, rfl⟩ := Wddr.eq_of_wddrIocalCalibrate calibrated
      simp only [calibrated, bind, Except.bind] at entered
      split at entered
      · cases entered
      · rename_i updated
        obtain ⟨update, rfl⟩ := Wddr.eq_of_wddrIocalUpdatePhy updated
        simp only [pure, Except.pure, Except.ok.injEq] at entered
        exact ⟨zqcal, _, entered.symm⟩

theorem DfiStep.frame {data : MsgData} {fw after : Fw} {event : FwPhyEvent}
    (step : DfiStep data fw event after) : fw.DfiFrame after := by
  cases step with
  | ignored => exact fw.dfiFrame_onDfi id fw.phyMstrEvent fw.dfi
  | phymstrReq idle =>
      apply Fw.dfiFrame_onIrq (Irq.enableIrq .phymstrAck)
      · exact fun _ => rfl
      · intro irq line notPhymstr _
        simp [Irq.enableIrq, notPhymstr]
  | phyupdReq idle =>
      apply Fw.dfiFrame_onIrq (Irq.enableIrq .phyupdAck)
      · exact fun _ => rfl
      · intro irq line _ notPhyupd
        simp [Irq.enableIrq, notPhyupd]
  | ctrlupdAssert idle entered =>
      obtain ⟨zqcal, phy, rfl⟩ := Fw.eq_of_enterCtrlUpd entered
      exact ⟨rfl, rfl, rfl, rfl, rfl, rfl, rfl, rfl, rfl, rfl, rfl, rfl, rfl, fun _ _ _ => rfl⟩
  | phymstrAck pending => exact fw.dfiFrame_onDfi id _ .phyMstr
  | phymstrAbort pending => exact fw.dfiFrame_abortPhyMstr
  | phymstrExit granted => exact fw.dfiFrame_onDfi dfiPhymstrReqDeassertRegIf _ .idle
  | phyupdAck updating finished =>
      obtain ⟨update, rfl⟩ := Fw.eq_of_finishPhyUpd finished
      exact ⟨rfl, rfl, rfl, rfl, rfl, rfl, rfl, rfl, rfl, rfl, rfl, rfl, rfl, fun _ _ _ => rfl⟩
  | phyupdAbort updating => exact fw.dfiFrame_abortPhyUpd
  | ctrlupdDeassert updating => exact fw.dfiFrame_onDfi id _ .idle

end DfiFrame

section FswFrame

variable [KernelIo] [BuildConfig]

/-- The end of a preparation: report it and let the controller ask for the switch. -/
def Wddr.announced (wddr : Wddr) : Wddr :=
  wddr.onFsw (fswCtrlSetPrepDoneRegIf true)
    |>.onFsw (fswCtrlSetPostWorkDoneRegIf false false)
    |>.onIrq (Irq.enableIrq .initStart)

omit [BuildConfig] in
theorem Wddr.similar_announced (wddr : Wddr) : wddr.Similar wddr.announced :=
  ((wddr.similar_onFsw (fswCtrlSetPrepDoneRegIf true)).trans
    (Wddr.similar_onFsw (fswCtrlSetPostWorkDoneRegIf false false) _)).trans
      (Wddr.similar_onIrq (Irq.enableIrq .initStart) _)

/-- What the steps of the switch machine leave alone. -/
structure Fw.FswFrame (before after : Fw) : Prop where
  ready : after.ready = before.ready
  error : after.error = before.error
  mq : after.mq = before.mq
  hw : after.hw = before.hw
  timer : after.timer = before.timer
  isBooted : after.wddr.isBooted = before.wddr.isBooted
  valid : after.wddr.table.valid = before.wddr.table.valid
  dramCfg : after.wddr.dramCfg = before.wddr.dramCfg
  mask : after.wddr.irq.mask = before.wddr.irq.mask
  enabled : ∀ line, line ≠ .initStart → line ≠ .phymstrAck → line ≠ .phyupdAck →
    after.wddr.irq.enabled line = before.wddr.irq.enabled line

omit [KernelIo] [BuildConfig] in
theorem Fw.FswFrame.refl (fw : Fw) : fw.FswFrame fw :=
  ⟨rfl, rfl, rfl, rfl, rfl, rfl, rfl, rfl, rfl, fun _ _ _ _ => rfl⟩

omit [KernelIo] [BuildConfig] in
theorem Fw.FswFrame.trans {first second third : Fw} (earlier : first.FswFrame second)
    (later : second.FswFrame third) : first.FswFrame third where
  ready := later.ready.trans earlier.ready
  error := later.error.trans earlier.error
  mq := later.mq.trans earlier.mq
  hw := later.hw.trans earlier.hw
  timer := later.timer.trans earlier.timer
  isBooted := later.isBooted.trans earlier.isBooted
  valid := later.valid.trans earlier.valid
  dramCfg := later.dramCfg.trans earlier.dramCfg
  mask := later.mask.trans earlier.mask
  enabled line notStart notPhymstr notPhyupd :=
    (later.enabled line notStart notPhymstr notPhyupd).trans
      (earlier.enabled line notStart notPhymstr notPhyupd)

omit [KernelIo] [BuildConfig] in
theorem Fw.DfiFrame.fswFrame {before after : Fw} (frame : before.DfiFrame after) :
    before.FswFrame after where
  ready := frame.ready
  error := frame.error
  mq := frame.mq
  hw := frame.hw
  timer := frame.timer
  isBooted := frame.isBooted
  valid := frame.valid
  dramCfg := frame.dramCfg
  mask := frame.mask
  enabled line _ := frame.enabled line

theorem Fw.fswFrame_beforeRelease (fw : Fw) : fw.FswFrame fw.beforeRelease := by
  have sent : fw.FswFrame fw.sendPrepared := by
    constructor <;> simp [Fw.sendPrepared, Fw.onWddr]
  unfold Fw.beforeRelease
  split
  · exact sent.trans fw.sendPrepared.dfiFrame_abortPhyUpd.fswFrame
  · exact sent.trans fw.sendPrepared.dfiFrame_abortPhyMstr.fswFrame
  · exact sent

theorem Fw.fswFrame_enterPending (fw : Fw) : fw.FswFrame fw.enterPending := by
  have released : fw.beforeRelease.FswFrame fw.enterPending := by
    constructor <;> simp [Fw.enterPending, Fw.onWddr]
  exact fw.fswFrame_beforeRelease.trans released

theorem Fw.enterPending_pll (fw : Fw) :
    fw.enterPending.wddr.pll = fw.wddr.pll.pllSetLockInterruptState true := by
  unfold Fw.enterPending Fw.beforeRelease
  split <;> rfl

theorem Fw.sound_enterPending {fw : Fw} {current : VcoIndex}
    (sound : fw.wddr.Sound current) : fw.enterPending.wddr.Sound current := by
  have frame := fw.fswFrame_enterPending
  apply sound.of_similar
  constructor
  · rw [fw.enterPending_pll]
    exact Pll.setInterruptState_same sound.settled.layout _ _
  · exact frame.isBooted
  · exact frame.dramCfg
  · exact frame.valid

omit [BuildConfig] in
theorem Fw.fswFrame_finishSwitch (fw : Fw) : fw.FswFrame fw.finishSwitch := by
  constructor <;> simp [Fw.finishSwitch]

omit [BuildConfig] in
theorem Fw.finishSwitch_pll (fw : Fw) :
    fw.finishSwitch.wddr.pll =
      (fw.wddr.pll.switchAndDisable false).pllSetLockInterruptState false := rfl

omit [BuildConfig] in
/-- The switch moves to the prepared VCO, or stays when none is prepared. -/
theorem Fw.sound_finishSwitch {fw : Fw} {current : VcoIndex}
    (sound : fw.wddr.Sound current) :
    fw.finishSwitch.wddr.Sound (fw.wddr.pll.pVcoNext.getD current) := by
  have frame := fw.fswFrame_finishSwitch
  cases prepared : fw.wddr.pll.pVcoNext with
  | some next =>
      have switched := sound.pllSwitch prepared false
      apply switched.of_similar
      constructor
      · rw [fw.finishSwitch_pll]
        exact Pll.setInterruptState_same switched.settled.layout _ _
      · exact frame.isBooted
      · exact frame.dramCfg
      · exact frame.valid
  | none =>
      apply sound.of_similar
      constructor
      · rw [fw.finishSwitch_pll,
          Pll.switchAndDisable_of_unprepared sound.settled prepared]
        exact Pll.setInterruptState_same sound.settled.layout _ _
      · exact frame.isBooted
      · exact frame.dramCfg
      · exact frame.valid

variable [Device]

/-- The firmware after the preparation of a valid frequency. -/
def Fw.prepared (freqId : UInt8) (current : VcoIndex) (fw : Fw) : Fw :=
  { fw with
    wddr := ((fw.wddr.onIrq (Irq.disableIrq .initStart)).preparedFor freqId
      fw.hw.currentMsr.other current).announced
    fsw := .prep }

/-- What a build without assertions makes of an invalid frequency. -/
def Fw.unprepared (fw : Fw) : Fw :=
  { fw with
    wddr := (fw.wddr.onIrq (Irq.disableIrq .initStart)).announced
    fsw := .prep }

omit [BuildConfig] in
theorem Fw.fswFrame_prepared (freqId : UInt8) (current : VcoIndex) (fw : Fw) :
    fw.FswFrame (fw.prepared freqId current) := by
  constructor
  case enabled =>
    intro line notStart _ _
    simp [Fw.prepared, Wddr.announced, Wddr.preparedFor, Irq.enableIrq, Irq.disableIrq,
      notStart]
  all_goals simp [Fw.prepared, Wddr.announced, Wddr.preparedFor, Irq.enableIrq, Irq.disableIrq]

omit [BuildConfig] [Device] in
theorem Fw.fswFrame_unprepared (fw : Fw) : fw.FswFrame fw.unprepared := by
  constructor
  case enabled =>
    intro line notStart _ _
    simp [Fw.unprepared, Wddr.announced, Irq.enableIrq, Irq.disableIrq, notStart]
  all_goals simp [Fw.unprepared, Wddr.announced, Irq.enableIrq, Irq.disableIrq]

theorem Fw.prepareSwitch_of_valid {fw : Fw} {current : VcoIndex}
    (sound : fw.wddr.Sound current) {freqId : UInt8}
    (valid : fw.wddr.table.validFreq freqId = true) :
    fw.prepareSwitch freqId = .ok (fw.prepared freqId current) := by
  have soundDisabled := sound.of_similar
    (fw.wddr.similar_onIrq (Irq.disableIrq .initStart))
  unfold Fw.prepareSwitch
  rw [Wddr.wddrPrepSwitch_of_valid soundDisabled valid]
  simp only [bind, Except.bind, decide_true, configASSERT_true, pure, Except.pure]
  rfl

/-- An invalid frequency is caught by the assertion only. -/
theorem Fw.prepareSwitch_of_invalid {fw : Fw} {freqId : UInt8}
    (invalid : fw.wddr.table.validFreq freqId = false) :
    fw.prepareSwitch freqId =
      if BuildConfig.configAssert then .error (.assertion .fswPrepareSwitchHandler)
      else .ok fw.unprepared := by
  unfold Fw.prepareSwitch
  have sameTable : (fw.wddr.onIrq (Irq.disableIrq .initStart)).table.validFreq freqId = false :=
    invalid
  rw [Wddr.wddrPrepSwitch_of_invalid sameTable]
  simp only [bind, Except.bind, configASSERT, pure, Except.pure, reduceCtorEq, decide_false,
    Bool.not_false, Bool.and_true]
  cases BuildConfig.configAssert <;> rfl

theorem Fw.eq_of_prepareSwitch {fw after : Fw} {current : VcoIndex}
    (sound : fw.wddr.Sound current) {freqId : UInt8}
    (prepared : fw.prepareSwitch freqId = .ok after) :
    (fw.wddr.table.validFreq freqId = true ∧ after = fw.prepared freqId current) ∨
      (fw.wddr.table.validFreq freqId = false ∧ BuildConfig.configAssert = false ∧
        after = fw.unprepared) := by
  cases valid : fw.wddr.table.validFreq freqId with
  | true =>
      rw [Fw.prepareSwitch_of_valid sound valid, Except.ok.injEq] at prepared
      exact .inl ⟨rfl, prepared.symm⟩
  | false =>
      rw [Fw.prepareSwitch_of_invalid valid] at prepared
      cases asserts : BuildConfig.configAssert with
      | true => simp [asserts] at prepared
      | false =>
          simp only [asserts, Bool.false_eq_true, if_false, Except.ok.injEq] at prepared
          exact .inr ⟨rfl, rfl, prepared.symm⟩

omit [BuildConfig] in
theorem Fw.prepared_fsw (freqId : UInt8) (current : VcoIndex) (fw : Fw) :
    (fw.prepared freqId current).fsw = .prep := rfl

omit [BuildConfig] in
theorem Fw.prepared_dfi (freqId : UInt8) (current : VcoIndex) (fw : Fw) :
    (fw.prepared freqId current).dfi = fw.dfi := rfl

omit [BuildConfig] in
theorem Fw.prepared_dfiRegs (freqId : UInt8) (current : VcoIndex) (fw : Fw) :
    (fw.prepared freqId current).wddr.dfi = fw.wddr.dfi := by
  simp [Fw.prepared, Wddr.announced, Wddr.preparedFor]

omit [BuildConfig] in
theorem Fw.sound_prepared {fw : Fw} {current : VcoIndex} (sound : fw.wddr.Sound current)
    {freqId : UInt8} (valid : fw.wddr.table.validFreq freqId = true) :
    (fw.prepared freqId current).wddr.Sound current := by
  have soundDisabled := sound.of_similar
    (fw.wddr.similar_onIrq (Irq.disableIrq .initStart))
  have soundPrepared := soundDisabled.preparedFor valid fw.hw.currentMsr.other
  exact soundPrepared.of_similar (Wddr.similar_announced _)

omit [BuildConfig] [Device] in
theorem Fw.sound_unprepared {fw : Fw} {current : VcoIndex}
    (sound : fw.wddr.Sound current) : fw.unprepared.wddr.Sound current := by
  have soundDisabled := sound.of_similar
    (fw.wddr.similar_onIrq (Irq.disableIrq .initStart))
  exact soundDisabled.of_similar (Wddr.similar_announced _)

end FswFrame

section Runs

variable [KernelIo] [BuildConfig]

/-- The device of a firmware: booted once it is ready, and on PHY VCO 1 when a boot is
repeated. -/
structure Fw.DeviceSound (fw : Fw) (current : VcoIndex) : Prop where
  sound : fw.wddr.Sound current
  booted : fw.ready = true → fw.wddr.isBooted = true
  aligned : fw.wddr.isBooted = true → fw.ready = false → current = .phy1

omit [BuildConfig] in
/-- Nothing that soundness is about changed. -/
theorem Fw.DeviceSound.of_similar {before after : Fw} {current : VcoIndex}
    (sound : before.DeviceSound current) (similar : Wddr.Similar before.wddr after.wddr)
    (sameReady : after.ready = before.ready) : after.DeviceSound current where
  sound := sound.sound.of_similar similar
  booted ready := by
    rw [similar.isBooted]
    exact sound.booted (sameReady ▸ ready)
  aligned isBooted notReady :=
    sound.aligned (similar.isBooted ▸ isBooted) (sameReady ▸ notReady)

omit [BuildConfig] in
theorem Fw.DeviceSound.current_ne_mcu {fw : Fw} {current : VcoIndex}
    (sound : fw.DeviceSound current) (ready : fw.ready = true) : current ≠ .mcu :=
  sound.sound.booted (sound.booted ready)

omit [BuildConfig] in
theorem Wddr.similar_released {wddr : Wddr} {current : VcoIndex}
    (sound : wddr.Sound current) : wddr.Similar wddr.released where
  vcos := Pll.setInterruptState_same sound.settled.layout _ _
  isBooted := rfl
  dramCfg := rfl
  valid := rfl

omit [BuildConfig] in
theorem Fw.deviceSound_finishStart {fw : Fw} {current : VcoIndex}
    {booted : WddrReturn × Wddr} (sound : fw.DeviceSound current) (notReady : fw.ready = false)
    (ends : Wddr.BootEnds fw.wddr current booted) :
    ∃ next, (fw.finishStart booted).2.DeviceSound next := by
  unfold Fw.finishStart
  rcases ends with ⟨succeeded, handed, soundAfter⟩ | ⟨failed, quiet, soundAfter⟩
  · rw [if_neg (not_not_intro succeeded)]
    have soundReleased := soundAfter.of_similar (Wddr.similar_released soundAfter)
    have isBooted : booted.2.released.isBooted = true := handed.isBooted
    split
    · exact ⟨.phy1, soundReleased, fun _ => isBooted, fun _ _ => rfl⟩
    · exact ⟨.phy1, soundReleased, fun _ => isBooted, fun _ _ => rfl⟩
  · rw [if_pos failed]
    refine ⟨_, soundAfter, ?_, ?_⟩
    · intro ready
      rw [notReady] at ready
      cases ready
    · intro isBooted _
      have wasBooted : fw.wddr.isBooted = true := quiet.isBooted ▸ isBooted
      rw [Wddr.afterSwSwitch, if_pos wasBooted]
      exact sound.aligned wasBooted notReady

variable [Device]

theorem FswStep.deviceSound {data : MsgData} {fw after : Fw} {event : FwPhyEvent}
    {current : VcoIndex} (step : FswStep data fw event after) (sound : fw.DeviceSound current)
    (ready : fw.ready = true) : ∃ next, after.DeviceSound next := by
  have readyStays : ∀ {after : Fw}, fw.FswFrame after → after.ready = false → False := by
    intro after frame notReady
    rw [frame.ready, ready] at notReady
    cases notReady
  have bootedStays : ∀ {after : Fw}, fw.FswFrame after → after.wddr.isBooted = true := by
    intro after frame
    rw [frame.isBooted]
    exact sound.booted ready
  cases step with
  | ignored => exact ⟨current, sound⟩
  | prep inPrep prepared =>
      rcases Fw.eq_of_prepareSwitch sound.sound prepared with ⟨valid, rfl⟩ | ⟨-, -, rfl⟩
      · have frame := fw.fswFrame_prepared data.freqId current
        exact ⟨current, Fw.sound_prepared sound.sound valid, fun _ => bootedStays frame,
          fun _ notReady => (readyStays frame notReady).elim⟩
      · have frame := fw.fswFrame_unprepared
        exact ⟨current, Fw.sound_unprepared sound.sound, fun _ => bootedStays frame,
          fun _ notReady => (readyStays frame notReady).elim⟩
  | initStart inPrep =>
      have frame := fw.fswFrame_enterPending
      exact ⟨current, Fw.sound_enterPending sound.sound, fun _ => bootedStays frame,
        fun _ notReady => (readyStays frame notReady).elim⟩
  | pllLock pending =>
      have frame := fw.fswFrame_finishSwitch
      exact ⟨_, Fw.sound_finishSwitch sound.sound, fun _ => bootedStays frame,
        fun _ notReady => (readyStays frame notReady).elim⟩

theorem FswStep.frame {data : MsgData} {fw after : Fw} {event : FwPhyEvent}
    {current : VcoIndex} (step : FswStep data fw event after) (sound : fw.wddr.Sound current) :
    fw.FswFrame after := by
  cases step with
  | ignored => exact .refl fw
  | prep inPrep prepared =>
      rcases Fw.eq_of_prepareSwitch sound prepared with ⟨-, rfl⟩ | ⟨-, -, rfl⟩
      · exact fw.fswFrame_prepared _ _
      · exact fw.fswFrame_unprepared
  | initStart inPrep => exact fw.fswFrame_enterPending
  | pllLock pending => exact fw.fswFrame_finishSwitch

omit [BuildConfig] [Device] in
/-- The end of a BOOT leaves the queue and the machines alone. -/
theorem Fw.finishStart_frame (booted : WddrReturn × Wddr) (fw : Fw) :
    (fw.finishStart booted).2.mq = fw.mq ∧ (fw.finishStart booted).2.fsw = fw.fsw ∧
      (fw.finishStart booted).2.dfi = fw.dfi := by
  unfold Fw.finishStart
  split
  · exact ⟨rfl, rfl, rfl⟩
  · split <;> exact ⟨rfl, rfl, rfl⟩

theorem Handled.mq {data : MsgData} {fw after : Fw} {event : FwPhyEvent}
    {response : FwResponse} {current : VcoIndex} (ran : Handled data fw event response after)
    (device : fw.DeviceSound current) : after.mq = fw.mq := by
  cases ran with
  | refused => rfl
  | start => exact (fw.finishStart_frame _).1
  | dfi _ _ _ step => exact step.frame.mq
  | fsw _ _ _ step => exact (step.frame device.sound).mq

theorem Handled.deviceSound {data : MsgData} {fw after : Fw} {event : FwPhyEvent}
    {response : FwResponse} {current : VcoIndex}
    (ran : Handled data fw event response after) (sound : fw.DeviceSound current) :
    ∃ next, after.DeviceSound next := by
  cases ran with
  | refused => exact ⟨current, sound⟩
  | start notReady boots =>
      have aligned := fun isBooted => sound.aligned isBooted notReady
      have ends := (Wddr.wddrBoot_ends sound.sound aligned fw.hw _).good_of_ok boots
      exact Fw.deviceSound_finishStart sound notReady ends
  | dfi _ _ _ step =>
      have frame := step.frame
      exact ⟨current, sound.of_similar frame.similar frame.ready⟩
  | fsw _ running _ step => exact step.deviceSound sound running.1

end Runs

namespace Sys

variable [Platform]

theorem deviceSound_of_initial {sys : Sys} (starts : system.initial sys) :
    ∃ current, sys.fw.DeviceSound current := by
  obtain ⟨table, reset, hw, timerStarts, valid, isReset, rfl⟩ := starts
  have sound := Wddr.sound_wddrInit isReset.vcosDisabled valid
  refine ⟨.mcu, sound, ?_, ?_⟩
  · intro ready
    cases ready
  · intro isBooted _
    exact absurd rfl (sound.booted isBooted)

theorem deviceSound_of_reachable {sys : Sys} (reachable : system.Reachable sys) :
    ∃ current, sys.fw.DeviceSound current := by
  apply reachable.invariant (motive := fun sys => ∃ current, sys.fw.DeviceSound current)
  · exact fun _ => deviceSound_of_initial
  · rintro label sys next _ _ taken ⟨current, sound⟩
    by_cases isProcess : label = .process
    · subst isProcess
      obtain ⟨msg, -, step⟩ := processStep_of_taken taken
      cases step with
      | unknown => exact ⟨current, sound⟩
      | failed => exact ⟨current, sound⟩
      | answered _ ran =>
          rw [answered_fw]
          exact ran.deviceSound sound
    · have same := sameControl_of_taken taken isProcess
      exact ⟨current, sound.of_similar same.device same.ready⟩

end Sys

end WavLpddr
