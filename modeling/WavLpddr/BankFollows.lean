import WavLpddr.BootBank
import WavLpddr.DramFollows

/-!
# The banks follow the frequency

The PHY registers come in two banks.  The hardware uses one of them, and a completed switch
moves it to the other.  Along every run the bank in use holds the frequency that the PLL runs,
and the other one holds the frequency of the prepared VCO: preparations configure the bank that
is not in use, the updates of the impedance keep the one that is, and the PLL switches to the
prepared VCO when the banks are swapped.  Which impedance codes a bank holds is left open, since
a calibration finds new ones before an update writes them.
-/

namespace WavLpddr

open Outcome TransitionSystem

section Device

variable [KernelIo] {wddr : Wddr} {active : WddrMsr}

/-- The bank in use holds the running frequency, and the other one the prepared frequency, each
with some impedance codes. -/
structure Wddr.BanksFollow (active : WddrMsr) (wddr : Wddr) : Prop where
  current : ∃ freqId, wddr.pll.pllGetCurrentFreq = .ok freqId ∧ wddr.Programmed freqId active
  next : ∀ vcoId, wddr.pll.pVcoNext = some vcoId →
    wddr.Programmed (wddr.pll.vco vcoId).freqId active.other

omit [KernelIo] in
theorem WddrMsr.other_other (msr : WddrMsr) : msr.other.other = msr := by
  cases msr <;> rfl

theorem Pll.pllGetCurrentFreq_same {before after : Pll} (same : Pll.SameVcos before after) :
    after.pllGetCurrentFreq = before.pllGetCurrentFreq := by
  rw [Pll.pllGetCurrentFreq, same.pVcoCurrent, same.vco, Pll.pllGetCurrentFreq]

namespace Wddr

theorem BanksFollow.of_same {before after : Wddr} (follows : before.BanksFollow active)
    (vcos : Pll.SameVcos before.pll after.pll)
    (banks : ∀ bank, SameBank bank before after) : after.BanksFollow active where
  current := by
    obtain ⟨freqId, running, programmed⟩ := follows.current
    exact ⟨freqId, (Pll.pllGetCurrentFreq_same vcos).trans running,
      programmed.of_sameBank (banks active)⟩
  next vcoId prepared := by
    rw [vcos.vco]
    exact (follows.next vcoId (vcos.pVcoNext ▸ prepared)).of_sameBank (banks active.other)

/-- The impedance update writes the bank in use, and leaves the running frequency there. -/
theorem BanksFollow.wddrIocalUpdatePhy {hw : HwStatus} {after : Wddr}
    (follows : wddr.BanksFollow active) (reports : hw.currentMsr = active)
    (updated : wddr.wddrIocalUpdatePhy hw = .ok after) : after.BanksFollow active := by
  subst reports
  obtain ⟨freqId, running, programmed⟩ := follows.current
  obtain ⟨zqcal, holds⟩ := programmed_iff_exists_holds.mp programmed
  rw [wddrIocalUpdatePhy_eq running programmed, wddrConfigurePhy_of_valid holds.valid] at updated
  obtain rfl := Except.ok.inj updated
  constructor
  · exact ⟨freqId, running, programmed_iff_exists_holds.mpr ⟨_, holds_configured holds.valid⟩⟩
  · exact fun vcoId prepared => (follows.next vcoId prepared).of_sameBank sameBank_configured

/-- A software or hardware switch to the prepared VCO goes with the swap of the banks. -/
theorem BanksFollow.switchAndDisable {next : VcoIndex} (follows : wddr.BanksFollow active)
    (prepared : wddr.pll.pVcoNext = some next) :
    (wddr.onPll (Pll.switchAndDisable false)).BanksFollow active.other := by
  obtain ⟨-, sameVco, onNext, cleared, -⟩ := Pll.switchAndDisable_pointers prepared false
  have same : ∀ bank, SameBank bank wddr (wddr.onPll (Pll.switchAndDisable false)) :=
    fun bank => by apply sameBank_of_same <;> rfl
  constructor
  · refine ⟨(wddr.pll.vco next).freqId, ?_, (follows.next next prepared).of_sameBank (same _)⟩
    change (Pll.switchAndDisable false wddr.pll).pllGetCurrentFreq = _
    rw [Pll.pllGetCurrentFreq, onNext, sameVco]
  · intro vcoId stillPrepared
    exact absurd (cleared.symm.trans stillPrepared) (by simp)

section Prepared

variable [Device]

/-- A preparation configures the other bank for the frequency of the spare VCO. -/
theorem BanksFollow.preparedFor {freqId : UInt8} {current : VcoIndex}
    (follows : wddr.BanksFollow active) (onVco : wddr.pll.pVcoCurrent = some current)
    (valid : wddr.table.validFreq freqId = true) :
    (wddr.preparedFor freqId active.other current).BanksFollow active := by
  constructor
  · obtain ⟨running, isRunning, programmed⟩ := follows.current
    refine ⟨running, ?_, ?_⟩
    · change (wddr.pll.prepareVco _ _ current.spare).pllGetCurrentFreq = _
      rw [← isRunning, Pll.pllGetCurrentFreq, Pll.prepareVco_pVcoCurrent, onVco]
      simp only [Pll.pllGetCurrentFreq, onVco,
        Pll.prepareVco_vco_of_ne freqId _ _ current.spare_ne.symm]
    · have same : SameBank active.other.other wddr
          (wddr.preparedFor freqId active.other current) := sameBank_preparedFor current
      rw [WddrMsr.other_other] at same
      exact programmed.of_sameBank same
  · intro vcoId prepared
    have isSpare : current.spare = vcoId := by
      change (wddr.pll.prepareVco _ _ current.spare).pVcoNext = _ at prepared
      rw [Pll.prepareVco_pVcoNext] at prepared
      exact Option.some.inj prepared
    subst isSpare
    change (wddr.preparedFor _ _ _).Programmed
      ((wddr.pll.prepareVco freqId _ current.spare).vco current.spare).freqId _
    rw [Pll.prepareVco_freqId_self]
    exact programmed_preparedFor valid current

end Prepared

end Wddr

end Device

section Firmware

variable {active bank : WddrMsr}

/-- The device has the same registers and the same table. -/
def Wddr.SameContents (before after : Wddr) : Prop :=
  after.phy = before.phy ∧ after.dfich = before.dfich ∧ after.table = before.table

theorem Wddr.SameContents.sameBank {before after : Wddr} (same : before.SameContents after) :
    Wddr.SameBank bank before after :=
  Wddr.sameBank_of_same same.1 same.2.1 same.2.2

theorem Wddr.SameContents.trans {first second third : Wddr} (earlier : first.SameContents second)
    (later : second.SameContents third) : first.SameContents third :=
  ⟨later.1.trans earlier.1, later.2.1.trans earlier.2.1, later.2.2.trans earlier.2.2⟩

theorem Fw.sameContents_sendToBack (msg : FwMsg) (fw : Fw) :
    fw.wddr.SameContents (fw.sendToBack msg).wddr := by
  rw [Fw.sendToBack_wddr]
  exact ⟨rfl, rfl, rfl⟩

theorem Fw.sameContents_runIsr (line : IrqLine) (data : MsgData) (xSender : Option TaskHandle)
    (late : List CtrlupdEdge) (fw : Fw) :
    fw.wddr.SameContents (fw.runIsr line data xSender late).wddr := by
  cases line with
  | pll =>
      unfold runIsr pllIrqHandler
      dsimp only
      split
      · rw [sendToBack_wddr]
        exact ⟨rfl, rfl, rfl⟩
      · exact ⟨rfl, rfl, rfl⟩
  | ctrlupdReq =>
      unfold runIsr handleDfiCtrlupdReqIrq
      dsimp only
      split
      · rw [notifyIsr, sendToBack_wddr]
        exact ⟨rfl, rfl, rfl⟩
      · split
        · rw [notifyIsr, sendToBack_wddr]
          exact ⟨rfl, rfl, rfl⟩
        · exact ⟨rfl, rfl, rfl⟩
  | _ =>
      simp only [runIsr, handleInitStartIrq, handleInitCompleteIrq, handleDfiPhyupdAckIrq,
        handleDfiPhymstrAckIrq, handleOneShotIrq, notifyIsr, sendToBack_wddr]
      exact ⟨rfl, rfl, rfl⟩

variable [KernelIo] {fw after : Fw}

theorem Fw.sameContents_unprepared (fw : Fw) :
    fw.wddr.SameContents fw.unprepared.wddr := by
  refine ⟨?_, ?_, ?_⟩ <;> simp [Fw.unprepared, Wddr.announced]

theorem Fw.sameContents_finishSwitch (fw : Fw) :
    (fw.wddr.onPll (Pll.switchAndDisable false)).SameContents fw.finishSwitch.wddr :=
  ⟨rfl, rfl, rfl⟩

theorem Fw.sameContents_prepared [Device] (freqId : UInt8) (current : VcoIndex) (fw : Fw) :
    (fw.wddr.preparedFor freqId fw.hw.currentMsr.other current).SameContents
      (fw.prepared freqId current).wddr := by
  refine ⟨?_, ?_, ?_⟩ <;> simp [Fw.prepared, Wddr.announced, Wddr.preparedFor]

variable [BuildConfig]

/-- Entering a switch sends what is in the FIFO and leaves the banks alone. -/
theorem Fw.sameBank_enterPending (fw : Fw) : Wddr.SameBank bank fw.wddr fw.enterPending.wddr := by
  have outside : DfiChannel.OutsideFifo fw.wddr.dfich
      fw.wddr.dfich.dfiBufferSendPackets.dfiBufferDisable :=
    (DfiChannel.outsideFifo_dfiBufferSendPackets _).trans
      (DfiChannel.outsideFifo_dfiBufferDisable _)
  have sent : Wddr.SameBank bank fw.wddr
      (fw.wddr.onDfich fun dfich => dfich.dfiBufferSendPackets.dfiBufferDisable) :=
    Wddr.sameBank_onDfich outside
  have prepared : Wddr.SameContents
      (fw.wddr.onDfich fun dfich => dfich.dfiBufferSendPackets.dfiBufferDisable)
      fw.sendPrepared.wddr := by
    refine ⟨?_, ?_, ?_⟩ <;> simp [Fw.sendPrepared, Fw.onWddr]
  have aborted : fw.sendPrepared.wddr.SameContents fw.beforeRelease.wddr := by
    unfold Fw.beforeRelease
    split
    · refine ⟨?_, ?_, ?_⟩ <;> simp [Fw.abortPhyUpd]
    · refine ⟨?_, ?_, ?_⟩ <;> simp [Fw.abortPhyMstr, Fw.completePhyMstr]
    · exact ⟨rfl, rfl, rfl⟩
  have released : fw.beforeRelease.wddr.SameContents fw.enterPending.wddr := by
    refine ⟨?_, ?_, ?_⟩ <;> simp [Fw.enterPending, Fw.onWddr]
  exact sent.trans ((prepared.trans aborted).trans released).sameBank

/-- What the DFI machine's steps do to the banks. -/
theorem DfiStep.banksFollow {data : MsgData} {event : FwPhyEvent}
    (follows : fw.wddr.BanksFollow active) (reports : fw.hw.currentMsr = active)
    (step : DfiStep data fw event after) : after.wddr.BanksFollow active := by
  have frame := step.frame
  cases step with
  | ctrlupdAssert idle entered =>
      unfold Fw.enterCtrlUpd at entered
      cases calibrated : fw.wddr.wddrIocalCalibrate fw.hw with
      | error fault => simp [calibrated, bind, Except.bind] at entered
      | ok between =>
          simp only [calibrated, bind, Except.bind] at entered
          split at entered
          · cases entered
          · rename_i wddr updated
            obtain rfl := Except.ok.inj entered
            have kept : between.BanksFollow active := by
              obtain ⟨zqcal, cmn, becomes⟩ := Wddr.eq_of_wddrIocalCalibrate calibrated
              apply follows.of_same
              · rw [becomes]
                exact .refl _
              · exact fun bank => Wddr.sameBank_of_wddrIocalCalibrate calibrated
            refine (kept.wddrIocalUpdatePhy reports updated).of_same ?_ ?_
            · exact .refl _
            · exact fun bank => Wddr.SameContents.sameBank ⟨rfl, rfl, rfl⟩
  | phyupdAck updating finished =>
      unfold Fw.finishPhyUpd at finished
      cases updated : fw.wddr.wddrIocalUpdatePhy fw.hw with
      | error fault => simp [updated, bind, Except.bind] at finished
      | ok wddr =>
          simp only [updated, bind, Except.bind] at finished
          obtain rfl := Except.ok.inj finished
          refine (follows.wddrIocalUpdatePhy reports updated).of_same ?_ ?_
          · exact .refl _
          · exact fun bank => Wddr.SameContents.sameBank ⟨rfl, rfl, rfl⟩
  | _ =>
      apply follows.of_same frame.similar.vcos
      exact fun bank => Wddr.SameContents.sameBank ⟨rfl, rfl, rfl⟩

/-- A boot that succeeds leaves bank 0 with the running frequency. -/
theorem Fw.banksFollow_finishStart [Device] {current : VcoIndex} {booted : WddrReturn × Wddr}
    {bootCfg : WddrBootCfg} (device : fw.wddr.Sound current) (notBooted : fw.wddr.isBooted = false)
    (onBank0 : fw.hw.currentMsr = .msr0) (unprepared : fw.wddr.pll.pVcoNext = none)
    (boots : fw.wddr.wddrBoot fw.hw bootCfg = .ok booted) (notReady : fw.ready = false)
    (ready : (fw.finishStart booted).2.ready = true) :
    (fw.finishStart booted).2.wddr.BanksFollow .msr0 := by
  have noNext : booted.2.pll.pVcoNext = none :=
    (Wddr.staysUnprepared_wddrBoot _ _ unprepared).good_of_ok boots
  obtain ⟨succeeded, -, ended⟩ := Fw.finishStart_of_ready notReady ready
  rw [ended]
  obtain ⟨ret, after⟩ := booted
  obtain rfl : ret = .wddrSuccess := succeeded
  have atBoot := Wddr.atBoot_of_wddrBoot device notBooted onBank0 boots
  have same : after.SameContents after.released := ⟨rfl, rfl, rfl⟩
  constructor
  · exact ⟨wddrPhyBootFreq, atBoot.running, atBoot.programmed.of_sameBank same.sameBank⟩
  · intro vcoId prepared
    exact absurd (noNext.symm.trans prepared) (by simp)

end Firmware

namespace Sys

section Observed

variable [Platform]

theorem FwEffect.sameBank {sys : Sys} {label : Label} {after : Fw} {bank : WddrMsr}
    (effect : FwEffect sys label after) : Wddr.SameBank bank sys.fw.wddr after.wddr := by
  cases effect with
  | sent => exact (Fw.sameContents_sendToBack _ _).sameBank
  | calibrated ran => exact Wddr.sameBank_of_wddrIocalCalibrate ran
  | isr => exact (Fw.sameContents_runIsr _ _ _ _ _).sameBank
  | _ => exact Wddr.SameContents.sameBank ⟨rfl, rfl, rfl⟩

/-- The step completes a switch. -/
def Completes (label : Label) (sys : Sys) : Prop :=
  Handles label sys fun msg => msg.Is .pllLock ∧ sys.fw.Running ∧ sys.fw.dfi ≠ .ctrlUpd ∧
    sys.fw.fsw = .pending

instance (label : Label) (sys : Sys) : Decidable (Completes label sys) :=
  inferInstanceAs (Decidable (Handles _ _ _))

/-- The hardware uses the other bank after a switch. -/
def observeBank (label : Label) (sys : Sys) (active : WddrMsr) : WddrMsr :=
  if Completes label sys then active.other else active

/-- The system with the bank that the hardware uses. -/
abbrev bankObserved : TransitionSystem (Sys × WddrMsr) Label :=
  monitored system .msr0 observeBank

/-- The hardware reports the bank in use whenever a message is handled outside of a switch,
and every switch that completes was prepared. -/
def ReportsBank : StepCondition (Sys × WddrMsr) Label := fun label pair =>
  (Handles label pair.1 (fun _ => pair.1.fw.fsw ≠ .pending) →
      pair.1.fw.hw.currentMsr = pair.2) ∧
    (Completes label pair.1 → pair.1.fw.wddr.pll.pVcoNext.isSome)

instance (label : Label) (pair : Sys × WddrMsr) : Decidable (ReportsBank label pair) :=
  inferInstanceAs (Decidable (_ ∧ _))

/-- What the banks hold between two steps. -/
structure BankSound (pair : Sys × WddrMsr) : Prop where
  onBank0 : pair.1.fw.ready = false → pair.2 = .msr0
  notPending : pair.1.fw.ready = false → pair.1.fw.fsw ≠ .pending
  follows : pair.1.fw.Running → pair.1.fw.wddr.BanksFollow pair.2

/-- A step that only moves the contents of the banks. -/
theorem BankSound.of_follows {sys next : Sys} {active : WddrMsr} (sound : BankSound (sys, active))
    (ready : next.fw.ready = sys.fw.ready) (fsw : next.fw.fsw = sys.fw.fsw)
    (follows : next.fw.Running → next.fw.wddr.BanksFollow active) : BankSound (next, active) where
  onBank0 notReady := sound.onBank0 (ready ▸ notReady)
  notPending notReady := fsw ▸ sound.notPending (ready ▸ notReady)
  follows := follows

theorem BankSound.of_same {sys next : Sys} {active : WddrMsr} (sound : BankSound (sys, active))
    (control : sys.fw.SameControl next.fw)
    (banks : ∀ bank, Wddr.SameBank bank sys.fw.wddr next.fw.wddr) : BankSound (next, active) := by
  apply sound.of_follows control.ready control.fsw
  intro running
  have wasRunning : sys.fw.Running := by
    rw [Fw.Running, ← control.ready, ← control.error]
    exact running
  exact (sound.follows wasRunning).of_same control.device.vcos banks

/-- A ready firmware is only judged by its banks. -/
theorem BankSound.of_ready {sys : Sys} {active : WddrMsr} (ready : sys.fw.ready = true)
    (follows : sys.fw.wddr.BanksFollow active) : BankSound (sys, active) := by
  have notReady : sys.fw.ready ≠ false := by simp [ready]
  exact ⟨fun unready => absurd unready notReady, fun unready => absurd unready notReady,
    fun _ => follows⟩

omit [Platform] in
theorem completes_iff {sys : Sys} {msg : FwMsg} {event : FwPhyEvent}
    (task : sys.fwTask = .process msg) (decoded : FwPhyEvent.ofCode? msg.event = some event) :
    Completes .process sys ↔ event = .pllLock ∧ sys.fw.Running ∧ sys.fw.dfi ≠ .ctrlUpd ∧
      sys.fw.fsw = .pending := by
  have isEvent : msg.Is .pllLock ↔ event = .pllLock := by
    rw [FwMsg.Is, ← FwPhyEvent.ofCode?_eq_some_iff, decoded, Option.some.injEq]
  rw [Completes, handles_process task, isEvent]

omit [Platform] in
theorem observeBank_of_not {label : Label} {sys : Sys} (outside : ¬ Completes label sys)
    (active : WddrMsr) : observeBank label sys active = active :=
  if_neg outside

theorem bankSound_of_start {sys : Sys} {active : WddrMsr} {msg : FwMsg} {current : VcoIndex}
    {bootCfg : WddrBootCfg} {booted : WddrReturn × Wddr} (sound : BankSound (sys, active))
    (device : sys.fw.wddr.Sound current) (fresh : sys.fw.BeforeBoot)
    (reports : sys.fw.hw.currentMsr = active) (notReady : sys.fw.ready = false)
    (boots : sys.fw.wddr.wddrBoot sys.fw.hw bootCfg = .ok booted) :
    BankSound (sys.answered msg (sys.fw.finishStart booted).1 (sys.fw.finishStart booted).2,
      active) := by
  have isBank0 : active = .msr0 := sound.onBank0 notReady
  subst isBank0
  have sameFsw := (sys.fw.finishStart_frame booted).2.1
  constructor
  · exact fun _ => rfl
  · intro _
    rw [answered_fw, sameFsw]
    exact sound.notPending notReady
  · intro running
    rw [answered_fw] at running ⊢
    have healthy : sys.fw.error = false := by
      have noError := running.2
      obtain ⟨-, -, ended⟩ := Fw.finishStart_of_ready notReady running.1
      rw [ended] at noError
      exact noError
    exact Fw.banksFollow_finishStart device (fresh.notBooted notReady healthy) reports
      (fresh.unprepared notReady) boots notReady running.1

theorem bankSound_answered {sys : Sys} {active : WddrMsr} {msg : FwMsg} {event : FwPhyEvent}
    {response : FwResponse} {after : Fw} {current : VcoIndex} (sound : BankSound (sys, active))
    (device : sys.fw.DeviceSound current) (fresh : sys.fw.BeforeBoot)
    (task : sys.fwTask = .process msg) (decoded : FwPhyEvent.ofCode? msg.event = some event)
    (reports : ReportsBank .process (sys, active))
    (ran : Handled msg.data sys.fw event response after) :
    BankSound (sys.answered msg response after, observeBank .process sys active) := by
  have completes := completes_iff task decoded
  have reported : sys.fw.fsw ≠ .pending → sys.fw.hw.currentMsr = active :=
    fun notPending => reports.1 ((handles_process task).mpr notPending)
  cases ran with
  | refused refusal =>
      have outside : ¬ Completes .process sys := by
        rw [completes]
        rintro ⟨rfl, running, admitted, -⟩
        rcases Fw.refusal_isSome refusal with notRunning | updating
        · exact notRunning running
        · exact admitted updating
      rw [observeBank_of_not outside]
      apply sound.of_same
      · rw [answered_fw]
        exact .refl _
      · rw [answered_fw]
        exact fun bank => .refl bank _
  | start notReady boots =>
      have outside : ¬ Completes .process sys := by
        rw [completes]
        rintro ⟨isLock, -⟩
        cases isLock
      rw [observeBank_of_not outside]
      exact bankSound_of_start sound device.sound fresh (reported (sound.notPending notReady))
        notReady boots
  | dfi kind running admitted step =>
      have outside : ¬ Completes .process sys := by
        rw [completes]
        rintro ⟨rfl, -⟩
        cases kind
      rw [observeBank_of_not outside]
      have frame := step.frame
      apply BankSound.of_ready
      · rw [answered_fw, frame.ready]
        exact running.1
      · rw [answered_fw]
        exact step.banksFollow (sound.follows running) (reported admitted)
  | fsw kind running admitted step =>
      have follows := sound.follows running
      cases step with
      | ignored unmatched =>
          have outside : ¬ Completes .process sys := by
            rw [completes]
            rintro ⟨rfl, -, -, pending⟩
            simp [pending, FswState.takes] at unmatched
          rw [observeBank_of_not outside]
          apply BankSound.of_ready
          · rw [answered_fw]
            exact running.1
          · rw [answered_fw]
            exact follows
      | prep inPrep prepared =>
          have outside : ¬ Completes .process sys := by
            rw [completes]
            rintro ⟨isLock, -⟩
            cases isLock
          rw [observeBank_of_not outside]
          have isActive := reported (by simp [inPrep])
          rcases Fw.eq_of_prepareSwitch device.sound prepared with ⟨valid, rfl⟩ | ⟨-, -, rfl⟩
          · apply BankSound.of_ready
            · rw [answered_fw, (sys.fw.fswFrame_prepared msg.data.freqId current).ready]
              exact running.1
            · rw [answered_fw]
              have onOther := follows.preparedFor device.sound.settled.pVcoCurrent valid
              rw [← isActive] at onOther
              rw [← isActive]
              refine onOther.of_same ?_ ?_
              · rw [sys.fw.prepared_pll]
                exact .refl _
              · exact fun bank => (sys.fw.sameContents_prepared _ current).sameBank
          · apply BankSound.of_ready
            · rw [answered_fw, sys.fw.fswFrame_unprepared.ready]
              exact running.1
            · rw [answered_fw]
              refine follows.of_same ?_ ?_
              · exact .refl _
              · exact fun bank => sys.fw.sameContents_unprepared.sameBank
      | initStart inPrep =>
          have outside : ¬ Completes .process sys := by
            rw [completes]
            rintro ⟨isLock, -⟩
            cases isLock
          rw [observeBank_of_not outside]
          apply BankSound.of_ready
          · rw [answered_fw, sys.fw.fswFrame_enterPending.ready]
            exact running.1
          · rw [answered_fw]
            refine follows.of_same ?_ fun bank => sys.fw.sameBank_enterPending
            rw [sys.fw.enterPending_pll]
            exact Pll.setInterruptState_same device.sound.settled.layout _ _
      | pllLock pending =>
          have inside : Completes .process sys :=
            completes.mpr ⟨rfl, running, admitted, pending⟩
          rw [observeBank, if_pos inside]
          obtain ⟨next, prepared⟩ := Option.isSome_iff_exists.mp (reports.2 inside)
          have switched := device.sound.pllSwitch prepared false
          apply BankSound.of_ready
          · rw [answered_fw, sys.fw.fswFrame_finishSwitch.ready]
            exact running.1
          · rw [answered_fw]
            refine (follows.switchAndDisable prepared).of_same ?_ ?_
            · rw [sys.fw.finishSwitch_pll]
              exact Pll.setInterruptState_same switched.settled.layout _ _
            · exact fun bank => sys.fw.sameContents_finishSwitch.sameBank

theorem bankSound_of_taken {sys next : Sys} {active : WddrMsr} {label : Label}
    (reachable : system.Reachable sys) (sound : BankSound (sys, active))
    (reports : ReportsBank label (sys, active)) (taken : system.step label sys = some next) :
    BankSound (next, observeBank label sys active) := by
  by_cases isProcess : label = .process
  · subst isProcess
    obtain ⟨current, device⟩ := deviceSound_of_reachable reachable
    obtain ⟨msg, task, step⟩ := processStep_of_taken taken
    cases step with
    | unknown undecoded =>
        have outside : ¬ Completes .process sys := by
          intro completes
          have isLock := ((handles_process task).mp completes).1
          rw [FwPhyEvent.ofCode?_eq_some_iff.mpr isLock] at undecoded
          cases undecoded
        rw [observeBank_of_not outside]
        exact sound.of_same (.refl _) fun bank => .refl bank _
    | failed decoded stopped =>
        have outside : ¬ Completes .process sys := by
          rw [completes_iff task decoded]
          rintro ⟨rfl, -, -, pending⟩
          obtain ⟨-, -, failed⟩ := Fw.guarded_error stopped
          simp [Fw.fswTransition, pending] at failed
        rw [observeBank_of_not outside]
        exact sound.of_same (.refl _) fun bank => .refl bank _
    | answered decoded ran =>
        exact bankSound_answered sound device (beforeBoot_of_reachable reachable) task decoded
          reports ran
  · have other := otherStep_of_taken taken isProcess
    have outside : ¬ Completes label sys := by
      intro completes
      obtain ⟨-, isHandled, -⟩ := exists_of_handles completes
      exact isProcess isHandled
    rw [observeBank_of_not outside]
    exact sound.of_same other.effect.sameControl fun bank => other.effect.sameBank

theorem bankSound_of_reachableWhere {pair : Sys × WddrMsr}
    (reachable : bankObserved.ReachableWhere ReportsBank pair) : BankSound pair := by
  apply reachable.invariant (motive := BankSound)
  · rintro ⟨sys, active⟩ ⟨⟨table, reset, hw, timerStarts, -, -, rfl⟩, rfl⟩
    constructor
    · exact fun _ => rfl
    · exact fun _ pending => absurd pending (by simp [started])
    · intro running
      exact absurd running.1 (by simp [started])
  · rintro label ⟨sys, active⟩ next before reports taken sound
    obtain ⟨moved, stepped, rfl⟩ := Option.map_eq_some_iff.mp taken
    exact bankSound_of_taken before.of_monitored sound reports stepped

/-- Along every run in which the hardware swaps the banks when a switch completes, the bank in
use holds the frequency that the PLL runs, and the other one the prepared frequency, up to the
impedance codes. -/
theorem banksFollow_of_reachableWhere {pair : Sys × WddrMsr}
    (reachable : bankObserved.ReachableWhere ReportsBank pair) (running : pair.1.fw.Running) :
    pair.1.fw.wddr.BanksFollow pair.2 :=
  (bankSound_of_reachableWhere reachable).follows running

/-- When an update of the impedance begins, with new codes or with the old ones, it writes what
a configuration of the whole bank would write. -/
theorem updates_reconfigure {pair : Sys × WddrMsr}
    (reachable : bankObserved.ReachableWhere ReportsBank pair) (running : pair.1.fw.Running)
    (reports : pair.1.fw.hw.currentMsr = pair.2) :
    ∃ freqId, pair.1.fw.wddr.pll.pllGetCurrentFreq = .ok freqId ∧
      pair.1.fw.wddr.wddrIocalUpdatePhy pair.1.fw.hw =
        pair.1.fw.wddr.wddrConfigurePhy freqId pair.2 ∧
      ∀ calibrated, pair.1.fw.wddr.wddrIocalCalibrate pair.1.fw.hw = .ok calibrated →
        calibrated.wddrIocalUpdatePhy pair.1.fw.hw =
          calibrated.wddrConfigurePhy freqId pair.2 := by
  have follows := (bankSound_of_reachableWhere reachable).follows running
  obtain ⟨freqId, isRunning, programmed⟩ := follows.current
  rw [← reports] at programmed ⊢
  refine ⟨freqId, isRunning, Wddr.wddrIocalUpdatePhy_eq isRunning programmed, ?_⟩
  intro calibrated ran
  have sameBank : Wddr.SameBank pair.1.fw.hw.currentMsr pair.1.fw.wddr calibrated :=
    Wddr.sameBank_of_wddrIocalCalibrate ran
  apply Wddr.wddrIocalUpdatePhy_eq _ (programmed.of_sameBank sameBank)
  obtain ⟨zqcal, cmn, rfl⟩ := Wddr.eq_of_wddrIocalCalibrate ran
  exact isRunning

end Observed

/-- The hardware reports the other bank, as it does after a switch. -/
def reportBank1 : List Label := [.report { referenceHw with currentMsr := .msr1 } true]

/-- A switch of the reference system, and another preparation. -/
def switchedBanks : List Label :=
  bootRun ++ prepRun 0 ++ initStartIrq ++ handleNext ++ reportBank1 ++ pllLockIrq ++
    handleNext ++ prepRun 1

/-- The system after these steps, which uses bank 1. -/
def switchedPair : Sys × WddrMsr :=
  observedAfterWhere observeBank .msr0 ReportsBank switchedBanks (by decide +kernel)

theorem banksFollow_switchedPair :
    let := referencePlatform
    switchedPair.1.fw.wddr.BanksFollow switchedPair.2 :=
  @banksFollow_of_reachableWhere referencePlatform _ (reachable_observedAfterWhere _)
    (by decide +kernel)

theorem updates_reconfigure_switchedPair :
    let := referencePlatform
    ∃ freqId, switchedPair.1.fw.wddr.pll.pllGetCurrentFreq = .ok freqId ∧
      switchedPair.1.fw.wddr.wddrIocalUpdatePhy switchedPair.1.fw.hw =
        switchedPair.1.fw.wddr.wddrConfigurePhy freqId switchedPair.2 ∧
      ∀ calibrated,
        switchedPair.1.fw.wddr.wddrIocalCalibrate switchedPair.1.fw.hw = .ok calibrated →
          calibrated.wddrIocalUpdatePhy switchedPair.1.fw.hw =
            calibrated.wddrConfigurePhy freqId switchedPair.2 :=
  @updates_reconfigure referencePlatform _ (reachable_observedAfterWhere _)
    (by decide +kernel) (by decide +kernel)

end Sys

end WavLpddr
