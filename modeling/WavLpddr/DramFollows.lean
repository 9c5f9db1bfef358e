import WavLpddr.BootVco
import WavLpddr.PreparedSwitch
import WavLpddr.SentPackets

/-!
# The DRAM follows the frequency

A preparation fills the FIFO with the mode-register writes of its frequency, and entering the
switch sends them.  When the running frequency has the ratio of the boot frequency, at which
the writes are laid out, every rank has received the registers of the next frequency while the
switch is pending, and the PLL takes up this very frequency when it completes.
-/

namespace WavLpddr

open Outcome TransitionSystem

section Frames

/-- What the update of the mode registers depends on is the same. -/
structure Wddr.SameUpdate (before after : Wddr) : Prop where
  dfich : after.dfich = before.dfich
  freq : after.table.freq = before.table.freq
  valid : after.table.valid = before.table.valid
  vco : after.pll.vco = before.pll.vco
  pVcoCurrent : after.pll.pVcoCurrent = before.pll.pVcoCurrent
  pVcoNext : after.pll.pVcoNext = before.pll.pVcoNext

theorem Wddr.SameUpdate.refl (wddr : Wddr) : wddr.SameUpdate wddr :=
  ⟨rfl, rfl, rfl, rfl, rfl, rfl⟩

/-- The frequency of the prepared VCO, and of the running one. -/
def Wddr.vcoCfg (wddr : Wddr) (vcoId : VcoIndex) : DramFreqCfg :=
  (wddr.table.freq (wddr.pll.vco vcoId).freqId.toNat).dram

theorem Wddr.SameUpdate.vcoCfg {before after : Wddr} (same : before.SameUpdate after)
    (vcoId : VcoIndex) : after.vcoCfg vcoId = before.vcoCfg vcoId := by
  rw [Wddr.vcoCfg, same.freq, same.vco, Wddr.vcoCfg]

theorem Wddr.SameUpdate.freqAt {before after : Wddr} (same : before.SameUpdate after)
    (freqId : UInt8) : after.table.freqAt freqId = before.table.freqAt freqId := by
  rw [WddrTable.freqAt, WddrTable.validFreq_of_valid_eq same.valid, same.freq,
    WddrTable.freqAt]

theorem Wddr.SameUpdate.bootRatio {before after : Wddr} (same : before.SameUpdate after) :
    after.bootRatio = before.bootRatio := by
  rw [Wddr.bootRatio, same.freqAt, Wddr.bootRatio]

theorem Fw.sameUpdate_sendToBack (msg : FwMsg) (fw : Fw) :
    fw.wddr.SameUpdate (fw.sendToBack msg).wddr := by
  rw [Fw.sendToBack_wddr]
  exact .refl _

theorem Fw.sameUpdate_runIsr (line : IrqLine) (data : MsgData) (xSender : Option TaskHandle)
    (late : List CtrlupdEdge) (fw : Fw) :
    fw.wddr.SameUpdate (fw.runIsr line data xSender late).wddr := by
  cases line with
  | pll =>
      unfold runIsr pllIrqHandler
      dsimp only
      split
      · rw [sendToBack_wddr]
        exact ⟨rfl, rfl, rfl, rfl, rfl, rfl⟩
      · exact ⟨rfl, rfl, rfl, rfl, rfl, rfl⟩
  | ctrlupdReq =>
      unfold runIsr handleDfiCtrlupdReqIrq
      dsimp only
      split
      · rw [notifyIsr, sendToBack_wddr]
        exact ⟨rfl, rfl, rfl, rfl, rfl, rfl⟩
      · split
        · rw [notifyIsr, sendToBack_wddr]
          exact ⟨rfl, rfl, rfl, rfl, rfl, rfl⟩
        · exact ⟨rfl, rfl, rfl, rfl, rfl, rfl⟩
  | _ =>
      simp only [runIsr, handleInitStartIrq, handleInitCompleteIrq, handleDfiPhyupdAckIrq,
        handleDfiPhymstrAckIrq, handleOneShotIrq, notifyIsr, sendToBack_wddr]
      exact ⟨rfl, rfl, rfl, rfl, rfl, rfl⟩

theorem DfiStep.sameUpdate [KernelIo] [BuildConfig] {data : MsgData} {fw after : Fw}
    {event : FwPhyEvent}
    (step : DfiStep data fw event after) : fw.wddr.SameUpdate after.wddr := by
  cases step with
  | ctrlupdAssert idle entered =>
      obtain ⟨zqcal, phy, rfl⟩ := Fw.eq_of_enterCtrlUpd entered
      exact ⟨rfl, rfl, rfl, rfl, rfl, rfl⟩
  | phyupdAck updating finished =>
      obtain ⟨update, rfl⟩ := Fw.eq_of_finishPhyUpd finished
      exact ⟨rfl, rfl, rfl, rfl, rfl, rfl⟩
  | _ => exact ⟨rfl, rfl, rfl, rfl, rfl, rfl⟩

variable [KernelIo]

theorem Fw.sameUpdate_unprepared (fw : Fw) : fw.wddr.SameUpdate fw.unprepared.wddr := by
  constructor <;> simp [Fw.unprepared, Wddr.announced]

variable [Device]

theorem Fw.prepared_table (freqId : UInt8) (current : VcoIndex) (fw : Fw) :
    (fw.prepared freqId current).wddr.table = fw.wddr.table := by
  simp [Fw.prepared, Wddr.announced, Wddr.preparedFor]

theorem Fw.prepared_pll (freqId : UInt8) (current : VcoIndex) (fw : Fw) :
    (fw.prepared freqId current).wddr.pll =
      fw.wddr.pll.prepareVco freqId (fw.wddr.table.freq freqId.toNat).pll current.spare := by
  simp [Fw.prepared, Wddr.announced, Wddr.preparedFor]

theorem Fw.prepared_bootRatio (freqId : UInt8) (current : VcoIndex) (fw : Fw) :
    (fw.prepared freqId current).wddr.bootRatio = fw.wddr.bootRatio := by
  rw [Wddr.bootRatio, fw.prepared_table, Wddr.bootRatio]

/-- The prepared VCO has the new frequency, and the current one keeps its own. -/
theorem Fw.vcoCfg_prepared (freqId : UInt8) (current : VcoIndex) (fw : Fw) :
    (fw.prepared freqId current).wddr.vcoCfg current.spare =
        (fw.wddr.table.freq freqId.toNat).dram ∧
      (fw.prepared freqId current).wddr.vcoCfg current = fw.wddr.vcoCfg current := by
  obtain ⟨next, prepared, isFreq⟩ := (fw.switchPrepared_prepared freqId current).next
  obtain rfl : current.spare = next :=
    Option.some.inj ((fw.prepared_pVcoNext freqId current).symm.trans prepared)
  constructor
  · rw [Wddr.vcoCfg, isFreq, fw.prepared_table]
  · rw [Wddr.vcoCfg, fw.prepared_table, fw.prepared_pll,
      Pll.prepareVco_vco_of_ne _ _ _ current.spare_ne.symm, Wddr.vcoCfg]

section Switch

variable [BuildConfig]

omit [Device] in
theorem Fw.vcoCfg_enterPending (fw : Fw) (vcoId : VcoIndex) :
    fw.enterPending.wddr.vcoCfg vcoId = fw.wddr.vcoCfg vcoId := by
  have sent : fw.sendPrepared.wddr.table = fw.wddr.table := by
    simp [Fw.sendPrepared, Fw.onWddr]
  have aborted : fw.beforeRelease.wddr.table = fw.sendPrepared.wddr.table := by
    unfold Fw.beforeRelease
    split
    · simp [Fw.abortPhyUpd]
    · simp [Fw.abortPhyMstr, Fw.completePhyMstr]
    · rfl
  have released : fw.enterPending.wddr.table = fw.beforeRelease.wddr.table := by
    simp [Fw.enterPending, Fw.onWddr]
  rw [Wddr.vcoCfg, released, aborted, sent, fw.enterPending_pll]
  rfl

omit [BuildConfig] [Device] in
theorem Fw.vcoCfg_finishSwitch {fw : Fw} {next : VcoIndex}
    (prepared : fw.wddr.pll.pVcoNext = some next) (vcoId : VcoIndex) :
    fw.finishSwitch.wddr.vcoCfg vcoId = fw.wddr.vcoCfg vcoId := by
  obtain ⟨-, sameVco, -⟩ := Pll.switchAndDisable_pointers prepared false
  have vco : fw.finishSwitch.wddr.pll.vco = fw.wddr.pll.vco := sameVco
  rw [Wddr.vcoCfg, vco]
  rfl

end Switch

end Frames

namespace Sys

section Observed

variable [Platform]

theorem FwEffect.sameUpdate {sys : Sys} {label : Label} {after : Fw}
    (effect : FwEffect sys label after) : sys.fw.wddr.SameUpdate after.wddr := by
  cases effect with
  | sent => exact Fw.sameUpdate_sendToBack _ _
  | calibrated ran =>
      obtain ⟨zqcal, cmn, rfl⟩ := Wddr.eq_of_wddrIocalCalibrate ran
      exact ⟨rfl, rfl, rfl, rfl, rfl, rfl⟩
  | isr => exact Fw.sameUpdate_runIsr _ _ _ _ _
  | _ => exact ⟨rfl, rfl, rfl, rfl, rfl, rfl⟩

/-- The mode registers of the DRAM, and whether a switch was entered. -/
structure DramView where
  modes : ModeRegisters
  switched : Bool

/-- The step enters a switch and sends what is in the FIFO. -/
def Enters (label : Label) (sys : Sys) : Prop :=
  Handles label sys fun msg => msg.Is .initStart ∧ sys.fw.Running ∧ sys.fw.dfi ≠ .ctrlUpd ∧
    sys.fw.fsw = .prep

instance (label : Label) (sys : Sys) : Decidable (Enters label sys) :=
  inferInstanceAs (Decidable (Handles _ _ _))

/-- The DRAM runs at the ratio of the PLL's frequency when the packets are sent. -/
def deliver (wddr : Wddr) (modes : ModeRegisters) : ModeRegisters :=
  match wddr.runningRatio with
  | .ok ratio => modes.receive ratio wddr.dfich.queuedPackets
  | .error _ => modes

def observeDram (label : Label) (sys : Sys) (view : DramView) : DramView :=
  if Enters label sys then ⟨deliver sys.fw.wddr view.modes, true⟩ else view

/-- The system with the DRAM behind it. -/
abbrev dramObserved (modes : ModeRegisters) : TransitionSystem (Sys × DramView) Label :=
  monitored system ⟨modes, false⟩ observeDram

/-- A VCO is prepared, the PLL runs at the ratio of the boot frequency, and the writes fit
into the time of the packets. -/
def SwitchReady (wddr : Wddr) : Prop :=
  match wddr.pll.pVcoNext, wddr.runningRatio with
  | some next, .ok ratio => wddr.bootRatio = .ok ratio ∧ ratio.Supported ∧
      2 + writesSpan ratio (updateWrites (wddr.vcoCfg next)) < 2 ^ 16
  | _, _ => False

instance (wddr : Wddr) : Decidable (SwitchReady wddr) := by
  unfold SwitchReady WddrFreqRatio.Supported
  split
  · exact inferInstance
  · exact inferInstance

/-- Every switch that is entered is ready. -/
def SwitchesReady : StepCondition (Sys × DramView) Label := fun label pair =>
  Enters label pair.1 → SwitchReady pair.1.fw.wddr

instance (label : Label) (pair : Sys × DramView) : Decidable (SwitchesReady label pair) :=
  inferInstanceAs (Decidable (_ → _))

/-- What the FIFO and the DRAM hold between two steps. -/
structure DramSound (start : ModeRegisters) (pair : Sys × DramView) : Prop where
  entered : pair.2.switched = true → pair.1.fw.ready = true
  fifo : pair.1.fw.fsw ≠ .pending → ∀ next, pair.1.fw.wddr.pll.pVcoNext = some next →
    ∃ ratio, pair.1.fw.wddr.bootRatio = .ok ratio ∧
      pair.1.fw.wddr.HoldsUpdate ratio (pair.1.fw.wddr.vcoCfg next)
  pending : pair.1.fw.fsw = .pending → pair.2.switched = true ∧
    ∃ next, pair.1.fw.wddr.pll.pVcoNext = some next ∧
      ∀ rank < wddrPhyRank, pair.2.modes.Follows (pair.1.fw.wddr.vcoCfg next) rank
  settled : pair.2.switched = true → pair.1.fw.fsw ≠ .pending →
    ∀ current, pair.1.fw.wddr.pll.pVcoCurrent = some current →
      ∀ rank < wddrPhyRank, pair.2.modes.Follows (pair.1.fw.wddr.vcoCfg current) rank
  others : ∀ rank, ∀ register ∉ ModeRegisters.governed,
    pair.2.modes rank register = start rank register

theorem DramSound.of_same {start : ModeRegisters} {sys next : Sys} {view : DramView}
    (sound : DramSound start (sys, view)) (ready : next.fw.ready = sys.fw.ready)
    (fsw : next.fw.fsw = sys.fw.fsw) (same : sys.fw.wddr.SameUpdate next.fw.wddr) :
    DramSound start (next, view) where
  entered switched := ready.trans (sound.entered switched)
  fifo notPending vcoId prepared := by
    obtain ⟨ratio, isBoot, holds⟩ :=
      sound.fifo (fsw ▸ notPending) vcoId (same.pVcoNext ▸ prepared)
    refine ⟨ratio, same.bootRatio.trans isBoot, ?_⟩
    rw [Wddr.HoldsUpdate, same.dfich, same.vcoCfg]
    exact holds
  pending isPending := by
    obtain ⟨switched, vcoId, prepared, follows⟩ := sound.pending (fsw ▸ isPending)
    refine ⟨switched, vcoId, same.pVcoNext.trans prepared, ?_⟩
    rw [same.vcoCfg]
    exact follows
  settled switched notPending vcoId onVco := by
    rw [same.vcoCfg]
    exact sound.settled switched (fsw ▸ notPending) vcoId (same.pVcoCurrent ▸ onVco)
  others := sound.others

omit [Platform] in
theorem enters_iff {sys : Sys} {msg : FwMsg} {event : FwPhyEvent}
    (task : sys.fwTask = .process msg) (decoded : FwPhyEvent.ofCode? msg.event = some event) :
    Enters .process sys ↔ event = .initStart ∧ sys.fw.Running ∧ sys.fw.dfi ≠ .ctrlUpd ∧
      sys.fw.fsw = .prep := by
  have isEvent : msg.Is .initStart ↔ event = .initStart := by
    rw [FwMsg.Is, ← FwPhyEvent.ofCode?_eq_some_iff, decoded, Option.some.injEq]
  rw [Enters, handles_process task, isEvent]

omit [Platform] in
theorem observeDram_of_not {label : Label} {sys : Sys} (outside : ¬ Enters label sys)
    (view : DramView) : observeDram label sys view = view :=
  if_neg outside

theorem dramSound_of_prep {start : ModeRegisters} {sys : Sys} {view : DramView} {msg : FwMsg}
    {response : FwResponse} {after : Fw} {current : VcoIndex} {freqId : UInt8}
    (sound : DramSound start (sys, view)) (device : sys.fw.wddr.Sound current)
    (inPrep : sys.fw.fsw = .prep) (prepared : sys.fw.prepareSwitch freqId = .ok after) :
    DramSound start (sys.answered msg response after, view) := by
  have notPending : sys.fw.fsw ≠ .pending := by simp [inPrep]
  rcases Fw.eq_of_prepareSwitch device prepared with ⟨valid, becomes⟩ | ⟨-, -, becomes⟩
  · obtain ⟨ratio, isBoot, holds⟩ := holdsUpdate_of_prepareSwitch device.dramCfg valid prepared
    obtain ⟨nextCfg, currentCfg⟩ := sys.fw.vcoCfg_prepared freqId current
    have ready := (sys.fw.fswFrame_prepared freqId current).ready
    have onNext := sys.fw.prepared_pVcoNext freqId current
    have onVco := (Fw.sound_prepared device valid).settled.pVcoCurrent
    subst becomes
    constructor
    · intro switched
      simp only [answered_fw, ready]
      exact sound.entered switched
    · intro _ next isNext
      simp only [answered_fw, onNext, Option.some.injEq] at isNext ⊢
      subst isNext
      rw [sys.fw.prepared_bootRatio, nextCfg]
      exact ⟨ratio, isBoot, holds⟩
    · intro pending
      simp only [answered_fw, Fw.prepared_fsw] at pending
      cases pending
    · intro switched _ vcoId isCurrent
      simp only [answered_fw, onVco, Option.some.injEq] at isCurrent ⊢
      subst isCurrent
      rw [currentCfg]
      exact sound.settled switched notPending current device.settled.pVcoCurrent
    · exact sound.others
  · subst becomes
    apply sound.of_same
    · rw [answered_fw]
      exact sys.fw.fswFrame_unprepared.ready
    · rw [answered_fw, inPrep]
      rfl
    · rw [answered_fw]
      exact sys.fw.sameUpdate_unprepared

/-- What is sent when a ready switch is entered. -/
theorem follows_deliver (deep : 64 ≤ Device.ingressFifoDepth) {wddr : Wddr} {next : VcoIndex}
    (ready : SwitchReady wddr) (prepared : wddr.pll.pVcoNext = some next)
    (fifo : ∃ ratio, wddr.bootRatio = .ok ratio ∧ wddr.HoldsUpdate ratio (wddr.vcoCfg next))
    (modes : ModeRegisters) :
    (∀ rank < wddrPhyRank, (deliver wddr modes).Follows (wddr.vcoCfg next) rank) ∧
      ∀ rank, ∀ register ∉ ModeRegisters.governed,
        deliver wddr modes rank register = modes rank register := by
  unfold SwitchReady at ready
  rw [prepared] at ready
  split at ready
  · rename_i isNext isRunning
    obtain rfl := Option.some.inj isNext
    obtain ⟨sameRatio, supported, fits⟩ := ready
    obtain ⟨laidOut, isBoot, holds⟩ := fifo
    obtain rfl := Except.ok.inj (isBoot.symm.trans sameRatio)
    rw [deliver, isRunning]
    constructor
    · intro rank ranked
      exact holds.follows deep supported fits modes ranked
    · intro rank register other
      dsimp only
      rw [ModeRegisters.receive_of_updateSent (holds.sentWrites deep supported fits)]
      exact ModeRegisters.update_of_not_mem _ modes rank other
  · exact ready.elim

theorem dramSound_of_enter (deep : 64 ≤ Device.ingressFifoDepth) {start : ModeRegisters}
    {sys : Sys} {view : DramView} {msg : FwMsg} {response : FwResponse}
    (sound : DramSound start (sys, view)) (isReady : sys.fw.ready = true)
    (inPrep : sys.fw.fsw = .prep) (ready : SwitchReady sys.fw.wddr) :
    DramSound start (sys.answered msg response sys.fw.enterPending,
      ⟨deliver sys.fw.wddr view.modes, true⟩) := by
  have notPending : sys.fw.fsw ≠ .pending := by simp [inPrep]
  obtain ⟨next, prepared⟩ : ∃ next, sys.fw.wddr.pll.pVcoNext = some next := by
    unfold SwitchReady at ready
    split at ready
    · exact ⟨_, by assumption⟩
    · exact ready.elim
  obtain ⟨follows, others⟩ :=
    follows_deliver deep ready prepared (sound.fifo notPending next prepared) view.modes
  have nowReady : sys.fw.enterPending.ready = true :=
    sys.fw.fswFrame_enterPending.ready.trans isReady
  have sameNext : sys.fw.enterPending.wddr.pll.pVcoNext = some next :=
    sys.fw.pVcoNext_enterPending.trans prepared
  constructor
  · intro _
    simpa only [answered_fw] using nowReady
  · intro stillPrep
    simp only [answered_fw] at stillPrep
    exact absurd rfl stillPrep
  · intro _
    refine ⟨rfl, next, by rw [answered_fw, sameNext], ?_⟩
    rw [answered_fw, sys.fw.vcoCfg_enterPending]
    exact follows
  · intro _ stillPrep
    simp only [answered_fw] at stillPrep
    exact absurd rfl stillPrep
  · intro rank register other
    exact (others rank register other).trans (sound.others rank register other)

theorem dramSound_of_finish {start : ModeRegisters} {sys : Sys} {view : DramView} {msg : FwMsg}
    {response : FwResponse} (sound : DramSound start (sys, view))
    (isReady : sys.fw.ready = true) (pending : sys.fw.fsw = .pending) :
    DramSound start (sys.answered msg response sys.fw.finishSwitch, view) := by
  obtain ⟨switched, next, prepared, follows⟩ := sound.pending pending
  obtain ⟨-, sameVco, onNext, cleared, -⟩ := Pll.switchAndDisable_pointers prepared false
  have nowReady : sys.fw.finishSwitch.ready = true :=
    sys.fw.fswFrame_finishSwitch.ready.trans isReady
  have noNext : sys.fw.finishSwitch.wddr.pll.pVcoNext = none := cleared
  have onVco : sys.fw.finishSwitch.wddr.pll.pVcoCurrent = some next := onNext
  constructor
  · intro _
    rw [answered_fw]
    exact nowReady
  · intro _ vcoId isNext
    rw [answered_fw, noNext] at isNext
    cases isNext
  · intro stillPending
    rw [answered_fw] at stillPending
    cases stillPending
  · intro _ _ vcoId isCurrent
    rw [answered_fw, onVco, Option.some.injEq] at isCurrent
    subst isCurrent
    rw [answered_fw, sys.fw.vcoCfg_finishSwitch prepared]
    exact follows
  · exact sound.others

theorem dramSound_answered (deep : 64 ≤ Device.ingressFifoDepth) {start : ModeRegisters}
    {sys : Sys} {view : DramView} {msg : FwMsg} {event : FwPhyEvent} {response : FwResponse}
    {after : Fw} {current : VcoIndex} (sound : DramSound start (sys, view))
    (device : sys.fw.DeviceSound current) (fresh : sys.fw.BeforeBoot)
    (task : sys.fwTask = .process msg) (decoded : FwPhyEvent.ofCode? msg.event = some event)
    (ready : SwitchesReady .process (sys, view))
    (ran : Handled msg.data sys.fw event response after) :
    DramSound start (sys.answered msg response after, observeDram .process sys view) := by
  have enters := enters_iff task decoded
  cases ran with
  | refused refusal =>
      have outside : ¬ Enters .process sys := by
        rw [enters]
        rintro ⟨rfl, running, admitted, -⟩
        rcases Fw.refusal_isSome refusal with notRunning | updating
        · exact notRunning running
        · exact admitted updating
      rw [observeDram_of_not outside]
      exact sound.of_same (by rw [answered_fw]) (by rw [answered_fw])
        (by rw [answered_fw]; exact .refl _)
  | @start calibrate trainDram booted notReady boots =>
      have outside : ¬ Enters .process sys := by
        rw [enters]
        rintro ⟨isStart, -⟩
        cases isStart
      rw [observeDram_of_not outside]
      have noNext := Fw.pVcoNext_finishStart (fresh.unprepared notReady) boots
      have notSwitched : view.switched ≠ true := by
        intro switched
        have isReady := sound.entered switched
        simp [notReady] at isReady
      have notPending : sys.fw.fsw ≠ .pending :=
        fun pending => notSwitched (sound.pending pending).1
      have sameFsw := (sys.fw.finishStart_frame booted).2.1
      constructor
      · exact fun switched => absurd switched notSwitched
      · intro _ vcoId isNext
        rw [answered_fw, noNext] at isNext
        cases isNext
      · intro pending
        rw [answered_fw, sameFsw] at pending
        exact absurd pending notPending
      · exact fun switched => absurd switched notSwitched
      · exact sound.others
  | dfi kind running admitted step =>
      have outside : ¬ Enters .process sys := by
        rw [enters]
        rintro ⟨rfl, -⟩
        cases kind
      rw [observeDram_of_not outside]
      exact sound.of_same (by rw [answered_fw, step.frame.ready])
        (by rw [answered_fw, step.frame.fsw]) (by rw [answered_fw]; exact step.sameUpdate)
  | fsw kind running admitted step =>
      cases step with
      | ignored unmatched =>
          have outside : ¬ Enters .process sys := by
            rw [enters]
            rintro ⟨rfl, -, -, inPrep⟩
            simp [inPrep, FswState.takes] at unmatched
          rw [observeDram_of_not outside]
          exact sound.of_same (by rw [answered_fw]) (by rw [answered_fw])
            (by rw [answered_fw]; exact .refl _)
      | prep inPrep prepared =>
          have outside : ¬ Enters .process sys := by
            rw [enters]
            rintro ⟨isStart, -⟩
            cases isStart
          rw [observeDram_of_not outside]
          exact dramSound_of_prep sound device.sound inPrep prepared
      | initStart inPrep =>
          have inside : Enters .process sys := enters.mpr ⟨rfl, running, admitted, inPrep⟩
          rw [observeDram, if_pos inside]
          exact dramSound_of_enter deep sound running.1 inPrep (ready inside)
      | pllLock pending =>
          have outside : ¬ Enters .process sys := by
            rw [enters]
            rintro ⟨isStart, -⟩
            cases isStart
          rw [observeDram_of_not outside]
          exact dramSound_of_finish sound running.1 pending

/-- A fault does not stop the entry of a switch half way. -/
theorem not_enters_of_fault {sys : Sys} {msg : FwMsg} {event : FwPhyEvent} {fault : Fault}
    (task : sys.fwTask = .process msg) (decoded : FwPhyEvent.ofCode? msg.event = some event)
    (stopped : handled event msg.data sys.fw = .error fault) : ¬ Enters .process sys := by
  rw [enters_iff task decoded]
  rintro ⟨rfl, -, -, inPrep⟩
  obtain ⟨-, -, failed⟩ := Fw.guarded_error stopped
  simp [Fw.fswTransition, inPrep] at failed

theorem dramSound_of_taken (deep : 64 ≤ Device.ingressFifoDepth) {start : ModeRegisters}
    {sys next : Sys} {view : DramView} {label : Label} (reachable : system.Reachable sys)
    (sound : DramSound start (sys, view)) (ready : SwitchesReady label (sys, view))
    (taken : system.step label sys = some next) :
    DramSound start (next, observeDram label sys view) := by
  by_cases isProcess : label = .process
  · subst isProcess
    obtain ⟨current, device⟩ := deviceSound_of_reachable reachable
    obtain ⟨msg, task, step⟩ := processStep_of_taken taken
    cases step with
    | unknown undecoded =>
        have outside : ¬ Enters .process sys := by
          intro enters
          have isStart := ((handles_process task).mp enters).1
          rw [FwPhyEvent.ofCode?_eq_some_iff.mpr isStart] at undecoded
          cases undecoded
        rw [observeDram_of_not outside]
        exact sound.of_same rfl rfl (.refl _)
    | failed decoded stopped =>
        rw [observeDram_of_not (not_enters_of_fault task decoded stopped)]
        exact sound.of_same rfl rfl (.refl _)
    | answered decoded ran =>
        exact dramSound_answered deep sound device (beforeBoot_of_reachable reachable) task
          decoded ready ran
  · have other := otherStep_of_taken taken isProcess
    have control := other.effect.sameControl
    have outside : ¬ Enters label sys := by
      intro enters
      obtain ⟨-, isHandled, -⟩ := exists_of_handles enters
      exact isProcess isHandled
    rw [observeDram_of_not outside]
    exact sound.of_same control.ready control.fsw other.effect.sameUpdate

theorem dramSound_of_reachableWhere (deep : 64 ≤ Device.ingressFifoDepth)
    {start : ModeRegisters} {pair : Sys × DramView}
    (reachable : (dramObserved start).ReachableWhere SwitchesReady pair) :
    DramSound start pair := by
  apply reachable.invariant (motive := DramSound start)
  · rintro ⟨sys, view⟩ ⟨⟨table, reset, hw, timerStarts, -, -, rfl⟩, rfl⟩
    have unprepared : (reset.wddrInit table).pll.pVcoNext = none := Wddr.pVcoNext_wddrInit _ _
    constructor
    · exact fun switched => absurd switched Bool.false_ne_true
    · intro _ next prepared
      exact absurd (unprepared.symm.trans prepared) (by simp)
    · exact fun pending => absurd pending (by simp [started])
    · exact fun switched => absurd switched Bool.false_ne_true
    · exact fun _ _ _ => rfl
  · rintro label ⟨sys, view⟩ next before ready taken sound
    obtain ⟨moved, stepped, rfl⟩ := Option.map_eq_some_iff.mp taken
    exact dramSound_of_taken deep before.of_monitored sound ready stepped

/-- While a switch is pending every rank holds the registers of its frequency, and afterwards
those of the frequency that the PLL runs. -/
structure DramFollows (start : ModeRegisters) (pair : Sys × DramView) : Prop where
  pending : pair.1.fw.fsw = .pending →
    ∃ next, pair.1.fw.wddr.pll.pVcoNext = some next ∧
      ∀ rank < wddrPhyRank, pair.2.modes.Follows (pair.1.fw.wddr.vcoCfg next) rank
  settled : pair.2.switched = true → pair.1.fw.fsw ≠ .pending →
    ∃ freqId, pair.1.fw.wddr.pll.pllGetCurrentFreq = .ok freqId ∧
      ∀ rank < wddrPhyRank,
        pair.2.modes.Follows (pair.1.fw.wddr.table.freq freqId.toNat).dram rank
  others : ∀ rank, ∀ register ∉ ModeRegisters.governed,
    pair.2.modes rank register = start rank register

/-- Along every run whose switches are ready when they are entered, the DRAM follows the
frequency. -/
theorem dramFollows_of_reachableWhere (deep : 64 ≤ Device.ingressFifoDepth)
    {start : ModeRegisters} {pair : Sys × DramView}
    (reachable : (dramObserved start).ReachableWhere SwitchesReady pair) :
    DramFollows start pair := by
  have sound := dramSound_of_reachableWhere deep reachable
  obtain ⟨current, device⟩ := deviceSound_of_reachable reachable.of_monitored
  have onVco := device.sound.settled.pVcoCurrent
  refine ⟨fun pending => (sound.pending pending).2, fun switched notPending => ?_, sound.others⟩
  refine ⟨(pair.1.fw.wddr.pll.vco current).freqId, ?_, ?_⟩
  · rw [Pll.pllGetCurrentFreq, onVco]
  · exact sound.settled switched notPending current onVco

end Observed

/-- The registers that the DRAM of the reference system starts with. -/
def clearedModes : ModeRegisters := fun _ _ => 0

/-- Two switches of the reference system, the second one still pending. -/
def secondSwitch : List Label :=
  bootRun ++ prepRun 0 ++ initStartIrq ++ handleNext ++ pllLockIrq ++ handleNext ++
    prepRun 1 ++ initStartIrq ++ handleNext

theorem dramFollows_secondSwitch :
    DramFollows clearedModes
      (observedAfterWhere observeDram ⟨clearedModes, false⟩
        SwitchesReady secondSwitch (by decide +kernel)) :=
  @dramFollows_of_reachableWhere referencePlatform (by decide) clearedModes _
    (reachable_observedAfterWhere _)

end Sys

end WavLpddr
