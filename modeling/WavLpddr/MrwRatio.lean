import WavLpddr.DeviceRuns
import WavLpddr.MrwRoundTrip

/-!
# The ratio of the mode-register writes

The packets that are prepared for a switch are laid out at the ratio of the frequency that
`dram.cfg` points to.  Nothing after `wddr_init` moves this pointer, so that is the boot
frequency, whatever the PLL runs.
-/

namespace WavLpddr

open Outcome TransitionSystem TxPacketBuffer

section Keeps

variable [KernelIo] {wddr : Wddr}

namespace Wddr

/-- What returns a device leaves `dram.cfg` alone. -/
def KeepsDramCfg (wddr : Wddr) {Value : Type} (outcome : Except Fault Value)
    (device : Value → Wddr) : Prop :=
  Ends outcome (fun _ => True) fun value => (device value).dramCfg = wddr.dramCfg

theorem keepsDramCfg_calibrateFreq (hw : HwStatus) (freqId : UInt8) :
    KeepsDramCfg wddr (wddr.calibrateFreq hw freqId) id := by
  apply Ends.bind_of_forall
  intro cfg
  exact Ends.pure rfl

theorem keepsDramCfg_bootPllCal (hw : HwStatus) (bootCfg : WddrBootCfg) :
    KeepsDramCfg wddr (wddr.bootPllCal hw bootCfg) id := by
  unfold bootPllCal
  split
  · change Ends _ (fun _ => True) fun after : Wddr => after.dramCfg = wddr.dramCfg
    refine Ends.foldlM _ ?_ ?_
    · rfl
    · intro state freqId _ kept
      exact (keepsDramCfg_calibrateFreq hw freqId).mono fun after same => same.trans kept
  · exact Ends.pure rfl

theorem keepsDramCfg_wddrConfigurePhy [Device] (freqId : UInt8) (msr : WddrMsr) :
    KeepsDramCfg wddr (wddr.wddrConfigurePhy freqId msr) id := by
  apply Ends.bind_of_forall
  intro cfg
  exact Ends.pure rfl

theorem keepsDramCfg_wddrIocalUpdatePhy (hw : HwStatus) :
    KeepsDramCfg wddr (wddr.wddrIocalUpdatePhy hw) id := by
  apply Ends.bind_of_forall
  intro freqId
  apply Ends.bind_of_forall
  intro cfg
  exact Ends.pure rfl

theorem keepsDramCfg_wddrBootTrain (hw : HwStatus) (bootCfg : WddrBootCfg) :
    KeepsDramCfg wddr (wddr.wddrBootTrain hw bootCfg) Prod.snd := by
  apply Ends.bind_of_forall
  intro cfg
  have channels := propagateErrors_induction (motive := Untouched wddr)
    (fun channel state untouched => untouched.trans (untouched_senseAmpChannel hw
      (getBootOption bootCfg wddrBootOptionSaCal) cfg channel))
    (List.range wddrPhyChannelNum) (.refl wddr)
  split
  · rename_i returned
    rw [returned] at channels
    apply Ends.pure
    split
    · exact channels.quiet.dramCfg
    · exact channels.quiet.dramCfg
  · rename_i returned
    rw [returned] at channels
    exact Ends.pure channels.quiet.dramCfg

variable [BuildConfig]

theorem keepsDramCfg_wddrSwFreqSwitch (freqId : UInt8) (msr : WddrMsr) :
    KeepsDramCfg wddr (wddr.wddrSwFreqSwitch freqId msr) Prod.snd := by
  unfold wddrSwFreqSwitch
  split
  · exact Ends.pure rfl
  · apply Ends.bind_of_forall
    intro cfg
    apply Ends.bind_of_forall
    intro pll
    apply Ends.bind_of_forall
    intro nextVco
    apply Ends.bind_of_forall
    intro _
    exact Ends.pure rfl

theorem keepsDramCfg_alignVco (fuel : Nat) : KeepsDramCfg wddr (wddr.alignVco fuel) id := by
  induction fuel generalizing wddr with
  | zero => trivial
  | succ fuel inductionHypothesis =>
      apply Ends.bind_of_forall
      intro currentVcoId
      split
      · exact Ends.pure rfl
      · apply (keepsDramCfg_wddrSwFreqSwitch wddrPhyBootFreq .msr0).bind
        intro switched kept
        exact inductionHypothesis.mono fun after same => same.trans kept

theorem keepsDramCfg_bootZqcalCal (hw : HwStatus) (bootCfg : WddrBootCfg) :
    KeepsDramCfg wddr (wddr.bootZqcalCal hw bootCfg) id := by
  unfold bootZqcalCal
  split
  · have calibrates : KeepsDramCfg wddr (wddr.wddrIocalCalibrate hw) id := by
      apply Ends.bind_of_forall
      intro _
      exact Ends.pure rfl
    apply calibrates.bind
    intro calibrated kept
    exact (keepsDramCfg_wddrIocalUpdatePhy hw).mono fun after same => same.trans kept
  · exact Ends.pure rfl

variable [Device]

theorem keepsDramCfg_wddrBootSetup (hw : HwStatus) (bootCfg : WddrBootCfg) :
    KeepsDramCfg wddr (wddr.wddrBootSetup hw bootCfg) id := by
  unfold wddrBootSetup
  apply (keepsDramCfg_bootPllCal hw bootCfg).bind
  intro calibrated keptCalibrated
  apply (keepsDramCfg_wddrSwFreqSwitch wddrPhyBootFreq .msr0).bind
  rintro ⟨ret, switched⟩ keptSwitched
  apply Ends.bind_of_forall
  intro cfg
  apply (keepsDramCfg_wddrConfigurePhy wddrPhyBootFreq .msr0).bind
  intro configured keptConfigured
  apply (keepsDramCfg_bootZqcalCal hw bootCfg).bind
  intro last keptLast
  exact Ends.pure (((keptLast.trans keptConfigured).trans keptSwitched).trans keptCalibrated)

theorem keepsDramCfg_wddrBoot (hw : HwStatus) (bootCfg : WddrBootCfg) :
    KeepsDramCfg wddr (wddr.wddrBoot hw bootCfg) Prod.snd := by
  apply (keepsDramCfg_wddrBootSetup hw bootCfg).bind
  intro started keptStarted
  apply (keepsDramCfg_wddrBootTrain hw bootCfg).bind
  rintro ⟨ret, trained⟩ keptTrained
  have kept : trained.dramCfg = wddr.dramCfg := keptTrained.trans keptStarted
  cases ret with
  | wddrSuccess =>
      have finishes : KeepsDramCfg trained (trained.wddrBootFinish hw) id := by
        apply (keepsDramCfg_alignVco 4).bind
        intro aligned same
        apply Ends.pure
        exact (similar_fswSwitchToDfiMode aligned).dramCfg.trans same
      apply finishes.bind
      intro last same
      exact Ends.pure (same.trans kept)
  | _ => exact Ends.pure kept

omit [BuildConfig] in
theorem keepsDramCfg_wddrPrepSwitch (freqId : UInt8) (msr : WddrMsr) :
    KeepsDramCfg wddr (wddr.wddrPrepSwitch freqId msr) Prod.snd := by
  unfold wddrPrepSwitch
  split
  · apply (keepsDramCfg_wddrConfigurePhy freqId msr).bind
    intro configured kept
    apply Ends.bind_of_forall
    intro cfg
    have updates : KeepsDramCfg configured (configured.wddrPrepFreqSwitchMrwUpdate cfg.dram)
        id := by
      apply Ends.bind_of_forall
      intro current
      exact Ends.pure rfl
    apply updates.bind
    intro updated same
    apply Ends.bind_of_forall
    intro pll
    exact Ends.pure (same.trans kept)
  · exact Ends.pure rfl

end Wddr

theorem Fw.keepsDramCfg_prepareSwitch [BuildConfig] [Device] {fw : Fw} (freqId : UInt8) :
    fw.wddr.KeepsDramCfg (fw.prepareSwitch freqId) Fw.wddr := by
  apply (Wddr.keepsDramCfg_wddrPrepSwitch freqId fw.hw.currentMsr.other).bind
  rintro ⟨ret, prepared⟩ kept
  apply Ends.bind_of_forall
  intro _
  exact Ends.pure kept

end Keeps

section Calls

variable [KernelIo] [BuildConfig] [Device]

/-- What is done to the device: boot, a software switch, and the parts of a switch by the
DFI. -/
inductive DeviceCall
  | report (hw : HwStatus)
  | boot (bootCfg : WddrBootCfg)
  | swFreqSwitch (freqId : UInt8) (msr : WddrMsr)
  | prepareSwitch (freqId : UInt8)
  | enterPending
  | finishSwitch

def DeviceCall.step : DeviceCall → Fw → Option Fw
  | report hw, fw => some { fw with hw := hw }
  | boot bootCfg, fw =>
      (fw.wddr.wddrBoot fw.hw bootCfg).toOption.map fun booted => (fw.finishStart booted).2
  | swFreqSwitch freqId msr, fw =>
      (fw.wddr.wddrSwFreqSwitch freqId msr).toOption.map fun switched =>
        { fw with wddr := switched.2 }
  | prepareSwitch freqId, fw => (fw.prepareSwitch freqId).toOption
  | enterPending, fw => some fw.enterPending
  | finishSwitch, fw => some fw.finishSwitch

/-- The calls in any order, from an initialised device with a table. -/
def callSystem (table : WddrTable) : TransitionSystem Fw DeviceCall where
  initial fw := ∃ reset : Wddr, fw.wddr = reset.wddrInit table
  step := DeviceCall.step

variable {table : WddrTable} {fw next : Fw}

theorem dramCfg_step {call : DeviceCall} (taken : call.step fw = some next) :
    next.wddr.dramCfg = fw.wddr.dramCfg := by
  cases call with
  | report hw =>
      cases taken
      rfl
  | boot bootCfg =>
      obtain ⟨booted, ran, rfl⟩ := Option.map_eq_some_iff.mp taken
      have kept := (Wddr.keepsDramCfg_wddrBoot fw.hw bootCfg).good_of_ok (ok_of_toOption ran)
      unfold Fw.finishStart
      split
      · exact kept
      · split
        · exact kept
        · exact kept
  | swFreqSwitch freqId msr =>
      obtain ⟨switched, ran, rfl⟩ := Option.map_eq_some_iff.mp taken
      exact (Wddr.keepsDramCfg_wddrSwFreqSwitch freqId msr).good_of_ok (ok_of_toOption ran)
  | prepareSwitch freqId =>
      exact (Fw.keepsDramCfg_prepareSwitch freqId).good_of_ok (ok_of_toOption taken)
  | enterPending =>
      cases taken
      exact fw.fswFrame_enterPending.dramCfg
  | finishSwitch =>
      cases taken
      exact fw.fswFrame_finishSwitch.dramCfg

/-- `dram.cfg` points to the boot frequency along every run. -/
theorem dramCfg_of_reachable (reachable : (callSystem table).Reachable fw) :
    fw.wddr.dramCfg = wddrPhyBootFreq := by
  apply reachable.invariant (motive := fun fw => fw.wddr.dramCfg = wddrPhyBootFreq)
  · rintro fw ⟨reset, initialised⟩
    rw [initialised]
    rfl
  · intro call fw next _ _ taken kept
    exact (dramCfg_step taken).trans kept

omit [BuildConfig] in
/-- What a valid preparation leaves in the FIFO: the writes of the new frequency at the ratio
that `dram.cfg` points to. -/
theorem prepare_of_wddrPrepSwitch {wddr after : Wddr} {freqId : UInt8} {msr : WddrMsr}
    {ret : WddrReturn} (valid : wddr.table.validFreq freqId = true)
    (prepared : wddr.wddrPrepSwitch freqId msr = .ok (ret, after)) :
    ∃ current, wddr.table.freqAt wddr.dramCfg = .ok current ∧
      after.dfich = wddr.dfich.prepare msr (wddr.table.freq freqId.toNat).dfi
        (mrwUpdatePackets current.dram.ratio (wddr.table.freq freqId.toNat).dram) := by
  have chosen := WddrTable.freqAt_of_valid valid
  simp only [Wddr.wddrPrepSwitch, Wddr.wddrConfigurePhy, Wddr.wddrPrepFreqSwitchMrwUpdate,
    valid, chosen, if_true, bind, Except.bind, pure, Except.pure] at prepared
  cases pointed : wddr.table.freqAt wddr.dramCfg with
  | error fault =>
      rw [pointed] at prepared
      cases prepared
  | ok current =>
      simp only [pointed] at prepared
      split at prepared
      · cases prepared
      · cases prepared
        exact ⟨current, rfl, rfl⟩

/-- The update of a frequency's mode registers is in the FIFO, laid out at a ratio. -/
def Wddr.HoldsUpdate (wddr : Wddr) (ratio : WddrFreqRatio) (newCfg : DramFreqCfg) : Prop :=
  wddr.dfich.ingress = ((mrwUpdatePackets ratio newCfg).take Device.ingressFifoDepth).map
    DfiChannel.loadOrder

/-- The ratio of the frequency that the PLL runs. -/
def Wddr.runningRatio (wddr : Wddr) : Except Fault WddrFreqRatio := do
  let freqId ← wddr.pll.pllGetCurrentFreq
  let cfg ← wddr.table.freqAt freqId
  pure cfg.dram.ratio

def Wddr.bootRatio (wddr : Wddr) : Except Fault WddrFreqRatio := do
  let cfg ← wddr.table.freqAt wddrPhyBootFreq
  pure cfg.dram.ratio

omit [KernelIo] [BuildConfig] in
/-- Updates of different ratios differ in a FIFO of the documented depth. -/
theorem Wddr.HoldsUpdate.ratio_eq {wddr : Wddr} {first second : WddrFreqRatio}
    {newCfg : DramFreqCfg} (deep : 64 ≤ Device.ingressFifoDepth)
    (holds : wddr.HoldsUpdate first newCfg) (also : wddr.HoldsUpdate second newCfg) :
    first = second := by
  have same := congrArg List.length (holds.symm.trans also)
  rw [List.length_map, List.length_map, List.length_take, List.length_take, mrwUpdatePackets_eq,
    mrwUpdatePackets_eq, length_wholeUpdate, length_wholeUpdate] at same
  have firstFrames : commandLength first ≤ 4 := Nat.shiftRight_le _ _
  have secondFrames : commandLength second ≤ 4 := Nat.shiftRight_le _ _
  have sameLength : commandLength first = commandLength second := by omega
  revert sameLength
  cases first <;> cases second <;> decide

/-- A preparation lays out the writes at the ratio of the boot frequency. -/
theorem holdsUpdate_of_prepareSwitch (pointed : fw.wddr.dramCfg = wddrPhyBootFreq)
    {freqId : UInt8} (valid : fw.wddr.table.validFreq freqId = true)
    (prepared : fw.prepareSwitch freqId = .ok next) :
    ∃ ratio, fw.wddr.bootRatio = .ok ratio ∧
      next.wddr.HoldsUpdate ratio (fw.wddr.table.freq freqId.toNat).dram := by
  unfold Fw.prepareSwitch at prepared
  cases ran : (fw.wddr.onIrq (Irq.disableIrq .initStart)).wddrPrepSwitch freqId
      fw.hw.currentMsr.other with
  | error fault =>
      rw [ran] at prepared
      cases prepared
  | ok done =>
      obtain ⟨ret, wddr⟩ := done
      have validDisabled : (fw.wddr.onIrq (Irq.disableIrq .initStart)).table.validFreq freqId =
          true := valid
      obtain ⟨current, isCurrent, filled⟩ := prepare_of_wddrPrepSwitch validDisabled ran
      have found : fw.wddr.table.freqAt fw.wddr.dramCfg = .ok current := isCurrent
      rw [pointed] at found
      refine ⟨current.dram.ratio, ?_, ?_⟩
      · rw [Wddr.bootRatio, found]
        rfl
      · have same : next.wddr.dfich = wddr.dfich := by
          rw [ran] at prepared
          simp only [bind, Except.bind, pure, Except.pure] at prepared
          split at prepared
          · cases prepared
          · cases prepared
            rfl
        rw [Wddr.HoldsUpdate, same, filled]
        exact (DfiChannel.prepare_filled _ _ (mrwUpdatePackets_ne_nil _ _) _).ingress

/-- Along every run a preparation lays out the writes at the ratio of the frequency that the
PLL runs exactly if this is the ratio of the boot frequency. -/
theorem holdsUpdate_iff (reachable : (callSystem table).Reachable fw) {freqId : UInt8}
    (valid : fw.wddr.table.validFreq freqId = true)
    (prepared : (callSystem table).step (.prepareSwitch freqId) fw = some next)
    {ratio : WddrFreqRatio} (running : fw.wddr.runningRatio = .ok ratio) :
    let newCfg := (fw.wddr.table.freq freqId.toNat).dram
    (fw.wddr.bootRatio = .ok ratio → next.wddr.HoldsUpdate ratio newCfg) ∧
      (64 ≤ Device.ingressFifoDepth → next.wddr.HoldsUpdate ratio newCfg →
        fw.wddr.bootRatio = .ok ratio) := by
  obtain ⟨laidOut, isBoot, holds⟩ :=
    holdsUpdate_of_prepareSwitch (dramCfg_of_reachable reachable) valid (ok_of_toOption prepared)
  constructor
  · intro sameRatio
    obtain rfl : laidOut = ratio := Except.ok.inj (isBoot.symm.trans sameRatio)
    exact holds
  · intro deep also
    rw [isBoot, Wddr.HoldsUpdate.ratio_eq deep holds also]

end Calls

section Reference

/-- The reference table with another ratio at the second frequency. -/
def mixedTable : WddrTable :=
  { referenceTable with
    freq := Function.update referenceTable.freq 1
      { referenceTable.freq 1 with
        dram := { (referenceTable.freq 1).dram with ratio := .ratio1to2 } } }

theorem validTable_mixedTable : ValidTable mixedTable := validTable_referenceTable

/-- The calls on the reference platform. -/
abbrev referenceCalls (table : WddrTable) : TransitionSystem Fw DeviceCall :=
  @callSystem referencePlatform.toKernelIo referencePlatform.toBuildConfig
    referencePlatform.toDevice table

def mixedStart : Fw :=
  (@Sys.started referencePlatform mixedTable Sys.referenceReset Sys.referenceHw true).fw

/-- The state that calls end in. -/
def mixedAfter (calls : List DeviceCall)
    (possible : ((referenceCalls mixedTable).exec calls mixedStart).isSome) : Fw :=
  ((referenceCalls mixedTable).exec calls mixedStart).get possible

theorem reachable_mixedAfter {calls : List DeviceCall}
    (possible : ((referenceCalls mixedTable).exec calls mixedStart).isSome) :
    (referenceCalls mixedTable).Reachable (mixedAfter calls possible) :=
  Reachable.exec (.initial ⟨Sys.referenceReset, rfl⟩) (Option.some_get possible).symm

theorem exists_boot : ((referenceCalls mixedTable).exec [.boot 0] mixedStart).isSome := by
  decide +kernel

theorem exists_boot_prepare :
    ((referenceCalls mixedTable).step (.prepareSwitch 1)
      (mixedAfter [.boot 0] exists_boot)).isSome := by
  decide +kernel

/-- From the boot frequency the writes are laid out at its ratio. -/
theorem holdsUpdate_booted :
    let fw := mixedAfter [.boot 0] exists_boot
    let next := ((referenceCalls mixedTable).step (.prepareSwitch 1) fw).get exists_boot_prepare
    (fw.wddr.bootRatio = .ok .ratio1to1 →
      @Wddr.HoldsUpdate referencePlatform.toDevice next.wddr .ratio1to1
        (fw.wddr.table.freq 1).dram) ∧
    (64 ≤ 64 → @Wddr.HoldsUpdate referencePlatform.toDevice next.wddr .ratio1to1
        (fw.wddr.table.freq 1).dram → fw.wddr.bootRatio = .ok .ratio1to1) :=
  @holdsUpdate_iff referencePlatform.toKernelIo referencePlatform.toBuildConfig
    referencePlatform.toDevice mixedTable _ _ (reachable_mixedAfter exists_boot) 1
    (by decide +kernel) (Option.some_get exists_boot_prepare).symm .ratio1to1 (by decide +kernel)

/-- A switch by the DFI to a frequency with another ratio. -/
def switchCalls : List DeviceCall := [.boot 0, .prepareSwitch 1, .enterPending, .finishSwitch]

/-- After the switch the writes are laid out at the ratio of the frequency that was left. -/
theorem not_holdsUpdate :
    ¬ ∀ (table : WddrTable) (fw next : Fw) (freqId : UInt8) (ratio : WddrFreqRatio),
      ValidTable table → (referenceCalls table).Reachable fw →
      fw.wddr.table.validFreq freqId = true →
      (referenceCalls table).step (.prepareSwitch freqId) fw = some next →
      fw.wddr.runningRatio = .ok ratio →
      @Wddr.HoldsUpdate referencePlatform.toDevice next.wddr ratio
        (fw.wddr.table.freq freqId.toNat).dram := by
  intro all
  have check : (match (referenceCalls mixedTable).exec switchCalls mixedStart with
      | some fw =>
          match (referenceCalls mixedTable).step (.prepareSwitch 2) fw with
          | some next => decide (fw.wddr.runningRatio = .ok .ratio1to2 ∧
              fw.wddr.table.validFreq 2 = true ∧ next.wddr.dfich.ingress.length = 51)
          | none => false
      | none => false) = true := by
    decide +kernel
  split at check
  · rename_i fw ran
    split at check
    · rename_i next prepared
      obtain ⟨running, valid, count⟩ := of_decide_eq_true check
      have reachable : (referenceCalls mixedTable).Reachable fw :=
        Reachable.exec (.initial ⟨Sys.referenceReset, rfl⟩) ran
      have holds := all mixedTable fw next 2 .ratio1to2 validTable_mixedTable reachable valid
        prepared running
      unfold Wddr.HoldsUpdate at holds
      rw [holds, List.length_map, List.length_take, mrwUpdatePackets_eq, length_wholeUpdate]
        at count
      exact absurd count (by decide)
    · cases check
  · cases check

end Reference

end WavLpddr
