import WavLpddr.PrepAnswer

/-!
# The last preparation wins

A preparation overwrites everything that an abandoned one left: the registers of
the next bank, the prepared VCO and its settings, and the packets in the FIFO.
Only the two handshake bits of the DFI channel tell how often it was done.
-/

namespace WavLpddr

open RegisterFile TransitionSystem

section Pll

variable [KernelIo]

/-- The registers written to prepare a VCO. -/
def prepareVcoRegs (base : Word) (vco : VcoDev) (vcoId : VcoIndex) (vcoCfg : VcoCfg)
    (regs : PllRegs) : PllRegs :=
  regs
  |> vcoSetEnableRegIf vco true
  |> vcoSetPostDivRegIf vco vcoCfg.postDiv
  |> vcoSetIntFracRegIf vco vcoCfg.intComp vcoCfg.propGain
  |> vcoSetBandRegIf vco vcoCfg.band vcoCfg.fine true
  |> modifyReg (base + ddrMvpPllCoreOverridesAdr) (fun regVal =>
      let regVal := updateRegField regVal ddrMvpPllCoreOverridesCoreVcoSelMux 1
      updateRegField regVal ddrMvpPllCoreOverridesCoreVcoSel
        (vcoId.id.toBitVec.setWidth 32))

theorem prepareVcoRegs_overwrites (base : Word) (vco : VcoDev) (vcoId : VcoIndex) :
    Overwrites Set.univ (prepareVcoRegs base vco vcoId) := by
  have enable := Overwrites.modifyReg (Set.mem_univ (vco.base + vcoControlOffset))
    (wordOverwrites_updateRegField (wordOverwrites_updateRegField .id
      ddrMvpPllVco0ControlVco0Ena fun _ : VcoCfg => boolWord true)
      ddrMvpPllVco0ControlVco0EnaMux fun _ => 1)
  have postDiv : Overwrites Set.univ fun (vcoCfg : VcoCfg) (regs : PllRegs) =>
      vcoSetPostDivRegIf vco vcoCfg.postDiv regs :=
    (Overwrites.modifyReg (Set.mem_univ (vco.base + vcoControlOffset))
      (wordOverwrites_updateRegField .id ddrMvpPllVco1ControlVco1PostDiv
        fun vcoCfg : VcoCfg => byteWord vcoCfg.postDiv)).whenever
  have propGain := Overwrites.write (Set.mem_univ (vco.base + vcoPropGainOffset))
    fun vcoCfg : VcoCfg =>
      updateRegField 0 ddrMvpPllVco0PropGainsVco0PropGain (byteWord vcoCfg.propGain)
  have intFrac := Overwrites.modifyReg (Set.mem_univ (vco.base + vcoIntFracSettingsOffset))
    (wordOverwrites_updateRegField .id ddrMvpPllVco0IntFracSettingsVco0Int
      fun vcoCfg : VcoCfg => byteWord vcoCfg.intComp)
  have band := Overwrites.write (Set.mem_univ (vco.base + vcoBandOffset))
    fun vcoCfg : VcoCfg =>
      let regVal := updateRegField 0 ddrMvpPllVco0BandVco0BandMux (boolWord true)
      let regVal := updateRegField regVal ddrMvpPllVco0BandVco0Band (byteWord vcoCfg.band)
      let regVal := updateRegField regVal ddrMvpPllVco0BandVco0FineMux (boolWord true)
      updateRegField regVal ddrMvpPllVco0BandVco0Fine (byteWord vcoCfg.fine)
  have select := Overwrites.modifyReg (Set.mem_univ (base + ddrMvpPllCoreOverridesAdr))
    (wordOverwrites_updateRegField (wordOverwrites_updateRegField .id
      ddrMvpPllCoreOverridesCoreVcoSelMux fun _ : VcoCfg => 1)
      ddrMvpPllCoreOverridesCoreVcoSel fun _ => vcoId.id.toBitVec.setWidth 32)
  exact select.comp (band.comp (intFrac.comp (propGain.comp (postDiv.comp enable))))

theorem prepareVco_eq (pll : Pll) (freqId : UInt8) (cfg : PllFreqCfg) (vcoId : VcoIndex) :
    pll.prepareVco freqId cfg vcoId =
      { pll with
        regs := prepareVcoRegs pll.base (pll.vco vcoId) vcoId (cfg.vcoCfg vcoId.cfgIndex)
          pll.regs
        pVcoNext := some vcoId
        vco := Function.update pll.vco vcoId { pll.vco vcoId with freqId := freqId } } := by
  simp only [Pll.prepareVco, Pll.pllSetVcoSelRegIf, prepareVcoRegs, Pll.onRegs]

theorem prepareVco_prepareVco (pll : Pll) (first last : UInt8) (firstCfg lastCfg : PllFreqCfg)
    (vcoId : VcoIndex) :
    (pll.prepareVco first firstCfg vcoId).prepareVco last lastCfg vcoId =
      pll.prepareVco last lastCfg vcoId := by
  have absorbs := (Rewrites.of_overwrites
    (prepareVcoRegs_overwrites pll.base (pll.vco vcoId) vcoId)).absorbs
      (firstCfg.vcoCfg vcoId.cfgIndex) (lastCfg.vcoCfg vcoId.cfgIndex) pll.regs
  have sameVco : prepareVcoRegs pll.base { pll.vco vcoId with freqId := first } vcoId =
      prepareVcoRegs pll.base (pll.vco vcoId) vcoId := rfl
  simp only [prepareVco_eq, Function.update_self, Function.update_idem, sameVco, absorbs]

end Pll

section Device

variable [KernelIo] [Device]

/-- Two firmware states that differ in the handshake bits of the DFI channel only. -/
structure Fw.SameUpToHandshake (first second : Fw) : Prop where
  channel : first.wddr.dfich.SameChannel second.wddr.dfich
  others : first =
    { second with wddr := { second.wddr with dfich := first.wddr.dfich } }

/-- The registers of the switch after a preparation was announced. -/
def announcedRegs (fsw : FswRegs) : FswRegs :=
  fswCtrlSetPostWorkDoneRegIf false false (fswCtrlSetPrepDoneRegIf true fsw)

omit [Device] in
theorem announcedRegs_announcedRegs (fsw : FswRegs) :
    announcedRegs (announcedRegs fsw) = announcedRegs fsw := by
  have inside := Set.mem_univ (⟨.ddrFswCtrlCfg, []⟩ : ArrayReg FswRegName)
  have prepDone := Overwrites.modifyReg inside
    (wordOverwrites_updateRegField .id ddrFswCtrlCfgPrepDone fun _ : Unit => boolWord true)
  have postWorkDone := Overwrites.modifyReg inside
    (wordOverwrites_updateRegField (wordOverwrites_updateRegField .id
      ddrFswCtrlCfgPstworkDone fun _ : Unit => boolWord false)
      ddrFswCtrlCfgPstworkDoneOvr fun _ => boolWord false)
  exact (Rewrites.of_overwrites (postWorkDone.comp prepDone)).absorbs () () fsw

/-- Disabling and enabling the switch request leaves it enabled. -/
def Irq.rearmed (irq : Irq) : Irq := (irq.disableIrq .initStart).enableIrq .initStart

omit [KernelIo] [Device] in
theorem Irq.rearmed_rearmed (irq : Irq) : irq.rearmed.rearmed = irq.rearmed := by
  simp only [Irq.rearmed, Irq.disableIrq, Irq.enableIrq, Function.update_idem]

theorem Fw.prepared_eq (freqId : UInt8) (current : VcoIndex) (fw : Fw) :
    fw.prepared freqId current =
      { fw with
        wddr :=
          { fw.wddr.preparedFor freqId fw.hw.currentMsr.other current with
            fsw := announcedRegs fw.wddr.fsw
            irq := fw.wddr.irq.rearmed }
        fsw := .prep } := by
  simp only [Fw.prepared, Wddr.announced, Wddr.preparedFor, Wddr.onIrq, Wddr.onFsw,
    announcedRegs, Irq.rearmed]

/-- The packets of a preparation for `freqId`. -/
def Wddr.packetsFor (freqId : UInt8) (wddr : Wddr) : List DfiTxPacket :=
  mrwUpdatePackets (wddr.table.freq wddrPhyBootFreq.toNat).dram.ratio
    (wddr.table.freq freqId.toNat).dram

/-- A preparation forgets an earlier one, up to the handshake bits. -/
theorem Fw.prepared_prepared (first last : UInt8) (current : VcoIndex) (fw : Fw) :
    ((fw.prepared first current).prepared last current).SameUpToHandshake
      (fw.prepared last current) := by
  have phy := configurePhyRegs_absorbs fw.hw.currentMsr.other fw.wddr.table.common
    (fw.wddr.table.freq first.toNat) (fw.wddr.table.freq last.toNat) fw.wddr.phy
  have pll := prepareVco_prepareVco fw.wddr.pll first last
    (fw.wddr.table.freq first.toNat).pll (fw.wddr.table.freq last.toNat).pll current.spare
  have channel := DfiChannel.prepare_absorbs fw.hw.currentMsr.other
    (fw.wddr.table.freq first.toNat).dfi (fw.wddr.table.freq last.toNat).dfi
    (mrwUpdatePackets_ne_nil _ _ : fw.wddr.packetsFor first ≠ [])
    (mrwUpdatePackets_ne_nil _ _ : fw.wddr.packetsFor last ≠ []) fw.wddr.dfich
  constructor
  · exact channel
  · simp only [Fw.prepared_eq, Wddr.preparedFor, announcedRegs_announcedRegs,
      Irq.rearmed_rearmed, phy, pll]

end Device

namespace Sys

section Reachable

variable [Platform]

/-- The message of a preparation. -/
def prepMsg (freqId : UInt8) : FwMsg := (FirmwareCall.prepSwitch freqId).msg

theorem processMessage_prepMsg {fw : Fw} {current : VcoIndex} {freqId : UInt8}
    (device : fw.DeviceSound current) (valid : fw.wddr.table.validFreq freqId = true)
    (running : fw.Running) (inPrep : fw.fsw = .prep) (admitted : fw.dfi ≠ .ctrlUpd) :
    processMessage (prepMsg freqId) fw = .ok (some .success, fw.prepared freqId current) := by
  have isPrep : (prepMsg freqId).Is .prep := rfl
  have carried : (prepMsg freqId).data.freqId = freqId := MsgData.freqId_ofFreqId freqId
  rw [processMessage_prep isPrep, Fw.guarded, if_neg (not_not_intro running), if_neg admitted]
  simp only [Fw.fswTransition, inPrep, carried, Fw.prepareSwitch_of_valid device.sound valid]
  rfl

theorem processMessage_prepMsg_of_not_running {fw : Fw} (freqId : UInt8)
    (notRunning : ¬ fw.Running) :
    processMessage (prepMsg freqId) fw = .ok (some .failure, fw) := by
  have isPrep : (prepMsg freqId).Is .prep := rfl
  rw [processMessage_prep isPrep, Fw.guarded, if_pos notRunning]
  rfl

/-- Handling one preparation and then another is answered like the second alone, and leaves
the firmware where the second alone would have left it. -/
def PrepAbsorbs (sys : Sys) (first last : UInt8) : Prop :=
  ∃ response afterFirst afterBoth afterLast,
    processMessage (prepMsg first) sys.fw = .ok (some response, afterFirst) ∧
    processMessage (prepMsg last) afterFirst = .ok (some response, afterBoth) ∧
    processMessage (prepMsg last) sys.fw = .ok (some response, afterLast) ∧
    afterBoth.SameUpToHandshake afterLast ∧
    (sys.fw.error = false → response = .success)

/-- The last preparation wins. -/
theorem prepAbsorbs_of_reachable {sys : Sys} (reachable : system.Reachable sys)
    (ready : sys.fw.ready = true) (inPrep : sys.fw.fsw = .prep)
    (admitted : sys.fw.dfi ≠ .ctrlUpd) {first last : UInt8}
    (firstValid : sys.fw.wddr.table.validFreq first = true)
    (lastValid : sys.fw.wddr.table.validFreq last = true) : sys.PrepAbsorbs first last := by
  obtain ⟨current, device⟩ := deviceSound_of_reachable reachable
  cases failed : sys.fw.error with
  | true =>
      have notRunning : ¬ sys.fw.Running := fun running => by simp [running.2] at failed
      have refused := fun freqId => processMessage_prepMsg_of_not_running freqId notRunning
      refine ⟨.failure, sys.fw, sys.fw, sys.fw, refused first, refused last, refused last,
        ⟨.refl _, rfl⟩, ?_⟩
      rw [failed]
      exact fun noError => nomatch noError
  | false =>
      have running : sys.fw.Running := ⟨ready, failed⟩
      have frame := sys.fw.fswFrame_prepared first current
      have runningFirst : (sys.fw.prepared first current).Running :=
        ⟨frame.ready.trans ready, frame.error.trans failed⟩
      have admittedFirst : (sys.fw.prepared first current).dfi ≠ .ctrlUpd := by
        rw [sys.fw.prepared_dfi]
        exact admitted
      have deviceFirst : (sys.fw.prepared first current).DeviceSound current := by
        constructor
        · exact Fw.sound_prepared device.sound firstValid
        · intro _
          rw [frame.isBooted]
          exact device.booted ready
        · intro _ notReady
          rw [frame.ready, ready] at notReady
          cases notReady
      have lastValidAfter :
          (sys.fw.prepared first current).wddr.table.validFreq last = true := by
        rw [WddrTable.validFreq_of_valid_eq frame.valid]
        exact lastValid
      have handledFirst := processMessage_prepMsg device firstValid running inPrep admitted
      have handledLast := processMessage_prepMsg device lastValid running inPrep admitted
      have handledBoth := processMessage_prepMsg deviceFirst lastValidAfter runningFirst
        (sys.fw.prepared_fsw first current) admittedFirst
      exact ⟨.success, _, _, _, handledFirst, handledBoth, handledLast,
        Fw.prepared_prepared first last current sys.fw, fun _ => rfl⟩

end Reachable

/-- Two preparations after boot. -/
theorem prepAbsorbs_booted :
    @PrepAbsorbs referencePlatform (after bootRun bootRun_possible) 1 2 :=
  @prepAbsorbs_of_reachable referencePlatform _ (reachable_after _) (by decide +kernel)
    (by decide +kernel) (by decide +kernel) 1 2 (by decide +kernel) (by decide +kernel)

end Sys

end WavLpddr
