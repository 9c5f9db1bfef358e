import WavLpddr.CaPrep

/-!
# Configuring the PHY for a frequency

`wddr_configure_phy` prepares, in one mode-set bank, the DQ bytes and the CA
block of both channels, the reference voltage of the common block, and the DFI
pipelines.  Configuring for one frequency and then for another leaves what
configuring for the second alone leaves.
-/

namespace WavLpddr

open RegisterFile

variable [KernelIo]

/-- The register spaces of the DDR blocks of the PHY. -/
@[ext]
structure PhyRegs where
  /-- The DQ bytes, by channel and byte. -/
  dq : Nat → Nat → DqRegs
  ca : Nat → CaRegs
  cmn : CmnRegs

def cmnVrefSetCodeRegIf (msr : WddrMsr) (code : Word) (cmnReg : CmnRegs) : CmnRegs :=
  cmnReg |> modifyReg ⟨.ddrCmnVrefCfg, [msr.index]⟩ (fun regVal =>
    updateRegField regVal ddrCmnVrefM0CfgCtrl code)

def cmnVrefSetPwrModeRegIf (msr : WddrMsr) (pwrMode : VrefPwrMode)
    (cmnReg : CmnRegs) : CmnRegs :=
  cmnReg |> modifyReg ⟨.ddrCmnVrefCfg, [msr.index]⟩ (fun regVal =>
    updateRegField regVal ddrCmnVrefM0CfgPwr pwrMode.value)

def commonBlockFreqSwitchPrep (msr : WddrMsr) (cfg : VrefCfg) (cmnReg : CmnRegs) :
    CmnRegs :=
  cmnReg
  |> cmnVrefSetCodeRegIf msr (cfg.code.setWidth 32)
  |> cmnVrefSetPwrModeRegIf msr cfg.powerMode

/-- The pipeline setters of `dfi_dp.c`, which differ in the register and in its
three fields. -/
def dfiSetPipeCfgRegIf (name : DfichRegName) (postGbFcDly gbMode pipeEn : RegField)
    (msr : WddrMsr) (cfg : DfiPipeCfg) (dfichReg : DfichRegs) : DfichRegs :=
  dfichReg |> modifyReg ⟨name, [msr.index]⟩ (fun regVal =>
    let regVal := updateRegField regVal postGbFcDly (cfg.postGbFcDly.setWidth 32)
    let regVal := updateRegField regVal gbMode (cfg.gbMode.setWidth 32)
    updateRegField regVal pipeEn (cfg.pipeEn.setWidth 32))

def dfiSetWrdCfgRegIf : WddrMsr → DfiPipeCfg → DfichRegs → DfichRegs :=
  dfiSetPipeCfgRegIf .ddrDfichWrdCfg ddrDfichWrdM0CfgPostGbFcDly
    ddrDfichWrdM0CfgGbMode ddrDfichWrdM0CfgPipeEn

def dfiSetCkctrlCfgRegIf : WddrMsr → DfiPipeCfg → DfichRegs → DfichRegs :=
  dfiSetPipeCfgRegIf .ddrDfichCkctrlCfg ddrDfichCkctrlM0CfgPostGbFcDly
    ddrDfichCkctrlM0CfgGbMode ddrDfichCkctrlM0CfgPipeEn

def dfiSetWctrlCfgRegIf : WddrMsr → DfiPipeCfg → DfichRegs → DfichRegs :=
  dfiSetPipeCfgRegIf .ddrDfichWctrlCfg ddrDfichWctrlM0CfgPostGbFcDly
    ddrDfichWctrlM0CfgGbMode ddrDfichWctrlM0CfgPipeEn

def dfiSetRctrlCfgRegIf : WddrMsr → DfiPipeCfg → DfichRegs → DfichRegs :=
  dfiSetPipeCfgRegIf .ddrDfichRctrlCfg ddrDfichRctrlM0CfgPostGbFcDly
    ddrDfichRctrlM0CfgGbMode ddrDfichRctrlM0CfgPipeEn

def dfiSetWckctrlCfgRegIf : WddrMsr → DfiPipeCfg → DfichRegs → DfichRegs :=
  dfiSetPipeCfgRegIf .ddrDfichWckctrlCfg ddrDfichWckctrlM0CfgPostGbFcDly
    ddrDfichWckctrlM0CfgGbMode ddrDfichWckctrlM0CfgPipeEn

def dfiSetWrcctrlCfgRegIf : WddrMsr → DfiPipeCfg → DfichRegs → DfichRegs :=
  dfiSetPipeCfgRegIf .ddrDfichWrcctrlCfg ddrDfichWrcctrlM0CfgPostGbFcDly
    ddrDfichWrcctrlM0CfgGbMode ddrDfichWrcctrlM0CfgPipeEn

def dfiSetWrcCfgRegIf : WddrMsr → DfiPipeCfg → DfichRegs → DfichRegs :=
  dfiSetPipeCfgRegIf .ddrDfichWrcCfg ddrDfichWrcM0CfgPostGbFcDly
    ddrDfichWrcM0CfgGbMode ddrDfichWrcM0CfgPipeEn

def dfiSetWenctrlCfgRegIf : WddrMsr → DfiPipeCfg → DfichRegs → DfichRegs :=
  dfiSetPipeCfgRegIf .ddrDfichWenctrlCfg ddrDfichWenctrlM0CfgPostGbFcDly
    ddrDfichWenctrlM0CfgGbMode ddrDfichWenctrlM0CfgPipeEn

/-- The read-data pipeline only has a gearbox mode. -/
def dfiSetRddCfgRegIf (msr : WddrMsr) (cfg : DfiPipeCfg) (dfichReg : DfichRegs) :
    DfichRegs :=
  dfichReg |> modifyReg ⟨.ddrDfichRddCfg, [msr.index]⟩ (fun regVal =>
    updateRegField regVal ddrDfichRddM0CfgGbMode (cfg.gbMode.setWidth 32))

def dfiSetPadenPextCfgRegIf (msr : WddrMsr) (cfg : DfiPadenPextCfg)
    (dfichReg : DfichRegs) : DfichRegs :=
  dfichReg
  |> write ⟨.ddrDfichCtrl3Cfg, [msr.index]⟩ cfg.wrd
  |> write ⟨.ddrDfichCtrl4Cfg, [msr.index]⟩ cfg.wck
  |> write ⟨.ddrDfichCtrl5Cfg, [msr.index]⟩ cfg.rd

def dfiSetClkenPextCfgRegIf (msr : WddrMsr) (cfg : Word) (dfichReg : DfichRegs) :
    DfichRegs :=
  dfichReg |> write ⟨.ddrDfichCtrl2Cfg, [msr.index]⟩ cfg

def dfiSetOvrTrafficCfgRegIf (msr : WddrMsr) (cfg : Word) (dfichReg : DfichRegs) :
    DfichRegs :=
  dfichReg |> write ⟨.ddrDfichCtrl1Cfg, [msr.index]⟩ cfg

def dfiFreqSwitchPrep (msr : WddrMsr) (cfg : DfiFreqCfg) (dfichReg : DfichRegs) :
    DfichRegs :=
  dfichReg
  |> dfiSetWrdCfgRegIf msr cfg.wrd
  |> dfiSetWrcctrlCfgRegIf msr cfg.wrcctrl
  |> dfiSetCkctrlCfgRegIf msr cfg.ckctrl
  |> dfiSetWctrlCfgRegIf msr cfg.wctrl
  |> dfiSetRctrlCfgRegIf msr cfg.rctrl
  |> dfiSetRddCfgRegIf msr cfg.rdd
  |> dfiSetWckctrlCfgRegIf msr cfg.wckctrl
  |> dfiSetWrcCfgRegIf msr cfg.wrc
  |> dfiSetWenctrlCfgRegIf msr cfg.wenctrl
  |> dfiSetPadenPextCfgRegIf msr cfg.padenPext
  |> dfiSetClkenPextCfgRegIf msr cfg.clkenPext
  |> dfiSetOvrTrafficCfgRegIf msr cfg.ovrTraffic

/-- The channel loop of `wddr_configure_phy`. -/
def channelsFreqSwitchPrep (msr : WddrMsr) (common : WddrCommonCfg) (cfg : WddrFreqCfg)
    (phy : PhyRegs) : PhyRegs :=
  { phy with
    dq := forRange wddrPhyChannelNum (fun channel dq =>
      Function.update dq channel
        (forRange wddrPhyDqByteNum (fun byte bytes =>
          Function.update bytes byte
            (dqBlockFreqSwitchPrep msr common.zqcal ((cfg.channel channel).dq byte)
              (common.dqRx channel byte) (bytes byte))) (dq channel))) phy.dq
    ca := forRange wddrPhyChannelNum (fun channel ca =>
      Function.update ca channel
        (caBlockFreqSwitchPrep msr common.zqcal (cfg.channel channel).ca (ca channel)))
      phy.ca }

/-- `wddr_configure_phy` on the DDR blocks. -/
def configurePhyRegs (msr : WddrMsr) (common : WddrCommonCfg) (cfg : WddrFreqCfg)
    (phy : PhyRegs) : PhyRegs :=
  let phy := channelsFreqSwitchPrep msr common cfg phy
  { phy with cmn := commonBlockFreqSwitchPrep msr cfg.vref phy.cmn }

section Rewrites

theorem commonBlockFreqSwitchPrep_overwrites (msr : WddrMsr) :
    Overwrites (bankOf [.ddrCmnVrefCfg] msr)
      fun (cfg : VrefCfg) cmnReg => commonBlockFreqSwitchPrep msr cfg cmnReg := by
  have listed : (⟨.ddrCmnVrefCfg, [msr.index]⟩ : ArrayReg CmnRegName) ∈
      bankOf [.ddrCmnVrefCfg] msr := mem_bankOf (by decide)
  have code := Overwrites.modifyReg listed
    (wordOverwrites_updateRegField .id ddrCmnVrefM0CfgCtrl
      fun cfg : VrefCfg => cfg.code.setWidth 32)
  have pwrMode := Overwrites.modifyReg listed
    (wordOverwrites_updateRegField .id ddrCmnVrefM0CfgPwr
      fun cfg : VrefCfg => cfg.powerMode.value)
  exact pwrMode.comp code

def dfichNames : List DfichRegName :=
  [.ddrDfichWrdCfg, .ddrDfichWrcctrlCfg, .ddrDfichCkctrlCfg, .ddrDfichWctrlCfg,
    .ddrDfichRctrlCfg, .ddrDfichRddCfg, .ddrDfichWckctrlCfg, .ddrDfichWrcCfg,
    .ddrDfichWenctrlCfg, .ddrDfichCtrl1Cfg, .ddrDfichCtrl2Cfg, .ddrDfichCtrl3Cfg,
    .ddrDfichCtrl4Cfg, .ddrDfichCtrl5Cfg]

theorem dfiSetPipeCfgRegIf_overwrites {Config : Type} (name : DfichRegName)
    (postGbFcDly gbMode pipeEn : RegField) (msr : WddrMsr) (pipe : Config → DfiPipeCfg)
    (listed : name ∈ dfichNames) :
    Overwrites (bankOf dfichNames msr) fun cfg dfichReg =>
      dfiSetPipeCfgRegIf name postGbFcDly gbMode pipeEn msr (pipe cfg) dfichReg := by
  refine .modifyReg (mem_bankOf listed) ?_
  repeat refine wordOverwrites_updateRegField ?_ _ _
  exact .id

theorem dfiFreqSwitchPrep_overwrites (msr : WddrMsr) :
    Overwrites (bankOf dfichNames msr)
      fun (cfg : DfiFreqCfg) dfichReg => dfiFreqSwitchPrep msr cfg dfichReg := by
  have pipe := fun (name : DfichRegName) (listed : name ∈ dfichNames)
      (postGbFcDly gbMode pipeEn : RegField) (part : DfiFreqCfg → DfiPipeCfg) =>
    dfiSetPipeCfgRegIf_overwrites name postGbFcDly gbMode pipeEn msr part listed
  refine .thenWrite ?_ (mem_bankOf (by decide)) _
  refine .thenWrite ?_ (mem_bankOf (by decide)) _
  refine .thenWrite ?_ (mem_bankOf (by decide)) _
  refine .thenWrite ?_ (mem_bankOf (by decide)) _
  refine .thenWrite ?_ (mem_bankOf (by decide)) _
  refine (pipe .ddrDfichWenctrlCfg (by decide) _ _ _ (·.wenctrl)).comp ?_
  refine (pipe .ddrDfichWrcCfg (by decide) _ _ _ (·.wrc)).comp ?_
  refine (pipe .ddrDfichWckctrlCfg (by decide) _ _ _ (·.wckctrl)).comp ?_
  refine .thenModifyReg ?_ (mem_bankOf (by decide))
    (wordOverwrites_updateRegField .id _ _)
  refine (pipe .ddrDfichRctrlCfg (by decide) _ _ _ (·.rctrl)).comp ?_
  refine (pipe .ddrDfichWctrlCfg (by decide) _ _ _ (·.wctrl)).comp ?_
  refine (pipe .ddrDfichCkctrlCfg (by decide) _ _ _ (·.ckctrl)).comp ?_
  refine (pipe .ddrDfichWrcctrlCfg (by decide) _ _ _ (·.wrcctrl)).comp ?_
  exact pipe .ddrDfichWrdCfg (by decide) _ _ _ (·.wrd)

/-- The DQ byte of each channel is prepared by itself. -/
theorem configurePhyRegs_dq (msr : WddrMsr) (common : WddrCommonCfg)
    (cfg : WddrFreqCfg) (phy : PhyRegs) (channel byte : Nat) :
    (configurePhyRegs msr common cfg phy).dq channel byte =
      if channel < wddrPhyChannelNum ∧ byte < wddrPhyDqByteNum then
        dqBlockFreqSwitchPrep msr common.zqcal ((cfg.channel channel).dq byte)
          (common.dqRx channel byte) (phy.dq channel byte)
      else phy.dq channel byte := by
  have channels := forRange_update
    (fun channel bytes => forRange wddrPhyDqByteNum (fun byte bytes =>
      Function.update bytes byte
        (dqBlockFreqSwitchPrep msr common.zqcal ((cfg.channel channel).dq byte)
          (common.dqRx channel byte) (bytes byte))) bytes)
    wddrPhyChannelNum phy.dq channel
  have bytes := forRange_update
    (fun byte regs => dqBlockFreqSwitchPrep msr common.zqcal
      ((cfg.channel channel).dq byte) (common.dqRx channel byte) regs)
    wddrPhyDqByteNum (phy.dq channel) byte
  simp only [configurePhyRegs, channelsFreqSwitchPrep, channels]
  by_cases inChannels : channel < wddrPhyChannelNum
  · simp only [inChannels, if_true, true_and, bytes]
  · simp only [inChannels, if_false, false_and]

theorem configurePhyRegs_ca (msr : WddrMsr) (common : WddrCommonCfg)
    (cfg : WddrFreqCfg) (phy : PhyRegs) (channel : Nat) :
    (configurePhyRegs msr common cfg phy).ca channel =
      if channel < wddrPhyChannelNum then
        caBlockFreqSwitchPrep msr common.zqcal (cfg.channel channel).ca (phy.ca channel)
      else phy.ca channel :=
  forRange_update
    (fun channel regs => caBlockFreqSwitchPrep msr common.zqcal (cfg.channel channel).ca
      regs) wddrPhyChannelNum phy.ca channel

theorem configurePhyRegs_cmn (msr : WddrMsr) (common : WddrCommonCfg)
    (cfg : WddrFreqCfg) (phy : PhyRegs) :
    (configurePhyRegs msr common cfg phy).cmn =
      commonBlockFreqSwitchPrep msr cfg.vref phy.cmn := rfl

/-- The later configuration of a bank absorbs an earlier one. -/
theorem configurePhyRegs_absorbs (msr : WddrMsr) (common : WddrCommonCfg)
    (first last : WddrFreqCfg) (phy : PhyRegs) :
    configurePhyRegs msr common last (configurePhyRegs msr common first phy) =
      configurePhyRegs msr common last phy := by
  have dqAbsorbs := fun channel byte =>
    (dqBlockFreqSwitchPrep_rewrites msr).absorbs
      (common.zqcal, (first.channel channel).dq byte, common.dqRx channel byte)
      (common.zqcal, (last.channel channel).dq byte, common.dqRx channel byte)
  have caAbsorbs := fun channel =>
    (caBlockFreqSwitchPrep_rewrites msr).absorbs
      (common.zqcal, (first.channel channel).ca) (common.zqcal, (last.channel channel).ca)
  have cmnAbsorbs :=
    (Rewrites.of_overwrites (commonBlockFreqSwitchPrep_overwrites msr)).absorbs
      first.vref last.vref
  apply PhyRegs.ext
  · funext channel byte
    simp only [configurePhyRegs_dq]
    by_cases inside : channel < wddrPhyChannelNum ∧ byte < wddrPhyDqByteNum
    · simpa only [if_pos inside] using dqAbsorbs channel byte (phy.dq channel byte)
    · simp only [if_neg inside]
  · funext channel
    simp only [configurePhyRegs_ca]
    by_cases inside : channel < wddrPhyChannelNum
    · simpa only [if_pos inside] using caAbsorbs channel (phy.ca channel)
    · simp only [if_neg inside]
  · simpa only [configurePhyRegs_cmn] using cmnAbsorbs phy.cmn

end Rewrites

end WavLpddr
