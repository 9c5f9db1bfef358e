import WavLpddr.DeviceRuns

/-!
# The request lines along every run

The lines that software drives follow the state of the DFI machine: each step that
enters or leaves a requesting state asserts or withdraws the line of that state.
While a switch is pending no request is outstanding, except a master request that
was already granted.
-/

namespace WavLpddr

open EventMachine TransitionSystem

section Lines

variable [KernelIo]

/-- The lines that are asserted are those of the state. -/
structure LinesMatch (dfiReg : DfiRegs) (state : DfiState) : Prop where
  phyupd : phyupdAsserted dfiReg ↔ state = .phyUpd
  phymstr : phymstrAsserted dfiReg ↔ state = .phyMstrPending ∨ state = .phyMstr

theorem LinesMatch.exclusive {dfiReg : DfiRegs} {state : DfiState}
    (lines : LinesMatch dfiReg state) : ¬ (phyupdAsserted dfiReg ∧ phymstrAsserted dfiReg) := by
  rw [lines.phyupd, lines.phymstr]
  rintro ⟨rfl, phymstr⟩
  simp at phymstr

theorem LinesMatch.of_sameLines {before after : DfiRegs} {state : DfiState}
    (lines : LinesMatch before state) (same : SameLines before after) :
    LinesMatch after state where
  phyupd := same.1.trans lines.phyupd
  phymstr := same.2.trans lines.phymstr

/-- The states in which no line is asserted. -/
def DfiState.Quiet (state : DfiState) : Prop :=
  state ≠ .phyUpd ∧ state ≠ .phyMstrPending ∧ state ≠ .phyMstr

theorem linesMatch_of_quiet {dfiReg : DfiRegs} {state : DfiState} (quiet : state.Quiet)
    (noPhyupd : ¬ phyupdAsserted dfiReg) (noPhymstr : ¬ phymstrAsserted dfiReg) :
    LinesMatch dfiReg state where
  phyupd := by simp [noPhyupd, quiet.1]
  phymstr := by simp [noPhymstr, quiet.2.1, quiet.2.2]

theorem LinesMatch.not_phyupd {dfiReg : DfiRegs} {state : DfiState}
    (lines : LinesMatch dfiReg state) (elsewhere : state ≠ .phyUpd) :
    ¬ phyupdAsserted dfiReg := by
  rw [lines.phyupd]
  exact elsewhere

theorem LinesMatch.not_phymstr {dfiReg : DfiRegs} {state : DfiState}
    (lines : LinesMatch dfiReg state) (notPending : state ≠ .phyMstrPending)
    (notGranted : state ≠ .phyMstr) : ¬ phymstrAsserted dfiReg := by
  rw [lines.phymstr]
  simp [notPending, notGranted]

/-- Without a request, moving between quiet states changes no line. -/
theorem LinesMatch.of_quiet {dfiReg : DfiRegs} {state other : DfiState}
    (lines : LinesMatch dfiReg state) (quiet : state.Quiet) (otherQuiet : other.Quiet) :
    LinesMatch dfiReg other :=
  linesMatch_of_quiet otherQuiet (lines.not_phyupd quiet.1)
    (lines.not_phymstr quiet.2.1 quiet.2.2)

omit [KernelIo] in
theorem DfiState.quiet_idle : DfiState.Quiet .idle := by simp [DfiState.Quiet]

omit [KernelIo] in
theorem DfiState.quiet_ctrlUpd : DfiState.Quiet .ctrlUpd := by simp [DfiState.Quiet]

theorem LinesMatch.phyupdAssert {dfiReg : DfiRegs} (lines : LinesMatch dfiReg .idle)
    (type : Word) : LinesMatch (dfiPhyupdReqAssertRegIf type dfiReg) .phyUpd where
  phyupd := by simp [phyupdAsserted_assert]
  phymstr := by simp [lines.not_phymstr]

theorem LinesMatch.phyupdDeassert {dfiReg : DfiRegs} (lines : LinesMatch dfiReg .phyUpd) :
    LinesMatch (dfiPhyupdReqDeassertRegIf dfiReg) .idle := by
  apply linesMatch_of_quiet DfiState.quiet_idle (not_phyupdAsserted_deassert dfiReg)
  rw [phymstrAsserted_phyupdDeassert]
  exact lines.not_phymstr (by simp) (by simp)

theorem LinesMatch.phymstrAssert {dfiReg : DfiRegs} (lines : LinesMatch dfiReg .idle)
    (req : DfiPhymstrReq) :
    LinesMatch (dfiPhymstrReqAssertRegIf req dfiReg) .phyMstrPending where
  phyupd := by simp [lines.not_phyupd]
  phymstr := by simp [phymstrAsserted_assert]

theorem LinesMatch.phymstrGrant {dfiReg : DfiRegs}
    (lines : LinesMatch dfiReg .phyMstrPending) : LinesMatch dfiReg .phyMstr where
  phyupd := by simp [lines.not_phyupd]
  phymstr := by simp [lines.phymstr]

theorem LinesMatch.phymstrDeassert {dfiReg : DfiRegs} {state : DfiState}
    (lines : LinesMatch dfiReg state) (requesting : state = .phyMstrPending ∨ state = .phyMstr) :
    LinesMatch (dfiPhymstrReqDeassertRegIf dfiReg) .idle := by
  have notPhyUpd : state ≠ .phyUpd := by
    rintro rfl
    simp at requesting
  apply linesMatch_of_quiet DfiState.quiet_idle
  · rw [phyupdAsserted_phymstrDeassert]
    exact lines.not_phyupd notPhyUpd
  · exact not_phymstrAsserted_deassert dfiReg

variable [BuildConfig]

theorem DfiStep.linesMatch {data : MsgData} {fw after : Fw} {event : FwPhyEvent}
    (step : DfiStep data fw event after) (lines : LinesMatch fw.wddr.dfi fw.dfi) :
    LinesMatch after.wddr.dfi after.dfi := by
  cases step with
  | ignored => exact lines
  | phymstrReq idle => exact (idle ▸ lines).phymstrAssert _
  | phyupdReq idle => exact (idle ▸ lines).phyupdAssert _
  | ctrlupdAssert idle entered =>
      obtain ⟨zqcal, phy, rfl⟩ := Fw.eq_of_enterCtrlUpd entered
      have inCtrlUpd := (idle ▸ lines).of_quiet DfiState.quiet_idle DfiState.quiet_ctrlUpd
      exact inCtrlUpd.of_sameLines (sameLines_ctrlupdDeassertAck fw.wddr.dfi)
  | phymstrAck pending => exact (pending ▸ lines).phymstrGrant
  | phymstrAbort pending => exact lines.phymstrDeassert (.inl pending)
  | phymstrExit granted => exact lines.phymstrDeassert (.inr granted)
  | phyupdAck updating finished =>
      obtain ⟨update, rfl⟩ := Fw.eq_of_finishPhyUpd finished
      exact (updating ▸ lines).phyupdDeassert
  | phyupdAbort updating => exact (updating ▸ lines).phyupdDeassert
  | ctrlupdDeassert updating =>
      exact (updating ▸ lines).of_quiet DfiState.quiet_ctrlUpd DfiState.quiet_idle

/-- The abort before the release leaves at most a granted master request. -/
theorem Fw.linesMatch_beforeRelease {fw : Fw} (lines : LinesMatch fw.wddr.dfi fw.dfi) :
    LinesMatch fw.beforeRelease.wddr.dfi fw.beforeRelease.dfi := by
  have sent : LinesMatch fw.sendPrepared.wddr.dfi fw.dfi :=
    lines.of_sameLines (sameLines_initComplete fw.wddr.dfi true true)
  unfold Fw.beforeRelease
  split
  · rename_i updating
    exact (updating ▸ sent).phyupdDeassert
  · rename_i pending
    exact sent.phymstrDeassert (.inl pending)
  · exact sent

theorem Fw.linesMatch_enterPending {fw : Fw} (lines : LinesMatch fw.wddr.dfi fw.dfi) :
    LinesMatch fw.enterPending.wddr.dfi fw.enterPending.dfi :=
  (fw.linesMatch_beforeRelease lines).of_sameLines
    (sameLines_initComplete fw.beforeRelease.wddr.dfi false true)

/-- The state of the DFI machine when `init_complete` is released. -/
theorem Fw.beforeRelease_dfi (fw : Fw) :
    fw.beforeRelease.dfi =
      if fw.dfi = .phyUpd ∨ fw.dfi = .phyMstrPending then .idle else fw.dfi := by
  unfold Fw.beforeRelease
  split
  · rename_i updating
    simp [Fw.abortPhyUpd, updating]
  · rename_i pending
    simp [Fw.abortPhyMstr, pending]
  · rename_i notUpdating notPending
    have other : ¬ (fw.dfi = .phyUpd ∨ fw.dfi = .phyMstrPending) :=
      not_or.mpr ⟨notUpdating, notPending⟩
    rw [if_neg other]
    rfl

end Lines

section Runs

variable [KernelIo]

/-- The two machines and the lines they drive, between two messages. -/
structure Fw.LinesSound (fw : Fw) : Prop where
  fswOrdinary : fw.fsw ≠ .error
  dfiOrdinary : fw.dfi ≠ .error
  lines : LinesMatch fw.wddr.dfi fw.dfi
  pending : fw.fsw = .pending → fw.dfi = .idle ∨ fw.dfi = .phyMstr
  resting : ¬ fw.Running → fw.fsw = .prep ∧ fw.dfi = .idle

variable [BuildConfig]

omit [BuildConfig] in
theorem Fw.LinesSound.of_same {before after : Fw} (sound : before.LinesSound)
    (same : before.SameControl after) : after.LinesSound where
  fswOrdinary := same.fsw ▸ sound.fswOrdinary
  dfiOrdinary := same.dfi ▸ sound.dfiOrdinary
  lines := by
    rw [same.lines, same.dfi]
    exact sound.lines
  pending := by
    rw [same.fsw, same.dfi]
    exact sound.pending
  resting := by
    rw [Fw.Running, same.ready, same.error, same.fsw, same.dfi]
    exact sound.resting

theorem DfiStep.dfi_ne_error {data : MsgData} {fw after : Fw} {event : FwPhyEvent}
    (step : DfiStep data fw event after) (ordinary : fw.dfi ≠ .error) :
    after.dfi ≠ .error := by
  cases step with
  | ignored => exact ordinary
  | ctrlupdAssert idle entered =>
      obtain ⟨zqcal, phy, rfl⟩ := Fw.eq_of_enterCtrlUpd entered
      simp
  | phyupdAck updating finished =>
      obtain ⟨update, rfl⟩ := Fw.eq_of_finishPhyUpd finished
      simp
  | _ =>
      simp [Fw.enterPhyMstrPending, Fw.enterPhyUpd, Fw.enterPhyMstr, Fw.abortPhyMstr,
        Fw.exitPhyMstr, Fw.abortPhyUpd, Fw.exitCtrlUpd]

theorem DfiStep.linesSound {data : MsgData} {fw after : Fw} {event : FwPhyEvent}
    (step : DfiStep data fw event after) (sound : fw.LinesSound) (running : fw.Running)
    (admitted : fw.fsw ≠ .pending) : after.LinesSound := by
  have frame := step.frame
  constructor
  · rw [frame.fsw]
    exact sound.fswOrdinary
  · exact step.dfi_ne_error sound.dfiOrdinary
  · exact step.linesMatch sound.lines
  · rw [frame.fsw]
    exact fun pending => absurd pending admitted
  · rw [Fw.Running, frame.ready, frame.error]
    exact fun notRunning => absurd running notRunning

theorem Fw.LinesSound.enterPending {fw : Fw} (sound : fw.LinesSound) (running : fw.Running)
    (admitted : fw.dfi ≠ .ctrlUpd) : fw.enterPending.LinesSound := by
  have dfi : fw.enterPending.dfi = .idle ∨ fw.enterPending.dfi = .phyMstr := by
    have released : fw.enterPending.dfi = fw.beforeRelease.dfi := rfl
    rw [released, fw.beforeRelease_dfi]
    have ordinary := sound.dfiOrdinary
    cases state : fw.dfi <;> simp_all
  constructor
  · simp [Fw.enterPending]
  · rcases dfi with idle | granted
    · simp [idle]
    · simp [granted]
  · exact Fw.linesMatch_enterPending sound.lines
  · exact fun _ => dfi
  · rw [Fw.Running, fw.fswFrame_enterPending.ready, fw.fswFrame_enterPending.error]
    exact fun notRunning => absurd running notRunning

omit [BuildConfig] in
theorem Fw.LinesSound.of_prep {before after : Fw} (sound : before.LinesSound)
    (inPrep : after.fsw = .prep) (sameDfi : after.dfi = before.dfi)
    (sameLines : after.wddr.dfi = before.wddr.dfi) (running : after.Running) :
    after.LinesSound where
  fswOrdinary := by simp [inPrep]
  dfiOrdinary := sameDfi ▸ sound.dfiOrdinary
  lines := by
    rw [sameLines, sameDfi]
    exact sound.lines
  pending isPending := by simp [inPrep] at isPending
  resting notRunning := absurd running notRunning

variable [Device]

theorem FswStep.linesSound {data : MsgData} {fw after : Fw} {event : FwPhyEvent}
    {current : VcoIndex} (step : FswStep data fw event after) (sound : fw.LinesSound)
    (device : fw.DeviceSound current) (running : fw.Running) (admitted : fw.dfi ≠ .ctrlUpd) :
    after.LinesSound := by
  cases step with
  | ignored => exact sound
  | prep inPrep prepared =>
      rcases Fw.eq_of_prepareSwitch device.sound prepared with ⟨-, rfl⟩ | ⟨-, -, rfl⟩
      · exact sound.of_prep rfl rfl (fw.prepared_dfiRegs _ _) running
      · exact sound.of_prep rfl rfl rfl running
  | initStart inPrep => exact sound.enterPending running admitted
  | pllLock pending => exact sound.of_prep rfl rfl rfl running

omit [BuildConfig] [Device] in
theorem Fw.LinesSound.finishStart {fw : Fw} {current : VcoIndex} {booted : WddrReturn × Wddr}
    (sound : fw.LinesSound) (notReady : fw.ready = false)
    (ends : Wddr.BootEnds fw.wddr current booted) : (fw.finishStart booted).2.LinesSound := by
  obtain ⟨inPrep, idle⟩ := sound.resting (fun running => by simp [running.1] at notReady)
  have lines : LinesMatch fw.wddr.dfi .idle := idle ▸ sound.lines
  have settled : ∀ after : Fw, after.fsw = fw.fsw → after.dfi = fw.dfi →
      LinesMatch after.wddr.dfi .idle → after.LinesSound := by
    intro after sameFsw sameDfi linesAfter
    rw [inPrep] at sameFsw
    rw [idle] at sameDfi
    exact ⟨by simp [sameFsw], by simp [sameDfi], sameDfi ▸ linesAfter, fun _ => .inl sameDfi,
      fun _ => ⟨sameFsw, sameDfi⟩⟩
  unfold Fw.finishStart
  rcases ends with ⟨succeeded, handed, -⟩ | ⟨failed, quiet, -⟩
  · rw [if_neg (not_not_intro succeeded)]
    have released : LinesMatch booted.2.released.dfi .idle :=
      (lines.of_sameLines handed.lines).of_sameLines
        (sameLines_ctrlupdAckOverride booted.2.dfi true false)
    split
    · exact settled _ rfl rfl released
    · exact settled _ rfl rfl released
  · rw [if_pos failed]
    exact settled _ rfl rfl (by rw [quiet.dfi]; exact lines)

theorem Handled.linesSound {data : MsgData} {fw after : Fw} {event : FwPhyEvent}
    {response : FwResponse} {current : VcoIndex} (ran : Handled data fw event response after)
    (sound : fw.LinesSound) (device : fw.DeviceSound current) : after.LinesSound := by
  cases ran with
  | refused => exact sound
  | start notReady boots =>
      have aligned := fun isBooted => device.aligned isBooted notReady
      have ends := (Wddr.wddrBoot_ends device.sound aligned fw.hw _).good_of_ok boots
      exact sound.finishStart notReady ends
  | dfi _ running admitted step => exact step.linesSound sound running admitted
  | fsw _ running admitted step => exact step.linesSound sound device running admitted

end Runs

namespace Sys

section Release

variable [Platform]

theorem linesSound_of_initial {sys : Sys} (starts : system.initial sys) :
    sys.fw.LinesSound := by
  obtain ⟨table, reset, hw, timerStarts, -, isReset, rfl⟩ := starts
  have sameDfi : (reset.wddrInit table).dfi = reset.dfi := Wddr.wddrInit_dfi reset table
  have lines : LinesMatch (reset.wddrInit table).dfi .idle := by
    rw [sameDfi]
    apply linesMatch_of_quiet DfiState.quiet_idle
    · rintro ⟨ovr, -⟩
      rw [isReset.phyupd, getRegField_eq] at ovr
      exact absurd ovr (by decide)
    · rintro ⟨ovr, -⟩
      rw [isReset.phymstr, getRegField_eq] at ovr
      exact absurd ovr (by decide)
  exact ⟨by simp [started], by simp [started], lines, fun _ => .inl rfl, fun _ => ⟨rfl, rfl⟩⟩

theorem linesSound_of_reachable {sys : Sys} (reachable : system.Reachable sys) :
    sys.fw.LinesSound := by
  apply reachable.invariant (motive := fun sys => sys.fw.LinesSound)
  · exact fun _ => linesSound_of_initial
  · intro label sys next before _ taken sound
    obtain ⟨current, device⟩ := deviceSound_of_reachable before
    by_cases isProcess : label = .process
    · subst isProcess
      obtain ⟨msg, -, step⟩ := processStep_of_taken taken
      cases step with
      | unknown => exact sound
      | failed => exact sound
      | answered _ ran =>
          rw [answered_fw]
          exact ran.linesSound sound device
    · exact sound.of_same (sameControl_of_taken taken isProcess)

/-- The firmware task is about to run `fsw_pending_entry_handler`. -/
def EntersPending (sys : Sys) : Prop :=
  Handles .process sys fun msg => msg.Is .initStart ∧ sys.fw.Running ∧ sys.fw.fsw = .prep ∧
    sys.fw.dfi ≠ .ctrlUpd

instance (sys : Sys) : Decidable sys.EntersPending :=
  inferInstanceAs (Decidable (Handles _ _ _))

/-- When the entry handler releases `init_complete`, the PHY asserts no request. -/
def ReleasesQuietly (sys : Sys) : Prop :=
  sys.EntersPending → ∀ released, fswPendingBeforeRelease sys.fw = .ok ((), released) →
    ¬ phyupdAsserted released.wddr.dfi ∧ ¬ phymstrAsserted released.wddr.dfi

/-- The release is quiet except when the controller has granted a master request. -/
theorem releasesQuietly_iff {sys : Sys} (reachable : system.Reachable sys) :
    sys.ReleasesQuietly ↔ ¬ (sys.EntersPending ∧ sys.fw.dfi = .phyMstr) := by
  have sound := linesSound_of_reachable reachable
  have lines := Fw.linesMatch_beforeRelease sound.lines
  have state := sys.fw.beforeRelease_dfi
  constructor
  · rintro quiet ⟨enters, granted⟩
    have asserted : phymstrAsserted sys.fw.beforeRelease.wddr.dfi := by
      rw [lines.phymstr, state, granted]
      simp
    exact (quiet enters _ (fswPendingBeforeRelease_eq sys.fw)).2 asserted
  · intro notGranted enters released ran
    have isReleased : sys.fw.beforeRelease = released := by
      rw [fswPendingBeforeRelease_eq] at ran
      exact congrArg Prod.snd (Except.ok.inj ran)
    have otherState : sys.fw.dfi ≠ .phyMstr := fun granted => notGranted ⟨enters, granted⟩
    rw [← isReleased, lines.phyupd, lines.phymstr, state]
    split
    · simp
    · rename_i notRequesting
      rw [not_or] at notRequesting
      exact ⟨notRequesting.1, not_or.mpr ⟨notRequesting.2, otherState⟩⟩

end Release

/-- A switch starts while the DFI machine is idle. -/
theorem releasesQuietly_idle :
    @ReleasesQuietly referencePlatform
      (after (bootRun ++ prepRun 0 ++ initStartIrq ++ [.receive]) (by decide +kernel)) :=
  (@releasesQuietly_iff referencePlatform _ (reachable_after _)).mpr (by decide +kernel)

/-- The periodic calibration asks for the bus, and the controller grants it. -/
def grantedRun : List Label :=
  [.cal, .cal, .cal, .cal] ++ handleNext ++
    [.raise .phymstrAck, .isr .phymstrAck .null none []] ++ handleNext

/-- A switch starts after the controller granted a master request. -/
def grantedState : Sys :=
  after (bootRun ++ prepRun 0 ++ grantedRun ++ initStartIrq ++ [.receive]) (by decide +kernel)

theorem not_releasesQuietly_granted :
    referenceSystem.Reachable grantedState ∧ ¬ @ReleasesQuietly referencePlatform grantedState := by
  constructor
  · exact reachable_after _
  · intro quiet
    exact absurd (quiet (by decide +kernel) _ rfl).2 (by decide +kernel)

end Sys

end WavLpddr
