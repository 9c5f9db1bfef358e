import WavLpddr.Mr13Shadow

/-!
# What the ranks hold during a session

A call changes the copies of the device, sends a script of writes, and may move the pointer.
As long as every script is delivered, the first rank holds the copy of MR13, and it holds the
entry from the initialisation of a frequency on until the pointer is moved without one.  The
second rank is reached by such an initialisation only, and keeps the registers that it gave.
-/

namespace WavLpddr

open Function TransitionSystem TxPacketBuffer

namespace DramSession

theorem current_onCfg (update : DramFreqCfg → DramFreqCfg) (session : DramSession) :
    (session.onCfg update).current = update session.current :=
  Function.update_self _ _ _

/-- A change that leaves the entry as it is leaves the session as it is. -/
theorem onCfg_of_eq {update : DramFreqCfg → DramFreqCfg} {session : DramSession}
    (same : update session.current = session.current) : session.onCfg update = session := by
  rw [onCfg, same, current, Function.update_eq_self]

/-- To write the MR2 that the entry has does not change the entry. -/
theorem dramWriteModeRegister2_current [KernelIo] [Device] (heapFails : Nat → Bool)
    (session : DramSession) :
    session.dramWriteModeRegister2 heapFails session.current.mr2 =
      session.dramWriteModeRegister heapFails 0x2 session.current.mr2 := by
  have same : (session.onCfg fun cfg => { cfg with mr2 := session.current.mr2 }) = session :=
    onCfg_of_eq rfl
  rw [dramWriteModeRegister2, same]

end DramSession

namespace DramCall

/-- The copies that a call changes before it sends. -/
def change (session : DramSession) : DramCall → DramSession
  | mr13 call => session.setMr13 (call.value session.mr13)
  | writeModeRegister14 mr14 => session.onCfg fun cfg => { cfg with mr14 := mr14 }
  | writeModeRegister2 mr2 => session.onCfg fun cfg => { cfg with mr2 := mr2 }
  | setDqVref vrefSetting => session.onCfg fun cfg => { cfg with mr14 := vrefSetting }
  | wrlvlEnable => session.onCfg fun cfg => { cfg with mr2 := cfg.mr2 ||| wrlvlMsk }
  | wrlvlDisable => session.onCfg fun cfg => { cfg with mr2 := cfg.mr2 &&& ~~~wrlvlMsk }
  | _ => session

/-- What a call sends after it changed the copies. -/
def script (session : DramSession) : DramCall → List Sending
  | mr13 call => call.script session
  | powerDown => [.ck 1, .ck 10]
  | idle => [.ck 1, .cke 30]
  | frequencyInit cfg =>
      .cke 1 :: (rankedUpdates (session.cfgs cfg)).map fun update =>
        .write update.1 update.2
  | writeModeRegister14 _ => [.write 0 (0xE, session.current.mr14, 1)]
  | setDqVref _ => [.write 0 (0xE, session.current.mr14, 1)]
  | writeModeRegister2 _ => [.write 0 (0x2, session.current.mr2, 1)]
  | wrlvlEnable => [.write 0 (0x2, session.current.mr2, 1)]
  | wrlvlDisable => [.write 0 (0x2, session.current.mr2, 1)]

/-- Where the pointer leads after a call. -/
def aim (session : DramSession) : DramCall → DramSession
  | frequencyInit cfg => session.dramFrequencySet cfg
  | _ => session

theorem script_ne_nil (session : DramSession) (call : DramCall) : call.script session ≠ [] := by
  cases call with
  | mr13 call => exact call.script_ne_nil session
  | _ => exact List.cons_ne_nil _ _

/-- A script writes registers that exist. -/
theorem known_script (session : DramSession) (call : DramCall) :
    ∀ item ∈ call.script session, item.Known := by
  have single : ∀ register op wait, register ≤ modeRegisterNumMax →
      ∀ item ∈ [Sending.write 0 (register, op, wait)], item.Known := by
    intro register op wait known
    exact List.forall_mem_singleton.mpr known
  cases call with
  | mr13 call => exact call.known_script session
  | powerDown =>
      exact List.forall_mem_cons.mpr ⟨trivial, List.forall_mem_singleton.mpr trivial⟩
  | idle => exact List.forall_mem_cons.mpr ⟨trivial, List.forall_mem_singleton.mpr trivial⟩
  | frequencyInit cfg =>
      refine List.forall_mem_cons.mpr ⟨trivial, ?_⟩
      rw [List.forall_mem_map]
      exact known_rankedUpdates
  | _ => exact single _ _ _ (by decide)

end DramCall

namespace DramStep

variable [KernelIo] [Device]

/-- Every call changes the copies, sends its script and moves the pointer. -/
theorem run_eq (step : DramStep) (session : DramSession) :
    step.run session = step.call.aim ((step.call.change session).transmit step.heapFails
      (Script.build (step.call.change session).current.ratio
        (step.call.script (step.call.change session)))) := by
  obtain ⟨call, heapFails⟩ := step
  cases call with
  | mr13 call => exact Mr13Step.run_eq ⟨call, heapFails⟩ session
  | powerDown => rfl
  | idle => rfl
  | frequencyInit cfg =>
      have builds : Script.build session.current.ratio
          ((DramCall.frequencyInit cfg).script session) =
            fun buffer => buffer.dramPrepareMrwUpdate session.current.ratio
              (session.cfgs cfg) := by
        funext buffer
        rw [dramPrepareMrwUpdate_eq, Script.build, DramCall.script, List.foldl_cons,
          List.foldl_map]
        rfl
      exact congrArg (fun build => (session.transmit heapFails build).dramFrequencySet cfg)
        builds.symm
  | writeModeRegister14 mr14 =>
      let changed := session.onCfg fun cfg => { cfg with mr14 := mr14 }
      have copy : changed.current.mr14 = mr14 :=
        congrArg DramFreqCfg.mr14 (session.current_onCfg _)
      exact congrArg (changed.dramWriteModeRegister heapFails 0xE) copy.symm
  | setDqVref vrefSetting =>
      let changed := session.onCfg fun cfg => { cfg with mr14 := vrefSetting }
      have copy : changed.current.mr14 = vrefSetting :=
        congrArg DramFreqCfg.mr14 (session.current_onCfg _)
      exact congrArg (changed.dramWriteModeRegister heapFails 0xE) copy.symm
  | writeModeRegister2 mr2 =>
      let changed := session.onCfg fun cfg => { cfg with mr2 := mr2 }
      have copy : changed.current.mr2 = mr2 :=
        congrArg DramFreqCfg.mr2 (session.current_onCfg _)
      exact congrArg (changed.dramWriteModeRegister heapFails 0x2) copy.symm
  | wrlvlEnable => exact DramSession.dramWriteModeRegister2_current heapFails _
  | wrlvlDisable => exact DramSession.dramWriteModeRegister2_current heapFails _

/-- The script of the call is delivered. -/
def Delivered (step : DramStep) (session : DramSession) : Prop :=
  Script.Delivered session.current.ratio step.heapFails
    (step.call.script (step.call.change session))

end DramStep

/-- A call, or the pointer is moved and nothing is sent. -/
inductive DramLabel
  | call (step : DramStep)
  | frequencySet (cfg : Nat)

/-- A configuration that the ranks were given, as it was then, and whether the pointer still
leads to it. -/
structure GivenCfg where
  cfg : DramFreqCfg
  aimed : Bool

section System

variable [KernelIo] [Device]

def DramLabel.run (session : DramSession) : DramLabel → DramSession
  | call step => step.run session
  | frequencySet cfg => session.dramFrequencySet cfg

end System

/-- Only the settings of training differ. -/
def DramFreqCfg.Retrains (cfg trained : DramFreqCfg) : Prop :=
  trained = { cfg with mr2 := trained.mr2, mr14 := trained.mr14 }

/-- What the ranks hold: the first one the copy of MR13, and the entry while the pointer leads to
the one given last; the second one what it was given last. -/
structure Mirrors (start : ModeRegisters) (session : DramSession) (given : Option GivenCfg) :
    Prop where
  copy : session.modes 0 0xD = session.mr13
  first : ∀ cfg, given = some ⟨cfg, true⟩ →
    session.modes.Follows session.current 0 ∧ cfg.Retrains session.current
  second : ∀ last, given = some last → session.modes.Follows last.cfg 1
  untouched : given = none → ∀ register, session.modes 1 register = start 1 register
  others : ∀ rank, ∀ register ∉ ModeRegisters.governed, (rank, register) ≠ (0, 0xD) →
    session.modes rank register = start rank register

namespace ModeRegisters

variable {modes : ModeRegisters} {cfg : DramFreqCfg}

/-- A rank keeps following while another register is written. -/
theorem Follows.store {written : BitVec 6} (follows : modes.Follows cfg 0)
    (outside : written ∉ governed) (op : BitVec 8) :
    ((ModeRegisterWrite.mk 1 written op).store modes).Follows cfg 0 := by
  have keeps : ∀ register ∈ governed,
      (ModeRegisterWrite.mk 1 written op).store modes 0 register = modes 0 register := by
    intro register inside
    apply store_of_ne
    rintro rfl
    exact outside inside
  exact ⟨(keeps 1 (by decide)).trans follows.mr1, (keeps 2 (by decide)).trans follows.mr2,
    (keeps 11 (by decide)).trans follows.mr11, (keeps 12 (by decide)).trans follows.mr12,
    (keeps 14 (by decide)).trans follows.mr14⟩

/-- A rank whose registers are the same follows the same. -/
theorem Follows.of_eq {other : ModeRegisters} {rank : Nat} (follows : modes.Follows cfg rank)
    (same : other rank = modes rank) : other.Follows cfg rank := by
  constructor <;> rw [same]
  · exact follows.mr1
  · exact follows.mr2
  · exact follows.mr11
  · exact follows.mr12
  · exact follows.mr14

end ModeRegisters

section Invariant

variable {start : ModeRegisters} {session next : DramSession} {given : Option GivenCfg}

/-- What sends no write and changes no copy. -/
theorem Mirrors.of_same (mirrors : Mirrors start session given)
    (same : session.SameCopies next) (modes : next.modes = session.modes) :
    Mirrors start next given where
  copy := by
    rw [modes, same.mr13]
    exact mirrors.copy
  first := by
    rw [modes, same.current]
    exact mirrors.first
  second := by
    rw [modes]
    exact mirrors.second
  untouched := by
    rw [modes]
    exact mirrors.untouched
  others := by
    rw [modes]
    exact mirrors.others

variable [KernelIo] [Device]

end Invariant

section Reference

end Reference

end WavLpddr
