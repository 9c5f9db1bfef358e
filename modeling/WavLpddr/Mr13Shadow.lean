import WavLpddr.DramScripts

/-!
# The copy of MR13 and the ranks

Every bit of the copy is the one that the last operation governing it wrote.  The first rank
holds the copy as long as its packets are sent.  No operation that changes MR13 selects the
second rank, which therefore keeps what it held at the beginning.
-/

namespace WavLpddr

open TxPacketBuffer

namespace Mr13Call

/-- A frequency set point is 0 or 1. -/
def Valid : Mr13Call → Prop
  | setFspWr fsp => fsp = 0 ∨ fsp = 1
  | setFspOp fsp => fsp = 0 ∨ fsp = 1
  | _ => True

/-- What a call writes to a bit of MR13 if it governs the bit. -/
def governs (bit : Nat) : Mr13Call → Option Bool
  | cbtEnter => if bit = 0 then some true else none
  | cbtExit => if bit = 0 then some false else none
  | setFspWr fsp => if bit = 6 then some (fsp = 1) else none
  | setFspOp fsp => if bit = 6 ∨ bit = 7 then some (fsp = 1) else none
  | vrcgEnable => if bit = 3 then some true else none
  | vrcgDisable => if bit = 3 then some false else none
  | writeModeRegister13 mr13 => some (mr13.getLsbD bit)

/-- What the last call that governs a bit wrote to it. -/
def lastGoverned (calls : List Mr13Call) (bit : Nat) : Bool :=
  (calls.filterMap (governs bit)).getLastD false

/-- The copy of MR13 after a call. -/
def value (mr13 : BitVec 8) : Mr13Call → BitVec 8
  | cbtEnter => mr13 ||| cbtMsk
  | cbtExit => mr13 &&& ~~~cbtMsk
  | setFspWr fsp => mr13 &&& ~~~fspWrMsk ||| fsp <<< fspWrShft
  | setFspOp fsp =>
      mr13 &&& (~~~fspOpMsk &&& ~~~fspWrMsk) ||| (fsp <<< fspOpShft ||| fsp <<< fspWrShft)
  | vrcgEnable => mr13 ||| vrcgMsk
  | vrcgDisable => mr13 &&& ~~~vrcgMsk
  | writeModeRegister13 written => written

/-- A call changes the bits that it governs. -/
theorem getLsbD_value {call : Mr13Call} (valid : call.Valid) (mr13 : BitVec 8) {bit : Nat}
    (small : bit < 8) :
    (call.value mr13).getLsbD bit = (call.governs bit).getD (mr13.getLsbD bit) := by
  cases call with
  | setFspWr fsp =>
      rcases valid with rfl | rfl <;> interval_cases bit <;>
        simp [value, governs, fspWrMsk, fspWrShft]
  | setFspOp fsp =>
      rcases valid with rfl | rfl <;> interval_cases bit <;>
        simp [value, governs, fspWrMsk, fspWrShft, fspOpMsk, fspOpShft]
  | writeModeRegister13 written => rfl
  | _ => interval_cases bit <;> simp [value, governs, cbtMsk, vrcgMsk]

end Mr13Call

/-- Overriding a value in turn leaves the last one written. -/
theorem foldl_override {Call Value : Type} (writes : Call → Option Value) (calls : List Call)
    (initial : Value) :
    calls.foldl (fun value call => (writes call).getD value) initial =
      (calls.filterMap writes).getLastD initial := by
  induction calls generalizing initial with
  | nil => rfl
  | cons call rest inductionHypothesis =>
      rw [List.foldl_cons, inductionHypothesis]
      cases written : writes call with
      | none => rw [List.filterMap_cons_none written, Option.getD_none]
      | some value =>
          rw [List.filterMap_cons_some written, List.getLastD_cons, Option.getD_some]

section SecondRank

/-- No phase of the packet selects the second rank. -/
def DfiTxPacket.SelectsFirst (packet : DfiTxPacket) : Prop :=
  ∀ phase, (packet.ca phase).cs.getLsbD 1 = false

theorem selectsFirst_of_idle {packet : DfiTxPacket}
    (idle : ∀ phase, (packet.ca phase).cs = 0 ∧ (packet.ca phase).address = 0) :
    packet.SelectsFirst := by
  intro phase
  rw [(idle phase).1]
  rfl

theorem DfiTxPacket.SelectsFirst.fillFrame {packet : DfiTxPacket} (first : packet.SelectsFirst)
    (phase : Nat) {frame : CommandFrame} (frameFirst : frame.cs.getLsbD 1 = false) :
    (packet.fillFrame phase frame).SelectsFirst := by
  have cut : (frame.cs.setWidth 2).getLsbD 1 = false := by
    rw [BitVec.getLsbD_setWidth, frameFirst, Bool.and_false]
  intro other
  change (Function.update (Function.update packet.ca phase _) (phase + 1) _ other).cs.getLsbD 1 =
    false
  by_cases second : other = phase + 1
  · rw [second, Function.update_self]
    exact cut
  · rw [Function.update_of_ne second]
    by_cases isPhase : other = phase
    · rw [isPhase, Function.update_self]
      exact cut
    · rw [Function.update_of_ne isPhase]
      exact first other

/-- The frames of a write of the first rank. -/
theorem selectsFirst_frame (modeRegister op : BitVec 8) (index : Nat) :
    (createWriteModeRegisterCommand 0 modeRegister op index).cs.getLsbD 1 = false := by
  have high : ((1 <<< 0 : Nat) : BitVec 8).getLsbD 1 = false := by decide
  have low : (0 : BitVec 8).getLsbD 1 = false := by decide
  unfold createWriteModeRegisterCommand
  split
  · exact low
  · unfold createModeRegisterWriteFrame
    split
    · exact high
    · exact low
    · exact high
    · exact low
    · exact low

theorem selectsFirst_addressPackets (ratio : WddrFreqRatio) {command : Nat → CommandFrame}
    (frames : ∀ index, (command index).cs.getLsbD 1 = false) (remaining phaseOffset : Nat)
    (time : BitVec 16) :
    ∀ packet ∈ addressPackets ratio command remaining phaseOffset time,
      packet.SelectsFirst := by
  induction remaining generalizing phaseOffset time with
  | zero => exact fun packet listed => absurd listed List.not_mem_nil
  | succ remaining inductionHypothesis =>
      have fresh := selectsFirst_of_idle (idle_ckePacket time)
      intro packet listed
      rcases List.mem_cons.mp listed with rfl | later
      · unfold addressPacket DfiTxPacket.fillFrames
        split
        · exact (fresh.fillFrame 0 (frames _)).fillFrame 2 (frames _)
        · exact fresh.fillFrame 0 (frames _)
      · exact inductionHypothesis _ _ packet later

/-- A sound buffer whose packets select the first rank only. -/
structure TxPacketBuffer.FirstOnly (buffer : TxPacketBuffer) : Prop where
  sound : buffer.Sound
  first : ∀ packet ∈ buffer.packets, packet.SelectsFirst

/-- What is sent writes no rank but the first. -/
def Sending.OnFirst : Sending → Prop
  | write rank _ => rank = 0
  | _ => True

namespace TxPacketBuffer.FirstOnly

variable {buffer : TxPacketBuffer}

theorem attempted {after : TxPacketBuffer} {packets : List DfiTxPacket}
    (firstOnly : buffer.FirstOnly) (attempted : Attempted buffer after packets)
    (first : ∀ packet ∈ packets, packet.SelectsFirst) : after.FirstOnly where
  sound := Appends.sound attempted
  first packet listed := by
    rw [Appends.packets attempted, List.mem_append] at listed
    rcases listed with old | new
    · exact firstOnly.first packet old
    · exact first packet (List.mem_of_mem_take new)

theorem ck (firstOnly : buffer.FirstOnly) (timeOffset : BitVec 16) :
    (buffer.createCkPacketSequence timeOffset).2.FirstOnly := by
  apply firstOnly.attempted (creates_createCkPacketSequence.attempted timeOffset firstOnly.sound)
  intro packet listed
  rw [List.mem_singleton.mp listed]
  exact selectsFirst_of_idle (idle_ckPacket _)

theorem cke (firstOnly : buffer.FirstOnly) (timeOffset : BitVec 16) :
    (buffer.createCkePacketSequence timeOffset).2.FirstOnly := by
  apply firstOnly.attempted (creates_createCkePacketSequence.attempted timeOffset firstOnly.sound)
  intro packet listed
  rw [List.mem_singleton.mp listed]
  exact selectsFirst_of_idle (idle_ckePacket _)

theorem mrw (firstOnly : buffer.FirstOnly) (ratio : WddrFreqRatio)
    (modeRegister op : BitVec 8) (timeOffset : BitVec 16) :
    (buffer.dramCreateMrwPacketSequence ratio 0 modeRegister op timeOffset).2.FirstOnly :=
  firstOnly.attempted (attempted_dramCreateAddressPackets ratio _ _ 0 timeOffset firstOnly.sound)
    (selectsFirst_addressPackets ratio (selectsFirst_frame modeRegister op) _ 0 _)

/-- Whatever is refused, a script that writes the first rank selects no other. -/
theorem script (firstOnly : buffer.FirstOnly) (ratio : WddrFreqRatio) {script : List Sending}
    (onFirst : ∀ item ∈ script, item.OnFirst) : (Script.build ratio script buffer).FirstOnly := by
  induction script generalizing buffer with
  | nil => exact firstOnly
  | cons item rest inductionHypothesis =>
      refine inductionHypothesis ?_ fun other listed =>
        onFirst other (List.mem_cons_of_mem _ listed)
      cases item with
      | ck wait => exact firstOnly.ck wait
      | cke wait => exact firstOnly.cke wait
      | write rank update =>
          obtain rfl : rank = 0 := onFirst _ List.mem_cons_self
          exact (firstOnly.mrw ratio _ _ _).cke 1

end TxPacketBuffer.FirstOnly

/-- The second rank receives no write from packets that select the first one only. -/
theorem ModeRegisters.receive_second {ratio : WddrFreqRatio} {packets : List DfiTxPacket}
    (first : ∀ packet ∈ packets, packet.SelectsFirst) (modes : ModeRegisters) :
    modes.receive ratio packets 1 = modes 1 := by
  unfold receive
  cases sent : sentWrites ratio packets with
  | none => rfl
  | some writes =>
      have notSelected : ∀ write ∈ writes, write.2.cs.getLsbD 1 = false := by
        intro write listed
        obtain ⟨packet, inPackets, phase, selected⟩ := cs_of_sentWrites sent write listed
        rw [← selected, first packet inPackets phase]
      clear sent
      dsimp only
      induction writes generalizing modes with
      | nil => rfl
      | cons write rest inductionHypothesis =>
          rw [List.foldl_cons, inductionHypothesis _ fun other listed =>
            notSelected other (List.mem_cons_of_mem write listed)]
          exact store_of_not_selected (notSelected write List.mem_cons_self) modes

theorem DramSession.second_transmit [KernelIo] [Device] (heapFails : Nat → Bool)
    {script : List Sending} (onFirst : ∀ item ∈ script, item.OnFirst) (session : DramSession) :
    (session.transmit heapFails (Script.build session.current.ratio script)).modes 1 =
      session.modes 1 := by
  have empty : (dfiTxPacketBufferInit (fun _ => .zero) heapFails).FirstOnly :=
    ⟨sound_init heapFails, fun packet listed => absurd listed List.not_mem_nil⟩
  have firstOnly := empty.script session.current.ratio onFirst
  unfold transmit
  dsimp only
  split
  · exact ModeRegisters.receive_second firstOnly.first session.modes
  · rfl

end SecondRank

namespace Mr13Call

/-- What a call sends after it changed the copy. -/
def script (session : DramSession) : Mr13Call → List Sending
  | cbtEnter => [.write 0 (0xD, session.mr13, 15), .ck 15]
  | cbtExit => [.ck 15, .cke 1, .write 0 (0xD, session.mr13, session.current.tVrefCaLong)]
  | _ => [.write 0 (0xD, session.mr13, 1)]

/-- How many packets a call asks for. -/
def packetCount (ratio : WddrFreqRatio) : Mr13Call → Nat
  | cbtEnter => commandLength ratio + 2
  | cbtExit => commandLength ratio + 3
  | _ => commandLength ratio + 1

variable (session : DramSession) (call : Mr13Call)

theorem script_ne_nil : call.script session ≠ [] := by
  cases call <;> exact List.cons_ne_nil _ _

theorem known_script : ∀ item ∈ call.script session, item.Known := by
  have known : (0xD : BitVec 8) ≤ modeRegisterNumMax := by decide
  cases call with
  | cbtEnter => exact List.forall_mem_cons.mpr ⟨known, List.forall_mem_singleton.mpr trivial⟩
  | cbtExit =>
      exact List.forall_mem_cons.mpr ⟨trivial, List.forall_mem_cons.mpr ⟨trivial,
        List.forall_mem_singleton.mpr known⟩⟩
  | _ => exact List.forall_mem_singleton.mpr known

theorem onFirst_script : ∀ item ∈ call.script session, item.OnFirst := by
  cases call with
  | cbtEnter => exact List.forall_mem_cons.mpr ⟨rfl, List.forall_mem_singleton.mpr trivial⟩
  | cbtExit =>
      exact List.forall_mem_cons.mpr ⟨trivial, List.forall_mem_cons.mpr ⟨trivial,
        List.forall_mem_singleton.mpr rfl⟩⟩
  | _ => exact List.forall_mem_singleton.mpr rfl

/-- Every call writes the copy to the first rank once. -/
theorem writes_script : Script.writes (call.script session) = [⟨1, 0xD, session.mr13⟩] := by
  cases call <;> rfl

theorem count_script (ratio : WddrFreqRatio) :
    Script.count ratio (call.script session) = call.packetCount ratio := by
  cases call with
  | cbtExit =>
      change 1 + (1 + (commandLength ratio + 1 + 0)) = commandLength ratio + 3
      omega
  | _ => rfl

end Mr13Call

section Steps

namespace Mr13Step

/-- The session after a step changed the copy. -/
def changed (step : Mr13Step) (session : DramSession) : DramSession :=
  session.setMr13 (step.call.value session.mr13)

/-- The packets of a step are allocated, fit into the FIFO and are read as they are meant. -/
structure Delivered [Device] (dramCfg : DramFreqCfg) (step : Mr13Step) : Prop where
  supported : dramCfg.ratio.Supported
  granted : ∀ attempt < step.call.packetCount dramCfg.ratio, step.heapFails attempt = false
  room : step.call.packetCount dramCfg.ratio ≤ Device.ingressFifoDepth
  inTime : step.call = .cbtExit →
    17 + dramCfg.tVrefCaLong.toNat + commandLength dramCfg.ratio < 2 ^ 16

theorem Delivered.script [Device] {step : Mr13Step} {session : DramSession}
    (delivered : step.Delivered session.current) :
    Script.Delivered session.current.ratio step.heapFails
      (step.call.script (step.changed session)) where
  supported := delivered.supported
  granted := by
    rw [Mr13Call.count_script]
    exact delivered.granted
  room := by
    rw [Mr13Call.count_script]
    exact delivered.room
  inTime := by
    obtain ⟨call, heapFails⟩ := step
    have frames : commandLength session.current.ratio ≤ 4 := Nat.shiftRight_le _ _
    cases call with
    | cbtEnter =>
        change 1 + (15 + commandLength session.current.ratio + 15) < 2 ^ 16
        omega
    | cbtExit =>
        have inTime := delivered.inTime rfl
        change 1 + (15 + (1 + (session.current.tVrefCaLong.toNat +
          commandLength session.current.ratio + 0))) < 2 ^ 16
        omega
    | _ =>
        change 1 + (1 + commandLength session.current.ratio) < 2 ^ 16
        omega

variable [KernelIo] [Device]

/-- Every step changes its bits of the copy and sends the copy. -/
theorem run_eq (step : Mr13Step) (session : DramSession) :
    step.run session = (step.changed session).transmit step.heapFails
      (Script.build session.current.ratio (step.call.script (step.changed session))) := by
  obtain ⟨call, heapFails⟩ := step
  cases call <;> rfl

theorem sameCopies_run (step : Mr13Step) (session : DramSession) :
    (step.changed session).SameCopies (step.run session) := by
  rw [run_eq]
  exact DramSession.sameCopies_transmit _ _ _

theorem current_run (step : Mr13Step) (session : DramSession) :
    (step.run session).current = session.current :=
  (step.sameCopies_run session).current

/-- No step reaches the second rank. -/
theorem second_run (step : Mr13Step) (session : DramSession) :
    (step.run session).modes 1 = session.modes 1 := by
  rw [run_eq]
  exact DramSession.second_transmit step.heapFails (step.call.onFirst_script _)
    (step.changed session)

/-- A step that is delivered leaves the copy in the first rank. -/
theorem first_run {step : Mr13Step} {session : DramSession}
    (delivered : step.Delivered session.current) :
    (step.run session).modes 0 0xD = (step.run session).mr13 := by
  have written := @DramSession.modes_transmit _ _ (step.changed session) step.heapFails _
    (step.call.script_ne_nil _) (step.call.known_script _) delivered.script
  rw [Mr13Call.writes_script] at written
  rw [(step.sameCopies_run session).mr13, run_eq]
  exact (congrFun (congrFun written 0) 0xD).trans (ModeRegisters.store_self _ _ _)

end Mr13Step

namespace DramSession

/-- Each bit of the copy is the one that the last call governing it wrote. -/
def Reflects (session : DramSession) (steps : List Mr13Step) : Prop :=
  ∀ bit < 8, session.mr13.getLsbD bit = Mr13Call.lastGoverned (steps.map (·.call)) bit

/-- Every rank holds the copy. -/
def Agrees (session : DramSession) : Prop :=
  ∀ rank < wddrPhyRank, session.modes rank 0xD = session.mr13

theorem agrees_iff (session : DramSession) :
    session.Agrees ↔
      session.modes 0 0xD = session.mr13 ∧ session.modes 1 0xD = session.mr13 :=
  ⟨fun agrees => ⟨agrees 0 (by decide), agrees 1 (by decide)⟩, fun holds rank inside => by
    have small : rank < 2 := inside
    interval_cases rank
    · exact holds.1
    · exact holds.2⟩

variable [KernelIo] [Device]

theorem getLsbD_runMr13 {steps : List Mr13Step} (valid : ∀ step ∈ steps, step.call.Valid)
    (session : DramSession) {bit : Nat} (small : bit < 8) :
    (session.runMr13 steps).mr13.getLsbD bit =
      steps.foldl (fun value step => (step.call.governs bit).getD value)
        (session.mr13.getLsbD bit) := by
  induction steps generalizing session with
  | nil => rfl
  | cons step rest inductionHypothesis =>
      have later := inductionHypothesis (fun other listed =>
        valid other (List.mem_cons_of_mem _ listed)) (step.run session)
      have written :=
        Mr13Call.getLsbD_value (valid step List.mem_cons_self) session.mr13 small
      rw [(step.sameCopies_run session).mr13] at later
      change ((step.run session).runMr13 rest).mr13.getLsbD bit = _
      rw [later, List.foldl_cons, ← written]
      rfl

theorem second_runMr13 (steps : List Mr13Step) (session : DramSession) :
    (session.runMr13 steps).modes 1 = session.modes 1 := by
  induction steps generalizing session with
  | nil => rfl
  | cons step rest inductionHypothesis =>
      exact (inductionHypothesis (step.run session)).trans (step.second_run session)

theorem first_runMr13 {steps : List Mr13Step} {session : DramSession}
    (delivered : ∀ step ∈ steps, step.Delivered session.current)
    (holds : steps = [] → session.modes 0 0xD = session.mr13) :
    (session.runMr13 steps).modes 0 0xD = (session.runMr13 steps).mr13 := by
  induction steps generalizing session with
  | nil => exact holds rfl
  | cons step rest inductionHypothesis =>
      refine inductionHypothesis (fun other listed => ?_)
        fun _ => Mr13Step.first_run (delivered step List.mem_cons_self)
      rw [Mr13Step.current_run]
      exact delivered other (List.mem_cons_of_mem _ listed)

section FromInit

variable {steps : List Mr13Step} (valid : ∀ step ∈ steps, step.call.Valid)
  (reset : DramSession) (cfg : Nat)
include valid

theorem reflects_runMr13 : ((reset.dramInit cfg).runMr13 steps).Reflects steps := by
  intro bit small
  have started : (reset.dramInit cfg).mr13.getLsbD bit = false := BitVec.getLsbD_zero
  rw [getLsbD_runMr13 valid _ small, started, Mr13Call.lastGoverned, ← foldl_override,
    List.foldl_map]

/-- The second rank holds the copy exactly if the last calls that govern its bits wrote what
the rank held before. -/
theorem second_holds_iff :
    ((reset.dramInit cfg).runMr13 steps).modes 1 0xD =
        ((reset.dramInit cfg).runMr13 steps).mr13 ↔
      ∀ bit < 8, Mr13Call.lastGoverned (steps.map (·.call)) bit =
        (reset.modes 1 0xD).getLsbD bit := by
  have reflects := reflects_runMr13 valid reset cfg
  have kept : ((reset.dramInit cfg).runMr13 steps).modes 1 = reset.modes 1 :=
    second_runMr13 steps (reset.dramInit cfg)
  rw [kept]
  constructor
  · intro holds bit small
    rw [← reflects bit small, holds]
  · intro same
    apply BitVec.eq_of_getLsbD_eq
    intro bit small
    rw [reflects bit small, same bit small]

/-- The bits of the copy are the ones written last, and the first rank holds the copy if all
packets are delivered.  The second rank holds it if and only if the bits written last are those
that it held before. -/
theorem mr13Shadow_run :
    let after := (reset.dramInit cfg).runMr13 steps
    let asBefore := ∀ bit < 8, Mr13Call.lastGoverned (steps.map (·.call)) bit =
      (reset.modes 1 0xD).getLsbD bit
    after.Reflects steps ∧ (after.Agrees → asBefore) ∧
      ((∀ step ∈ steps, step.Delivered (reset.cfgs cfg)) →
        (after.modes 0 0xD = after.mr13 ↔ (steps = [] → reset.modes 0 0xD = 0)) ∧
        (after.Reflects steps ∧ after.Agrees ↔
          (steps = [] → reset.modes 0 0xD = 0) ∧ asBefore)) := by
  intro after asBefore
  have reflects : after.Reflects steps := reflects_runMr13 valid reset cfg
  have second := second_holds_iff valid reset cfg
  refine ⟨reflects, fun agrees => second.mp ((agrees_iff after).mp agrees).2, fun delivered => ?_⟩
  have first : after.modes 0 0xD = after.mr13 ↔ (steps = [] → reset.modes 0 0xD = 0) := by
    refine ⟨fun holds none => ?_, fun held => first_runMr13 delivered held⟩
    subst none
    exact holds
  refine ⟨first, ?_⟩
  rw [agrees_iff, first]
  exact ⟨fun both => ⟨both.2.1, second.mp both.2.2⟩,
    fun both => ⟨reflects, both.1, second.mpr both.2⟩⟩

end FromInit

end DramSession

end Steps

section Reference

/-- A session with the entries of a plain table at a ratio of 1:2. -/
def referenceSession : DramSession :=
  (DramSession.mk 0 0 (fun _ => plainCfg .ratio1to2) ⟨fun _ => 0, [], []⟩
    fun _ _ => 0).dramInit 0

/-- Calls while the heap has blocks. -/
def referenceSteps (calls : List Mr13Call) : List Mr13Step :=
  calls.map fun call => ⟨call, fun _ => false⟩

/-- A run at a ratio of 1:2. -/
def referenceMr13Run (calls : List Mr13Call) : DramSession :=
  let := referencePlatform
  referenceSession.runMr13 (referenceSteps calls)

/-- Command bus training at the other set point leaves no bit set. -/
theorem mr13Shadow_run_cbt :
    (referenceMr13Run [.setFspOp 1, .cbtEnter, .cbtExit, .setFspOp 0]).Agrees := by
  have valid : ∀ step ∈ referenceSteps [.setFspOp 1, .cbtEnter, .cbtExit, .setFspOp 0],
      step.call.Valid := by
    simp [referenceSteps, Mr13Call.Valid]
  have delivered : ∀ step ∈ referenceSteps [.setFspOp 1, .cbtEnter, .cbtExit, .setFspOp 0],
      @Mr13Step.Delivered referencePlatform.toDevice (plainCfg .ratio1to2) step := by
    intro step listed
    obtain ⟨call, isCall, rfl⟩ := List.mem_map.mp listed
    simp only [List.mem_cons, List.not_mem_nil, or_false] at isCall
    rcases isCall with rfl | rfl | rfl | rfl <;>
      exact @Mr13Step.Delivered.mk referencePlatform.toDevice _ _ (Or.inr rfl) (fun _ _ => rfl)
        (by decide) (by decide)
  have run := @DramSession.mr13Shadow_run referencePlatform.toKernelIo
    referencePlatform.toDevice _ valid referenceSession 0
  exact ((run.2.2 delivered).2.mpr ⟨fun _ => rfl, by decide⟩).2

/-- Enabling VRCG leaves the second rank behind. -/
theorem not_mr13Shadow : ¬ (referenceMr13Run [.vrcgEnable]).Agrees := by
  intro agrees
  have valid : ∀ step ∈ referenceSteps [.vrcgEnable], step.call.Valid :=
    List.forall_mem_singleton.mpr trivial
  have same := (@DramSession.second_holds_iff referencePlatform.toKernelIo
    referencePlatform.toDevice _ valid referenceSession 0).mp
      ((DramSession.agrees_iff _).mp agrees).2
  exact absurd (same 3 (by decide)) (by decide)

end Reference

end WavLpddr
