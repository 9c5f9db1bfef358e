import WavLpddr.DramCycles
import WavLpddr.SequenceErrors

/-!
# The packets of a complete sequence

When every packet that a builder asks for is added, the packets that it appends follow
from its arguments and from the last timestamp of the buffer.  Its command is all that
they send, and the data phases are those of its loop.
-/

namespace WavLpddr

open Attempts

namespace TxPacketBuffer

section Granted

variable {before middle after : TxPacketBuffer} {first second : List DfiTxPacket}
  {packet : DfiTxPacket}

theorem allGranted_singleton_iff :
    AllGranted before [packet] ↔ before.fails 0 = false := by
  rw [AllGranted, granted_eq_iff]
  simp

theorem AllGranted.left (all : AllGranted before (first ++ second)) :
    AllGranted before first := by
  rw [AllGranted, granted_eq_iff] at all ⊢
  rw [List.length_append] at all
  exact fun attempt inFirst => all attempt (by omega)

/-- After the first packets the others are allocated. -/
theorem AllGranted.right (all : AllGranted before (first ++ second))
    (appended : Appends before middle first.length first) : AllGranted middle second := by
  rw [AllGranted, granted_eq_iff] at all ⊢
  rw [List.length_append] at all
  intro attempt inSecond
  rw [appended.fails]
  exact all _ (by omega)

theorem Appends.append (firstAppended : Appends before middle first.length first)
    (secondAppended : Appends middle after second.length second) :
    Appends before after (first ++ second).length (first ++ second) := by
  rw [List.length_append]
  exact firstAppended.trans secondAppended

end Granted

/-- No allocation from the heap fails. -/
theorem allGranted_heapBuffer (packets : List DfiTxPacket) : AllGranted heapBuffer packets :=
  granted_eq_iff.mpr fun _ _ => rfl

/-- A loop begins after a gap where it would begin without the packet in the gap. -/
theorem gapOffset_add (timeOffset tsLastPacket : BitVec 16) :
    gapOffset timeOffset + lastTime tsLastPacket (gapPackets timeOffset tsLastPacket) =
      timeOffset + tsLastPacket := by
  unfold gapOffset gapPackets
  split
  · rw [lastTime_cons, lastTime_nil, time_ckePacket]
    bv_omega
  · rw [lastTime_nil]

namespace Plan

variable (plan : Plan) (tsLastPacket : BitVec 16)

/-- The packets up to the end of the loop. -/
def loopPackets : List DfiTxPacket :=
  let commandTs := lastTime tsLastPacket plan.frames
  plan.frames ++ gapPackets (plan.offset commandTs) commandTs ++
    plan.turns (plan.offset commandTs + commandTs)

/-- All packets of the builder. -/
def packets : List DfiTxPacket :=
  plan.loopPackets tsLastPacket ++ [ckePacket (1 + lastTime tsLastPacket
    (plan.loopPackets tsLastPacket))]

variable {plan} {before after : TxPacketBuffer} {result : WddrReturn}

/-- A plan whose packets are all allocated is followed to the end of the loop. -/
theorem Followed.appends {commanded delayed looped : TxPacketBuffer}
    (followed : plan.Followed before commanded delayed looped)
    (all : AllGranted before (plan.loopPackets before.tsLastPacket)) :
    plan.Completes commanded delayed ∧
      Appends before looped (plan.loopPackets before.tsLastPacket).length
        (plan.loopPackets before.tsLastPacket) := by
  have frames := followed.frames.appends_of_granted all.left.left
  have commandTs := frames.tsLastPacket
  have gapAttempted := followed.gap
  rw [commandTs] at gapAttempted
  have gap := gapAttempted.appends_of_granted (all.left.right frames)
  have loopTs : gapOffset (plan.offset commanded.tsLastPacket) + delayed.tsLastPacket =
      plan.offset (lastTime before.tsLastPacket plan.frames) +
        lastTime before.tsLastPacket plan.frames := by
    rw [gap.tsLastPacket, commandTs, gapOffset_add]
  have turns := all.right (frames.append gap)
  have turnsAttempted := followed.turns
  rw [loopTs] at turnsAttempted
  refine ⟨?_, (frames.append gap).append (turnsAttempted.appends_of_granted turns)⟩
  rw [Completes, loopTs]
  exact turns

/-- A builder whose packets are all allocated succeeds and appends them. -/
theorem Prepares.appends (prepares : plan.Prepares before result after)
    (all : AllGranted before (plan.packets before.tsLastPacket)) :
    result = .wddrSuccess ∧
      Appends before after (plan.packets before.tsLastPacket).length
        (plan.packets before.tsLastPacket) := by
  cases prepares with
  | refused followed stopped => exact absurd (followed.appends all.left).1 stopped
  | succeeds followed completes ended =>
      have looped := (followed.appends all.left).2
      have last := all.right looped
      rw [looped.tsLastPacket] at ended
      exact ⟨rfl, looped.append (ended.appends_of_granted last)⟩

end Plan

section Cbt

variable (dramCfg : DramFreqCfg) (cs : Chipselect) (vrefSetting commandAddress : BitVec 8)

/-- The packets of command bus training up to the end of its loop. -/
def cbtLoopPackets (tsLastPacket : BitVec 16) : List DfiTxPacket :=
  ckPacket (1 + tsLastPacket) :: cbtTurns dramCfg cs vrefSetting tsLastPacket
    (cbtOffset dramCfg tsLastPacket (1 + tsLastPacket) + (1 + tsLastPacket))

/-- All packets of command bus training. -/
def cbtPackets (tsLastPacket : BitVec 16) : List DfiTxPacket :=
  let looped := cbtLoopPackets dramCfg cs vrefSetting tsLastPacket
  let hold := (cbtHoldOffset dramCfg).setWidth 16 + lastTime tsLastPacket looped
  let pattern := (cbtPatternOffset dramCfg).setWidth 16 + hold
  looped ++ [ckPacket hold] ++ [cbtPatternPacket cs commandAddress pattern] ++
    [ckPacket (1 + pattern)] ++ [ckPacket (2 + (1 + pattern))]

variable {dramCfg cs vrefSetting commandAddress} {before after : TxPacketBuffer}
  {result : WddrReturn}

theorem CbtFilled.appends {started looped : TxPacketBuffer}
    (filled : CbtFilled dramCfg cs vrefSetting before started looped)
    (all : AllGranted before (cbtLoopPackets dramCfg cs vrefSetting before.tsLastPacket)) :
    CbtCompletes dramCfg cs vrefSetting before started ∧
      Appends before looped (cbtLoopPackets dramCfg cs vrefSetting before.tsLastPacket).length
        (cbtLoopPackets dramCfg cs vrefSetting before.tsLastPacket) := by
  have first := filled.first.appends_of_granted all.left
  have turns := all.right first
  have startedTs : started.tsLastPacket = 1 + before.tsLastPacket := first.tsLastPacket
  have turnsAttempted := filled.turns
  rw [startedTs] at turnsAttempted
  refine ⟨?_, first.append (turnsAttempted.appends_of_granted turns)⟩
  rw [CbtCompletes, startedTs]
  exact turns

/-- Command bus training whose packets are all allocated succeeds and appends them. -/
theorem CbtPrepares.appends
    (prepares : CbtPrepares dramCfg cs vrefSetting commandAddress before result after)
    (all : AllGranted before (cbtPackets dramCfg cs vrefSetting commandAddress
      before.tsLastPacket)) :
    result = .wddrSuccess ∧
      Appends before after (cbtPackets dramCfg cs vrefSetting commandAddress
          before.tsLastPacket).length
        (cbtPackets dramCfg cs vrefSetting commandAddress before.tsLastPacket) := by
  have beforeLast := all.left
  have beforeEnd := beforeLast.left
  have beforePattern := beforeEnd.left
  cases prepares with
  | refused filled stopped => exact absurd (filled.appends beforePattern.left).1 stopped
  | unsent filled completes hold failed pattern =>
      have looped := (filled.appends beforePattern.left).2
      rw [looped.tsLastPacket] at hold
      have held := looped.append (hold.appends_of_granted (beforePattern.right looped))
      have sent := allGranted_singleton_iff.mp (beforeEnd.right held)
      exact absurd sent (by simp [failed])
  | @succeeds _ _ held sent _ _ filled completes hold allocated pattern ended last =>
      have looped := (filled.appends beforePattern.left).2
      rw [looped.tsLastPacket] at hold
      have holding := hold.appends_of_granted (beforePattern.right looped)
      rw [holding.tsLastPacket] at pattern
      have patternSent : ∀ packet : DfiTxPacket, Appends held sent 1 [packet] →
          Appends held sent [packet].length [packet] := fun _ appended => appended
      have sent := (looped.append holding).append (patternSent _ pattern)
      rw [pattern.tsLastPacket] at ended
      have ending := ended.appends_of_granted (beforeLast.right sent)
      rw [ending.tsLastPacket] at last
      have next := sent.append ending
      exact ⟨rfl, next.append (last.appends_of_granted (all.right next))⟩

end Cbt

end TxPacketBuffer

open TxPacketBuffer

namespace SequenceCall

variable (dramCfg : DramFreqCfg)

/-- The packets of a call. -/
def packets (tsLastPacket : BitVec 16) : SequenceCall → List DfiTxPacket
  | wrfifo burstLength cs wrdataEnOffset data =>
      (wrfifoPlan dramCfg burstLength cs wrdataEnOffset data tsLastPacket).packets tsLastPacket
  | rddq burstLength cs rddataEnOffset =>
      (readPlan dramCfg burstLength cs rddataEnOffset (createRddqCommand cs)
        tsLastPacket).packets tsLastPacket
  | rdfifo burstLength cs rddataEnOffset =>
      (readPlan dramCfg burstLength cs rddataEnOffset (createRdfifoCommand cs)
        tsLastPacket).packets tsLastPacket
  | wrlvl => (wrlvlPlan dramCfg tsLastPacket).packets tsLastPacket
  | cbt cs vrefSetting commandAddress =>
      cbtPackets dramCfg cs vrefSetting commandAddress tsLastPacket

/-- A call whose packets are all allocated succeeds and appends them. -/
theorem run_of_allGranted (call : SequenceCall) {buffer : TxPacketBuffer}
    (sound : buffer.Sound) (all : AllGranted buffer (call.packets dramCfg buffer.tsLastPacket)) :
    ∃ after, call.run dramCfg buffer = .ok (.wddrSuccess, after) ∧
      Appends buffer after (call.packets dramCfg buffer.tsLastPacket).length
        (call.packets dramCfg buffer.tsLastPacket) := by
  cases call with
  | wrfifo burstLength cs wrdataEnOffset data =>
      obtain ⟨result, after, prepares, ran⟩ :=
        prepares_wrfifo dramCfg burstLength cs wrdataEnOffset data sound
      obtain ⟨rfl, appends⟩ := prepares.appends all
      exact ⟨after, ran, appends⟩
  | rddq burstLength cs rddataEnOffset =>
      obtain ⟨result, after, prepares, ran⟩ :=
        prepares_read dramCfg burstLength cs rddataEnOffset (createRddqCommand cs) sound
      obtain ⟨rfl, appends⟩ := prepares.appends all
      exact ⟨after, ran, appends⟩
  | rdfifo burstLength cs rddataEnOffset =>
      obtain ⟨result, after, prepares, ran⟩ :=
        prepares_read dramCfg burstLength cs rddataEnOffset (createRdfifoCommand cs) sound
      obtain ⟨rfl, appends⟩ := prepares.appends all
      exact ⟨after, ran, appends⟩
  | wrlvl =>
      obtain ⟨result, after, prepares, ran⟩ := prepares_wrlvl dramCfg sound
      obtain ⟨rfl, appends⟩ := prepares.appends all
      exact ⟨after, ran, appends⟩
  | cbt cs vrefSetting commandAddress =>
      obtain ⟨result, after, prepares, ran⟩ :=
        prepares_cbt dramCfg cs vrefSetting commandAddress sound
      obtain ⟨rfl, appends⟩ := prepares.appends all
      exact ⟨after, ran, appends⟩

end SequenceCall

section Seen

variable {ratio : WddrFreqRatio}

/-- The frames of a command advance the last timestamp by its packets. -/
theorem lastTime_addressPackets (ratio : WddrFreqRatio) (command : Nat → CommandFrame)
    (remaining phaseOffset : Nat) (tsLastPacket : BitVec 16) :
    lastTime tsLastPacket
        (addressPackets ratio command remaining phaseOffset (1 + tsLastPacket)) =
      BitVec.ofNat 16 remaining + tsLastPacket := by
  induction remaining generalizing phaseOffset tsLastPacket with
  | zero => exact (BitVec.zero_add _).symm
  | succ remaining inductionHypothesis =>
      rw [addressPackets, lastTime_cons, time_addressPacket, BitVec.add_comm _ 1,
        inductionHypothesis, BitVec.ofNat_add]
      exact (BitVec.add_assoc _ _ _).symm

theorem lastTime_commandPackets (ratio : WddrFreqRatio) (command : Nat → CommandFrame)
    (tsLastPacket : BitVec 16) :
    lastTime tsLastPacket (commandPackets ratio command tsLastPacket) =
      BitVec.ofNat 16 (maxCommandFrames >>> ratio.shift) + tsLastPacket :=
  lastTime_addressPackets ratio command _ 0 tsLastPacket

/-- A command leaves the data alone. -/
theorem data_addressPackets (ratio : WddrFreqRatio) (command : Nat → CommandFrame)
    (remaining phaseOffset : Nat) (time : BitVec 16) :
    ∀ packet ∈ addressPackets ratio command remaining phaseOffset time,
      packet.data = DfiTxPacket.zero.data := by
  induction remaining generalizing phaseOffset time with
  | zero => exact fun packet listed => absurd listed List.not_mem_nil
  | succ remaining inductionHypothesis =>
      intro packet listed
      rcases List.mem_cons.mp listed with rfl | later
      · unfold addressPacket DfiTxPacket.fillFrames
        split <;> rfl
      · exact inductionHypothesis _ _ packet later

/-- CKE and DCE are held in the phases of the packet. -/
def DfiTxPacket.HoldsClock (packet : DfiTxPacket) : Prop :=
  ∀ phase < 4, (packet.ca phase).cke = TxPacketBuffer.dfiPackCkeVal ∧ (packet.ca phase).dce = 1

theorem holdsClock_ckePacket (time : BitVec 16) : (ckePacket time).HoldsClock
  | 0, _ | 1, _ | 2, _ | 3, _ => ⟨rfl, rfl⟩

theorem DfiTxPacket.HoldsClock.updateCa {packet : DfiTxPacket} (holds : packet.HoldsClock)
    (updated : Nat) {update : TxCaPhase → TxCaPhase}
    (keeps : ∀ phase, (update phase).cke = phase.cke ∧ (update phase).dce = phase.dce) :
    (packet.updateCa updated update).HoldsClock := by
  intro phase inPacket
  have before := holds phase inPacket
  unfold DfiTxPacket.updateCa
  dsimp only
  by_cases same : phase = updated
  · subst same
    rw [Function.update_self, (keeps _).1, (keeps _).2]
    exact before
  · rwa [Function.update_of_ne same]

theorem DfiTxPacket.HoldsClock.fillFrame {packet : DfiTxPacket} (holds : packet.HoldsClock)
    (phase : Nat) (frame : CommandFrame) : (packet.fillFrame phase frame).HoldsClock := by
  unfold DfiTxPacket.fillFrame
  refine HoldsClock.updateCa (holds.updateCa _ ?_) _ ?_
  · exact fun _ => ⟨rfl, rfl⟩
  · exact fun _ => ⟨rfl, rfl⟩

theorem holdsClock_addressPackets (ratio : WddrFreqRatio) (command : Nat → CommandFrame)
    (remaining phaseOffset : Nat) (time : BitVec 16) :
    ∀ packet ∈ addressPackets ratio command remaining phaseOffset time, packet.HoldsClock := by
  induction remaining generalizing phaseOffset time with
  | zero => exact fun packet listed => absurd listed List.not_mem_nil
  | succ remaining inductionHypothesis =>
      intro packet listed
      rcases List.mem_cons.mp listed with rfl | later
      · have fresh := holdsClock_ckePacket time
        unfold addressPacket DfiTxPacket.fillFrames
        split
        · exact (fresh.fillFrame _ _).fillFrame _ _
        · exact fresh.fillFrame _ _
      · exact inductionHypothesis _ _ packet later

theorem eq_ckePacket_of_mem_gap {timeOffset tsLastPacket : BitVec 16} {packet : DfiTxPacket}
    (listed : packet ∈ gapPackets timeOffset tsLastPacket) :
    ∃ time, packet = ckePacket time := by
  unfold gapPackets at listed
  split at listed
  · exact ⟨_, List.mem_singleton.mp listed⟩
  · exact absurd listed List.not_mem_nil

namespace TxPacketBuffer.Plan

variable {plan : Plan} {tsLastPacket : BitVec 16} {command : Nat → CommandFrame}
  (frames : plan.frames = commandPackets ratio command tsLastPacket)
include frames

/-- Where the loop begins after a command. -/
def loopTs (plan : Plan) (ratio : WddrFreqRatio) (tsLastPacket : BitVec 16) : BitVec 16 :=
  let commandTs := BitVec.ofNat 16 (maxCommandFrames >>> ratio.shift) + tsLastPacket
  plan.offset commandTs + commandTs

/-- The packets are those of the command, CKE packets and those of the loop. -/
theorem packets_eq :
    ∃ gap last, (∀ packet ∈ gap, ∃ time, packet = ckePacket time) ∧
      plan.packets tsLastPacket =
        commandPackets ratio command tsLastPacket ++
          (gap ++ plan.turns (plan.loopTs ratio tsLastPacket) ++ [ckePacket last]) := by
  let commandTs := BitVec.ofNat 16 (maxCommandFrames >>> ratio.shift) + tsLastPacket
  refine ⟨gapPackets (plan.offset commandTs) commandTs,
    1 + lastTime tsLastPacket (plan.loopPackets tsLastPacket),
    fun packet => eq_ckePacket_of_mem_gap, ?_⟩
  rw [packets, loopPackets, frames, lastTime_commandPackets]
  simp only [List.append_assoc]
  rfl

/-- The data phases are those of the loop. -/
theorem selectPhases_packets {selected : TxDataPhase → Bool}
    (unselected : ∀ phase, selected (DfiTxPacket.zero.data phase) = false) :
    selectPhases ratio selected (plan.packets tsLastPacket) =
      selectPhases ratio selected (plan.turns (plan.loopTs ratio tsLastPacket)) := by
  obtain ⟨gap, last, plain, packets⟩ := packets_eq frames
  have noCommand : selectPhases ratio selected (commandPackets ratio command tsLastPacket) =
      [] := by
    apply selectPhases_eq_nil
    intro packet listed phase
    rw [data_addressPackets ratio command _ 0 _ packet listed]
    exact unselected phase
  have noGap : selectPhases ratio selected gap = [] := by
    apply selectPhases_eq_nil
    intro packet listed phase
    obtain ⟨time, rfl⟩ := plain packet listed
    exact unselected phase
  have noEnd : selectPhases ratio selected [ckePacket last] = [] := by
    apply selectPhases_eq_nil
    intro packet listed phase
    rw [List.mem_singleton.mp listed]
    exact unselected phase
  rw [packets, selectPhases_append, selectPhases_append, selectPhases_append, noCommand, noGap,
    noEnd, List.nil_append, List.nil_append, List.append_nil]

/-- The clock is held in every packet if it is held in the loop. -/
theorem holdsClock_packets
    (turns : ∀ packet ∈ plan.turns (plan.loopTs ratio tsLastPacket), packet.HoldsClock) :
    ∀ packet ∈ plan.packets tsLastPacket, packet.HoldsClock := by
  obtain ⟨gap, last, plain, packets⟩ := packets_eq frames
  intro packet listed
  rw [packets] at listed
  rcases List.mem_append.mp listed with inCommand | later
  · exact holdsClock_addressPackets ratio command _ 0 _ packet inCommand
  rcases List.mem_append.mp later with early | isLast
  · rcases List.mem_append.mp early with inGap | inTurns
    · obtain ⟨time, rfl⟩ := plain packet inGap
      exact holdsClock_ckePacket time
    · exact turns packet inTurns
  · rw [List.mem_singleton.mp isLast]
    exact holdsClock_ckePacket last

/-- The command is the only one. -/
theorem dramCommands_packets (supported : ratio.Supported) (selects : (command 0).ca ≠ ⟨0, 0⟩)
    (idle : ∀ packet ∈ plan.turns (plan.loopTs ratio tsLastPacket), ∀ phase,
      (packet.ca phase).cs = 0 ∧ (packet.ca phase).address = 0)
    (fits : tsLastPacket.toNat + (maxCommandFrames >>> ratio.shift) < 2 ^ 16) :
    dramCommands (caStream ratio (plan.packets tsLastPacket)) =
      some [⟨(tsLastPacket.toNat + 1) * ratio.cycles, commandFrames command⟩] := by
  obtain ⟨gap, last, plain, packets⟩ := packets_eq frames
  have some_frames : 0 < maxCommandFrames >>> ratio.shift := by
    rcases supported with rfl | rfl <;> decide
  have next : (1 + tsLastPacket).toNat = tsLastPacket.toNat + 1 := by bv_omega
  have restIdle : ∀ packet ∈ gap ++ plan.turns (plan.loopTs ratio tsLastPacket) ++
      [ckePacket last], ∀ phase, (packet.ca phase).cs = 0 ∧ (packet.ca phase).address = 0 := by
    intro packet listed
    rcases List.mem_append.mp listed with early | isLast
    · rcases List.mem_append.mp early with inGap | inTurns
      · obtain ⟨time, rfl⟩ := plain packet inGap
        exact idle_ckePacket time
      · exact idle packet inTurns
    · rw [List.mem_singleton.mp isLast]
      exact idle_ckePacket last
  have nothing : dramCommands (caStream ratio (gap ++
      plan.turns (plan.loopTs ratio tsLastPacket) ++ [ckePacket last])) = some [] := by
    rw [← List.append_nil (caStream _ _), dramCommands_idle (idle_caStream restIdle)]
    rfl
  rw [packets, caStream_append, commandPackets,
    caStream_command supported command (by rw [next]; omega), dramCommands_command selects,
    nothing, next]
  rfl

end TxPacketBuffer.Plan

end Seen

end WavLpddr
