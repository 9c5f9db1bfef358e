import WavLpddr.CompleteSequences
import WavLpddr.SequencePackets

/-!
# When the data of a write FIFO sequence are sent

The write enable starts a number of DRAM cycles after the command, the data start later by
the delay of the PHY.  As long as both cycles fit into eight bits, the packets carry the
enable and the data in exactly the cycles that are intended.
-/

namespace WavLpddr

open PacketGroupInfo TxPacketBuffer

/-- The DRAM cycle from which the write enable is to be set. -/
def wrdataEnStart (dramCfg : DramFreqCfg) (wrdataEnOffset tsLastPacket : BitVec 16) : Nat :=
  (tsLastPacket.toNat + 1) * dramCfg.ratio.cycles + 3 + dramCfg.phyWrLat.toNat +
    wrdataEnOffset.toNat

/-- The DRAM cycle from which the data are to be sent. -/
def wrdataStart (dramCfg : DramFreqCfg) (wrdataEnOffset tsLastPacket : BitVec 16) : Nat :=
  wrdataEnStart dramCfg wrdataEnOffset tsLastPacket + dramCfg.phyWrEn.toNat

section Groups

variable {dramCfg : DramFreqCfg} (supported : dramCfg.ratio.Supported)
  (burstLength : BurstLength) {wrdataEnOffset tsLastPacket : BitVec 16}
  (inByte : wrdataStart dramCfg wrdataEnOffset tsLastPacket < 256)
include supported inByte

/-- The groups of a write FIFO sequence start at the intended cycles. -/
theorem wrfifoGroups_eq :
    let enable := wrdataEnStart dramCfg wrdataEnOffset tsLastPacket
    let start := wrdataStart dramCfg wrdataEnOffset tsLastPacket
    let first := enable / dramCfg.ratio.cycles
    wrfifoGroups dramCfg tsLastPacket burstLength wrdataEnOffset =
      (groupAt (BitVec.ofNat 16 first) dramCfg.ratio.cycles enable (burstLength.cycles + 2) first,
        groupAt (BitVec.ofNat 16 (start / dramCfg.ratio.cycles)) dramCfg.ratio.cycles start
          burstLength.cycles first) := by
  intro enable start first
  let clk : BitVec 8 := ((tsLastPacket + 1) <<< dramCfg.ratio.shift + caClkLen +
    dramCfg.phyWrLat.setWidth 16 + wrdataEnOffset).setWidth 8
  have ordered : start = enable + dramCfg.phyWrEn.toNat := rfl
  have startSmall : start < 256 := inByte
  have enableByte : clk.toNat = enable :=
    (toNat_dramClk dramCfg.ratio dramCfg.phyWrLat wrdataEnOffset tsLastPacket).trans
      (Nat.mod_eq_of_lt (by omega : enable < 256))
  have startByte : (clk + dramCfg.phyWrEn).toNat = start := by
    rw [BitVec.toNat_add, enableByte]
    omega
  have enableWidened : (clk.setWidth 16 : BitVec 16).toNat = enable :=
    (BitVec.toNat_setWidth_of_le (by decide)).trans enableByte
  have startWidened : ((clk + dramCfg.phyWrEn).setWidth 16 : BitVec 16).toNat = start :=
    (BitVec.toNat_setWidth_of_le (by decide)).trans startByte
  have longer : burstLength.phases + 4 = BitVec.ofNat 16 (2 * (burstLength.cycles + 2)) := by
    cases burstLength <;> rfl
  have inEnable : first * dramCfg.ratio.cycles ≤ enable := Nat.div_mul_le_self _ _
  have inStart : first * dramCfg.ratio.cycles ≤ start := by omega
  change (createPacketGroupInfo dramCfg.ratio (clk.setWidth 16) (burstLength.phases + 4),
    createPacketGroupInfo dramCfg.ratio ((clk + dramCfg.phyWrEn).setWidth 16)
      burstLength.phases) = _
  rw [longer, burstLength.phases_eq,
    createPacketGroupInfo_of_toNat supported _ enableWidened inEnable,
    createPacketGroupInfo_of_toNat supported _ startWidened inStart]

/-- The loop begins at the packet that holds the first cycle of the enable. -/
theorem loopTs_wrfifoPlan (cs : Chipselect) (data : CommandData) :
    (wrfifoPlan dramCfg burstLength cs wrdataEnOffset data tsLastPacket).loopTs dramCfg.ratio
        tsLastPacket =
      BitVec.ofNat 16
        (wrdataEnStart dramCfg wrdataEnOffset tsLastPacket / dramCfg.ratio.cycles) := by
  let first := wrdataEnStart dramCfg wrdataEnOffset tsLastPacket / dramCfg.ratio.cycles
  let commandTs := BitVec.ofNat 16 (maxCommandFrames >>> dramCfg.ratio.shift) + tsLastPacket
  have inStart : wrdataEnStart dramCfg wrdataEnOffset tsLastPacket < 256 :=
    (Nat.le_add_right _ _).trans_lt inByte
  have firstSmall : first < 256 := (Nat.div_le_self _ _).trans_lt inStart
  have firstNat : (BitVec.ofNat 16 first).toNat = first :=
    (BitVec.toNat_ofNat _ _).trans (Nat.mod_eq_of_lt (by omega))
  -- The frames of the command end before the enable, so the difference does not wrap.
  have later : commandTs.toNat ≤ first := by
    have four : maxCommandFrames = 4 := rfl
    unfold commandTs first wrdataEnStart at *
    rw [BitVec.toNat_add, BitVec.toNat_ofNat]
    rcases supported with ratio | ratio <;> rw [ratio] at inStart ⊢
    · change (4 % 2 ^ 16 + tsLastPacket.toNat) % 2 ^ 16 ≤
        ((tsLastPacket.toNat + 1) * 1 + _ + _ + _) / 1
      omega
    · change (2 % 2 ^ 16 + tsLastPacket.toNat) % 2 ^ 16 ≤
        ((tsLastPacket.toNat + 1) * 2 + _ + _ + _) / 2
      omega
  have difference : (((BitVec.ofNat 16 first - commandTs).setWidth 8 : BitVec 8).setWidth 16 :
      BitVec 16) = BitVec.ofNat 16 first - commandTs := by
    have less : (BitVec.ofNat 16 first - commandTs).toNat < 2 ^ 8 := by
      rw [BitVec.toNat_sub_of_le (by rw [BitVec.le_def, firstNat]; exact later), firstNat]
      omega
    apply BitVec.eq_of_toNat_eq
    rw [BitVec.toNat_setWidth_of_le (by decide), BitVec.toNat_setWidth, Nat.mod_eq_of_lt less]
  unfold Plan.loopTs wrfifoPlan
  rw [wrfifoGroups_eq supported burstLength inByte]
  change ((BitVec.ofNat 16 first - commandTs).setWidth 8 : BitVec 8).setWidth 16 + commandTs = _
  rw [difference]
  exact BitVec.sub_add_cancel _ _

/-- The packets of the loop. -/
theorem turns_wrfifoPlan (cs : Chipselect) (data : CommandData) :
    let enable := wrdataEnStart dramCfg wrdataEnOffset tsLastPacket
    let start := wrdataStart dramCfg wrdataEnOffset tsLastPacket
    let plan := wrfifoPlan dramCfg burstLength cs wrdataEnOffset data tsLastPacket
    plan.turns (plan.loopTs dramCfg.ratio tsLastPacket) =
      (List.Ico (enable / dramCfg.ratio.cycles) (packetsEnd dramCfg.ratio.cycles
          (max (enable + (burstLength.cycles + 2)) (start + burstLength.cycles)))).map
        (wrfifoPacketAt dramCfg.ratio cs data enable (burstLength.cycles + 2) start
          burstLength.cycles) := by
  intro enable start plan
  have short : burstLength.cycles ≤ 16 := by cases burstLength <;> decide
  have ordered : enable ≤ start := Nat.le_add_right _ _
  have small : start < 256 := inByte
  have trace := loopTrace_wrfifo supported burstLength cs data
    (fun time _ => ofNat_div_le_iff supported (by omega : enable < 2 ^ 16) time)
    (fun time _ => ofNat_div_le_iff supported (by omega : start < 2 ^ 16) time)
    (Nat.div_mul_le_self enable _) (by omega)
  rw [← wrfifoGroups_eq supported burstLength inByte] at trace
  have same := congrArg Prod.fst trace
  unfold plan
  rw [loopTs_wrfifoPlan supported burstLength inByte]
  exact same

end Groups

/-- What the DRAM sees of a write FIFO sequence: its command from the DFI cycle after the last
packet on, the enable in the cycles of the burst and two more, and the data in order, two
phases to a cycle, in the cycles of the burst. -/
structure WrfifoScheduled (ratio : WddrFreqRatio) (burstLength : BurstLength)
    (cs : Chipselect) (data : CommandData) (command enable start : Nat)
    (packets : List DfiTxPacket) : Prop where
  commands : dramCommands (caStream ratio packets) =
    some [⟨command, commandFrames (createWrfifoCommand cs)⟩]
  enabled : phasesWhere ratio (·.wrdataEn = 1) packets =
    List.Ico (2 * enable) (2 * (enable + (burstLength.cycles + 2)))
  driven : (selectPhases ratio (·.driven) packets).map
      (fun entry => (entry.1, entry.2.wrdataCs, entry.2.dq0Wrdata, entry.2.dq1Wrdata)) =
    (List.Ico (2 * start) (2 * (start + burstLength.cycles))).map fun position =>
      (position, cs.high.setWidth 2, data 0 (position - 2 * start),
        data 1 (position - 2 * start))
  clocked : ∀ packet ∈ packets, packet.HoldsClock

section Phases

variable {ratio : WddrFreqRatio} (cs : Chipselect) (data : CommandData)
  {enable enableLength start length : Nat}

/-- The phase of the loop at a position. -/
theorem data_wrfifoPacketAt (position : Nat) :
    ((wrfifoPacketAt ratio cs data enable enableLength start length
        (position / (2 * ratio.cycles))).data (position % (2 * ratio.cycles))) =
      let enabled := if 2 * enable ≤ position ∧ position < 2 * (enable + enableLength) then
        enableWrdata position (DfiTxPacket.zero.data 0) else DfiTxPacket.zero.data 0
      if 2 * start ≤ position ∧ position < 2 * (start + length) then
        driveWrdata cs data (2 * start) position enabled
      else enabled := by
  have positive : 0 < 2 * ratio.cycles := Nat.mul_pos (by decide) ratio.cycles_pos
  unfold wrfifoPacketAt
  rw [DfiTxPacket.data_drive _ positive, DfiTxPacket.data_drive _ positive]
  rfl

variable (supported : ratio.Supported)
  (fits : max (enable + enableLength) (start + length) < 2 ^ 16)
include supported fits

theorem time_wrfifoPacketAt {time : Nat}
    (inLoop : time < packetsEnd ratio.cycles (max (enable + enableLength) (start + length))) :
    (wrfifoPacketAt ratio cs data enable enableLength start length time).time.toNat = time := by
  have inTime := (lt_packetsEnd supported time _).mp inLoop
  have := Nat.le_mul_of_pos_right time ratio.cycles_pos
  exact (BitVec.toNat_ofNat _ _).trans (Nat.mod_eq_of_lt (by omega))

variable (ordered : enable ≤ start) (nonempty : 0 < length)
include ordered nonempty

/-- The phases of the loop in a window that it covers. -/
theorem selectPhases_wrfifo {selected : TxDataPhase → Bool} {first last : Nat}
    (window : ∀ position, selected ((wrfifoPacketAt ratio cs data enable enableLength start length
        (position / (2 * ratio.cycles))).data (position % (2 * ratio.cycles))) = true ↔
      2 * first ≤ position ∧ position < 2 * last)
    (after : enable ≤ first) (before : last ≤ max (enable + enableLength) (start + length)) :
    selectPhases ratio selected
        ((List.Ico (enable / ratio.cycles) (packetsEnd ratio.cycles
          (max (enable + enableLength) (start + length)))).map
            (wrfifoPacketAt ratio cs data enable enableLength start length)) =
      (List.Ico (2 * first) (2 * last)).map fun position =>
        (position, (wrfifoPacketAt ratio cs data enable enableLength start length
          (position / (2 * ratio.cycles))).data (position % (2 * ratio.cycles))) := by
  have inGroup := Nat.div_mul_le_self enable ratio.cycles
  have stop := le_packetsEnd_mul supported (max (enable + enableLength) (start + length))
  have begins := div_mul_phases_le ratio enable
  have nonemptyLoop : enable / ratio.cycles < packetsEnd ratio.cycles
      (max (enable + enableLength) (start + length)) :=
    (lt_packetsEnd supported _ _).mpr (by omega)
  exact selectPhases_Ico
    (fun time _ inLoop => time_wrfifoPacketAt cs data supported fits inLoop)
    nonemptyLoop.le (fun position _ _ => window position) (by omega) (by omega)

theorem enabled_wrfifo :
    phasesWhere ratio (·.wrdataEn = 1)
        ((List.Ico (enable / ratio.cycles) (packetsEnd ratio.cycles
          (max (enable + enableLength) (start + length)))).map
            (wrfifoPacketAt ratio cs data enable enableLength start length)) =
      List.Ico (2 * enable) (2 * (enable + enableLength)) := by
  have window : ∀ position, decide (((wrfifoPacketAt ratio cs data enable enableLength start
        length (position / (2 * ratio.cycles))).data
          (position % (2 * ratio.cycles))).wrdataEn = 1) = true ↔
      2 * enable ≤ position ∧ position < 2 * (enable + enableLength) := by
    intro position
    rw [decide_eq_true_eq, data_wrfifoPacketAt]
    dsimp only
    split <;> split <;> simp_all [driveWrdata, enableWrdata, DfiTxPacket.zero]
  rw [phasesWhere, selectPhases_wrfifo cs data supported fits ordered nonempty window
    (Nat.le_refl _) (Nat.le_max_left _ _), List.map_map]
  exact List.map_id _

theorem driven_wrfifo :
    (selectPhases ratio (·.driven)
        ((List.Ico (enable / ratio.cycles) (packetsEnd ratio.cycles
          (max (enable + enableLength) (start + length)))).map
            (wrfifoPacketAt ratio cs data enable enableLength start length))).map
        (fun entry => (entry.1, entry.2.wrdataCs, entry.2.dq0Wrdata, entry.2.dq1Wrdata)) =
      (List.Ico (2 * start) (2 * (start + length))).map fun position =>
        (position, cs.high.setWidth 2, data 0 (position - 2 * start),
          data 1 (position - 2 * start)) := by
  have selects : (cs.high.setWidth 2 : BitVec 2) ≠ 0 := by cases cs <;> decide
  have window : ∀ position, ((wrfifoPacketAt ratio cs data enable enableLength start
        length (position / (2 * ratio.cycles))).data
          (position % (2 * ratio.cycles))).driven = true ↔
      2 * start ≤ position ∧ position < 2 * (start + length) := by
    intro position
    rw [TxDataPhase.driven, decide_eq_true_eq, data_wrfifoPacketAt]
    dsimp only
    split <;> split <;> simp_all [driveWrdata, enableWrdata, DfiTxPacket.zero]
  rw [selectPhases_wrfifo cs data supported fits ordered nonempty window ordered
    (Nat.le_max_right _ _), List.map_map]
  apply List.map_congr_left
  intro position inside
  rw [List.Ico.mem] at inside
  rw [Function.comp_apply, data_wrfifoPacketAt]
  dsimp only
  rw [if_pos inside]
  rfl

end Phases

namespace TxPacketBuffer

/-- A sequence that succeeds has used up both groups. -/
theorem wrfifoLoop_of_success {dramCfg : DramFreqCfg} {burstLength : BurstLength}
    {cs : Chipselect} {wrdataEnOffset : BitVec 16} {data : CommandData}
    {buffer after : TxPacketBuffer}
    (succeeded : buffer.dramPrepareWrfifoSequence dramCfg burstLength cs wrdataEnOffset data =
      .ok (.wddrSuccess, after)) :
    ∃ groups looped,
      buffer.wrfifoLoop dramCfg burstLength cs wrdataEnOffset data =
        .ok (.wddrSuccess, groups, looped) ∧
      groups.1.phaseRemaining = 0 ∧ groups.2.phaseRemaining = 0 := by
  unfold dramPrepareWrfifoSequence at succeeded
  cases ran : buffer.wrfifoLoop dramCfg burstLength cs wrdataEnOffset data with
  | error fault =>
      rw [ran] at succeeded
      cases succeeded
  | ok looped =>
      rw [ran] at succeeded
      obtain ⟨result, groups, buffer⟩ := looped
      cases result with
      | wddrSuccess =>
          have stopped := packetLoop_stops ran
          rw [wrfifoRemains, Bool.or_eq_false_iff, decide_eq_false_iff_not,
            decide_eq_false_iff_not, not_not, not_not] at stopped
          exact ⟨groups, buffer, rfl, stopped⟩
      | _ => cases succeeded

end TxPacketBuffer

/-- A write FIFO sequence whose packets are all allocated is scheduled as intended when the
first cycle of its data fits into eight bits, and its loop uses up both groups. -/
theorem wrfifoScheduled (dramCfg : DramFreqCfg) (supported : dramCfg.ratio.Supported)
    (burstLength : BurstLength) (cs : Chipselect) (wrdataEnOffset : BitVec 16)
    (data : CommandData) {buffer : TxPacketBuffer} (sound : buffer.Sound)
    (all : AllGranted buffer
      ((SequenceCall.wrfifo burstLength cs wrdataEnOffset data).packets dramCfg
        buffer.tsLastPacket))
    (inByte : wrdataStart dramCfg wrdataEnOffset buffer.tsLastPacket < 256) :
    ∃ groups looped after,
      buffer.wrfifoLoop dramCfg burstLength cs wrdataEnOffset data =
        .ok (.wddrSuccess, groups, looped) ∧
      groups.1.phaseRemaining = 0 ∧ groups.2.phaseRemaining = 0 ∧
      buffer.dramPrepareWrfifoSequence dramCfg burstLength cs wrdataEnOffset data =
        .ok (.wddrSuccess, after) ∧
      WrfifoScheduled dramCfg.ratio burstLength cs data
        ((buffer.tsLastPacket.toNat + 1) * dramCfg.ratio.cycles)
        (wrdataEnStart dramCfg wrdataEnOffset buffer.tsLastPacket)
        (wrdataStart dramCfg wrdataEnOffset buffer.tsLastPacket)
        (after.packets.drop buffer.list.length) := by
  obtain ⟨after, ran, appends⟩ :=
    (SequenceCall.wrfifo burstLength cs wrdataEnOffset data).run_of_allGranted dramCfg sound all
  have ran : buffer.dramPrepareWrfifoSequence dramCfg burstLength cs wrdataEnOffset data =
    .ok (.wddrSuccess, after) := ran
  obtain ⟨groups, looped, loopRan, enableLeft, dataLeft⟩ := wrfifoLoop_of_success ran
  refine ⟨groups, looped, after, loopRan, enableLeft, dataLeft, ran, ?_⟩
  have turns := turns_wrfifoPlan supported burstLength inByte cs data
  have ordered : wrdataEnStart dramCfg wrdataEnOffset buffer.tsLastPacket ≤
      wrdataStart dramCfg wrdataEnOffset buffer.tsLastPacket := Nat.le_add_right _ _
  have long : 0 < burstLength.cycles := by cases burstLength <;> decide
  have short : burstLength.cycles ≤ 16 := by cases burstLength <;> decide
  have inTime : buffer.tsLastPacket.toNat + (maxCommandFrames >>> dramCfg.ratio.shift) <
      2 ^ 16 := by
    have few : maxCommandFrames >>> dramCfg.ratio.shift ≤ 4 := Nat.shiftRight_le _ _
    have := Nat.le_mul_of_pos_right (buffer.tsLastPacket.toNat + 1) dramCfg.ratio.cycles_pos
    unfold wrdataStart wrdataEnStart at inByte
    omega
  have selects : (createWrfifoCommand cs 0).ca ≠ ⟨0, 0⟩ := by cases cs <;> decide
  rw [appends.drop_packets]
  have fits : max (wrdataEnStart dramCfg wrdataEnOffset buffer.tsLastPacket +
      (burstLength.cycles + 2)) (wrdataStart dramCfg wrdataEnOffset buffer.tsLastPacket +
        burstLength.cycles) < 2 ^ 16 := by
    omega
  refine ⟨Plan.dramCommands_packets rfl supported selects ?_ inTime, ?_, ?_,
    Plan.holdsClock_packets rfl ?_⟩
  · rw [turns]
    intro packet listed
    obtain ⟨time, -, rfl⟩ := List.mem_map.mp listed
    exact idle_ckePacket _
  · have enabled := enabled_wrfifo cs data supported fits ordered long
    rw [← turns] at enabled
    rw [← enabled]
    exact congrArg (List.map Prod.fst) (Plan.selectPhases_packets rfl fun _ => rfl)
  · have driven := driven_wrfifo cs data supported fits ordered long
    rw [← turns] at driven
    rw [← driven]
    exact congrArg (List.map _) (Plan.selectPhases_packets rfl TxDataPhase.driven_zero)
  · rw [turns]
    intro packet listed
    obtain ⟨time, -, rfl⟩ := List.mem_map.mp listed
    exact holdsClock_ckePacket _

/-- A write from the heap at a ratio of 1:2. -/
theorem wrfifoScheduled_heap :
    ∃ groups looped after,
      heapBuffer.wrfifoLoop (plainCfg .ratio1to2) .bl16 .cs1 4 (fun _ => BitVec.ofNat 8) =
        .ok (.wddrSuccess, groups, looped) ∧
      groups.1.phaseRemaining = 0 ∧ groups.2.phaseRemaining = 0 ∧
      heapBuffer.dramPrepareWrfifoSequence (plainCfg .ratio1to2) .bl16 .cs1 4
          (fun _ => BitVec.ofNat 8) = .ok (.wddrSuccess, after) ∧
      WrfifoScheduled .ratio1to2 .bl16 .cs1 (fun _ => BitVec.ofNat 8) 4 12 13
        (after.packets.drop 0) :=
  wrfifoScheduled (plainCfg .ratio1to2) (Or.inr rfl) .bl16 .cs1 4 (fun _ => BitVec.ofNat 8)
    sound_heapBuffer (allGranted_heapBuffer _) (by decide)

end WavLpddr
