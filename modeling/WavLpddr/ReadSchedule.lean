import WavLpddr.CompleteSequences
import WavLpddr.SequencePackets

/-!
# When the data of a read are taken

A read enables its data a number of DRAM cycles after its command.  The builder keeps the
first of these cycles in eight bits, so the data are taken in time exactly if that cycle
fits into eight bits.
-/

namespace WavLpddr

open PacketGroupInfo TxPacketBuffer

/-- The DRAM cycle from which the data of a read are to be enabled. -/
def readStart (dramCfg : DramFreqCfg) (rddataEnOffset tsLastPacket : BitVec 16) : Nat :=
  (tsLastPacket.toNat + 1) * dramCfg.ratio.cycles + 3 + dramCfg.phyRdEn.toNat +
    rddataEnOffset.toNat

section Group

variable {dramCfg : DramFreqCfg} (supported : dramCfg.ratio.Supported)
  (burstLength : BurstLength) (rddataEnOffset tsLastPacket : BitVec 16)
include supported

/-- The group of a read starts at the cycle that is left of the intended one. -/
theorem rddataGroup_eq :
    let start := readStart dramCfg rddataEnOffset tsLastPacket % 256
    rddataGroup dramCfg tsLastPacket burstLength rddataEnOffset =
      groupAt (BitVec.ofNat 16 (start / dramCfg.ratio.cycles)) dramCfg.ratio.cycles start
        burstLength.cycles (start / dramCfg.ratio.cycles) := by
  intro start
  have inByte := toNat_dramClk dramCfg.ratio dramCfg.phyRdEn rddataEnOffset tsLastPacket
  let clk : BitVec 8 := ((tsLastPacket + 1) <<< dramCfg.ratio.shift + caClkLen +
    dramCfg.phyRdEn.setWidth 16 + rddataEnOffset).setWidth 8
  have widened : (clk.setWidth 16 : BitVec 16).toNat = start :=
    (BitVec.toNat_setWidth_of_le (by decide)).trans inByte
  change createPacketGroupInfo dramCfg.ratio (clk.setWidth 16) burstLength.phases = _
  rw [burstLength.phases_eq]
  exact createPacketGroupInfo_of_toNat supported _ widened (Nat.div_mul_le_self _ _)

end Group

/-- The read FIFO command or the command that reads the DQ calibration pattern. -/
def readCommand (fifo : Bool) (cs : Chipselect) : Nat → CommandFrame :=
  if fifo then createRdfifoCommand cs else createRddqCommand cs

/-- The builder for a read command. -/
def readCall (fifo : Bool) (burstLength : BurstLength) (cs : Chipselect)
    (rddataEnOffset : BitVec 16) : SequenceCall :=
  if fifo then .rdfifo burstLength cs rddataEnOffset else .rddq burstLength cs rddataEnOffset

theorem selects_readCommand (fifo : Bool) (cs : Chipselect) :
    (readCommand fifo cs 0).ca ≠ ⟨0, 0⟩ := by
  cases fifo <;> cases cs <;> decide

/-- What the DRAM sees of a read: its command from the DFI cycle after the last packet on,
and the read enable with its chip select in the cycles of the burst. -/
structure ReadScheduled (dramCfg : DramFreqCfg) (fifo : Bool) (burstLength : BurstLength)
    (cs : Chipselect) (start : Nat) (tsLastPacket : BitVec 16) (packets : List DfiTxPacket) :
    Prop where
  commands : dramCommands (caStream dramCfg.ratio packets) =
    some [⟨(tsLastPacket.toNat + 1) * dramCfg.ratio.cycles,
      commandFrames (readCommand fifo cs)⟩]
  enabled : (selectPhases dramCfg.ratio (fun phase => phase.rddataEn ≠ 0 ∨ phase.rddataCs ≠ 0)
      packets).map (fun entry => (entry.1, entry.2.rddataEn, entry.2.rddataCs)) =
    (List.Ico (2 * start) (2 * (start + burstLength.cycles))).map fun position =>
      (position, 1, cs.high.setWidth 2)

section Scheduled

variable {dramCfg : DramFreqCfg} (supported : dramCfg.ratio.Supported) (fifo : Bool)
  (burstLength : BurstLength) (cs : Chipselect) (rddataEnOffset tsLastPacket : BitVec 16)
include supported

/-- The loop begins at the packet that holds the first cycle of its group. -/
theorem loopTs_readPlan (command : Nat → CommandFrame) :
    (readPlan dramCfg burstLength cs rddataEnOffset command tsLastPacket).loopTs dramCfg.ratio
        tsLastPacket =
      BitVec.ofNat 16
        (readStart dramCfg rddataEnOffset tsLastPacket % 256 / dramCfg.ratio.cycles) := by
  unfold Plan.loopTs readPlan
  rw [rddataGroup_eq supported]
  exact BitVec.sub_add_cancel _ _

/-- The packets of the loop of a read. -/
theorem turns_readPlan (command : Nat → CommandFrame) :
    let start := readStart dramCfg rddataEnOffset tsLastPacket % 256
    let plan := readPlan dramCfg burstLength cs rddataEnOffset command tsLastPacket
    plan.turns (plan.loopTs dramCfg.ratio tsLastPacket) =
      (List.Ico (start / dramCfg.ratio.cycles)
          (packetsEnd dramCfg.ratio.cycles (start + burstLength.cycles))).map fun time =>
        (ckePacket (BitVec.ofNat 16 time)).drive (enableRddata cs) (2 * dramCfg.ratio.cycles)
          (2 * start) (2 * (start + burstLength.cycles)) time := by
  intro start plan
  have short : burstLength.cycles ≤ 16 := by cases burstLength <;> decide
  have trace := loopTrace_read supported burstLength cs
    (BitVec.ofNat 16 (start / dramCfg.ratio.cycles)) (Nat.div_mul_le_self start _)
    (Nat.lt_div_mul_add dramCfg.ratio.cycles_pos |>.trans_eq (Nat.add_one_mul _ _).symm) (by omega)
  rw [← rddataGroup_eq supported burstLength] at trace
  have same := congrArg Prod.fst trace
  unfold plan
  rw [loopTs_readPlan supported]
  exact same

/-- The loop sets the read enable in the cycles of its group and in no others. -/
theorem enabled_turns (command : Nat → CommandFrame) :
    let start := readStart dramCfg rddataEnOffset tsLastPacket % 256
    let plan := readPlan dramCfg burstLength cs rddataEnOffset command tsLastPacket
    (selectPhases dramCfg.ratio (fun phase => phase.rddataEn ≠ 0 ∨ phase.rddataCs ≠ 0)
        (plan.turns (plan.loopTs dramCfg.ratio tsLastPacket))).map
        (fun entry => (entry.1, entry.2.rddataEn, entry.2.rddataCs)) =
      (List.Ico (2 * start) (2 * (start + burstLength.cycles))).map fun position =>
        (position, 1, cs.high.setWidth 2) := by
  intro start plan
  have positive : 0 < 2 * dramCfg.ratio.cycles :=
    Nat.mul_pos (by decide) dramCfg.ratio.cycles_pos
  have small : start < 256 := Nat.mod_lt _ (by decide)
  have short : burstLength.cycles ≤ 16 := by cases burstLength <;> decide
  have bound := fun time => lt_packetsEnd supported time (start + burstLength.cycles)
  have ordered : start / dramCfg.ratio.cycles ≤
      packetsEnd dramCfg.ratio.cycles (start + burstLength.cycles) := by
    have inGroup := Nat.div_mul_le_self start dramCfg.ratio.cycles
    have nonempty : 0 < burstLength.cycles := by cases burstLength <;> decide
    exact ((bound _).mpr (by omega)).le
  have data : ∀ position, (((ckePacket (BitVec.ofNat 16
      (position / (2 * dramCfg.ratio.cycles)))).drive (enableRddata cs)
        (2 * dramCfg.ratio.cycles) (2 * start) (2 * (start + burstLength.cycles))
        (position / (2 * dramCfg.ratio.cycles))).data (position % (2 * dramCfg.ratio.cycles))) =
      if 2 * start ≤ position ∧ position < 2 * (start + burstLength.cycles) then
        enableRddata cs position (DfiTxPacket.zero.data 0)
      else DfiTxPacket.zero.data 0 :=
    fun position => DfiTxPacket.data_drive _ positive _ _ position _
  rw [turns_readPlan supported, selectPhases_Ico _ ordered _ (div_mul_phases_le _ start)
    (le_packetsEnd_mul supported _), List.map_map]
  · apply List.map_congr_left
    intro position inside
    rw [List.Ico.mem] at inside
    rw [Function.comp_apply, data, if_pos inside]
    rfl
  · intro time _ before
    have inTime := (bound time).mp before
    have := Nat.le_mul_of_pos_right time dramCfg.ratio.cycles_pos
    exact (BitVec.toNat_ofNat _ _).trans (Nat.mod_eq_of_lt (by omega))
  · intro position _ _
    rw [data]
    split
    · rename_i inside
      exact iff_of_true (by simp [enableRddata]) inside
    · rename_i outside
      exact iff_of_false (by simp [DfiTxPacket.zero]) outside

/-- What the DRAM sees of a read that got all its packets. -/
theorem readScheduled_packets (fits : tsLastPacket.toNat + maxCommandFrames < 2 ^ 16) :
    ReadScheduled dramCfg fifo burstLength cs
      (readStart dramCfg rddataEnOffset tsLastPacket % 256) tsLastPacket
      ((readPlan dramCfg burstLength cs rddataEnOffset (readCommand fifo cs)
        tsLastPacket).packets tsLastPacket) where
  commands := by
    have few : maxCommandFrames >>> dramCfg.ratio.shift ≤ maxCommandFrames :=
      Nat.shiftRight_le _ _
    apply Plan.dramCommands_packets rfl supported (selects_readCommand fifo cs) _ (by omega)
    rw [turns_readPlan supported]
    intro packet listed
    obtain ⟨time, -, rfl⟩ := List.mem_map.mp listed
    exact idle_ckePacket _
  enabled := by
    rw [Plan.selectPhases_packets rfl (fun _ => rfl)]
    exact enabled_turns supported burstLength cs rddataEnOffset tsLastPacket _

end Scheduled

/-- The cycles of a schedule determine where it starts. -/
theorem ReadScheduled.start_eq {dramCfg : DramFreqCfg} {fifo : Bool} {burstLength : BurstLength}
    {cs : Chipselect} {start other : Nat} {tsLastPacket : BitVec 16}
    {packets : List DfiTxPacket}
    (scheduled : ReadScheduled dramCfg fifo burstLength cs start tsLastPacket packets)
    (otherwise : ReadScheduled dramCfg fifo burstLength cs other tsLastPacket packets) :
    start = other := by
  have nonempty : 0 < burstLength.cycles := by cases burstLength <;> decide
  have same := congrArg (List.map Prod.fst) (scheduled.enabled.symm.trans otherwise.enabled)
  rw [List.map_map, List.map_map] at same
  have positions : List.Ico (2 * start) (2 * (start + burstLength.cycles)) =
      List.Ico (2 * other) (2 * (other + burstLength.cycles)) := by
    simpa [Function.comp_def] using same
  have first : 2 * start ∈ List.Ico (2 * other) (2 * (other + burstLength.cycles)) := by
    rw [← positions, List.Ico.mem]
    omega
  have second : 2 * other ∈ List.Ico (2 * start) (2 * (start + burstLength.cycles)) := by
    rw [positions, List.Ico.mem]
    omega
  rw [List.Ico.mem] at first second
  omega

/-- A read whose packets are all allocated is scheduled as intended exactly if the first cycle
of its data fits into eight bits. -/
theorem readScheduled_iff (dramCfg : DramFreqCfg) (supported : dramCfg.ratio.Supported)
    (fifo : Bool) (burstLength : BurstLength) (cs : Chipselect) (rddataEnOffset : BitVec 16)
    {buffer : TxPacketBuffer} (sound : buffer.Sound)
    (all : AllGranted buffer ((readCall fifo burstLength cs rddataEnOffset).packets dramCfg
      buffer.tsLastPacket))
    (fits : packetsEnd dramCfg.ratio.cycles
      (readStart dramCfg rddataEnOffset buffer.tsLastPacket + burstLength.cycles) < 2 ^ 16) :
    ∃ after,
      (readCall fifo burstLength cs rddataEnOffset).run dramCfg buffer =
        .ok (.wddrSuccess, after) ∧
      (ReadScheduled dramCfg fifo burstLength cs
          (readStart dramCfg rddataEnOffset buffer.tsLastPacket) buffer.tsLastPacket
          (after.packets.drop buffer.list.length) ↔
        readStart dramCfg rddataEnOffset buffer.tsLastPacket < 256) := by
  obtain ⟨after, ran, appends⟩ :=
    (readCall fifo burstLength cs rddataEnOffset).run_of_allGranted dramCfg sound all
  refine ⟨after, ran, ?_⟩
  have isPlan : (readCall fifo burstLength cs rddataEnOffset).packets dramCfg
      buffer.tsLastPacket = (readPlan dramCfg burstLength cs rddataEnOffset
        (readCommand fifo cs) buffer.tsLastPacket).packets buffer.tsLastPacket := by
    cases fifo <;> rfl
  have inTime : buffer.tsLastPacket.toNat + maxCommandFrames < 2 ^ 16 := by
    have long : 8 ≤ burstLength.cycles := by cases burstLength <;> decide
    have beyond := le_packetsEnd_mul supported
      (readStart dramCfg rddataEnOffset buffer.tsLastPacket + burstLength.cycles)
    have four : maxCommandFrames = 4 := rfl
    unfold readStart at beyond fits
    rcases supported.cycles_eq with width | width <;> rw [width] at beyond fits <;> omega
  have scheduled := readScheduled_packets supported fifo burstLength cs rddataEnOffset _ inTime
  rw [appends.drop_packets, isPlan]
  constructor
  · intro intended
    have same := scheduled.start_eq intended
    have := Nat.mod_lt (readStart dramCfg rddataEnOffset buffer.tsLastPacket)
      (by decide : 0 < 256)
    omega
  · intro inByte
    rwa [Nat.mod_eq_of_lt inByte] at scheduled

/-- A read of the FIFO from the heap. -/
theorem readScheduled_iff_heap :
    ∃ after, (readCall true .bl16 .cs0 4).run (plainCfg .ratio1to2) heapBuffer =
        .ok (.wddrSuccess, after) ∧
      (ReadScheduled (plainCfg .ratio1to2) true .bl16 .cs0
          (readStart (plainCfg .ratio1to2) 4 1) 1 (after.packets.drop 0) ↔
        readStart (plainCfg .ratio1to2) 4 1 < 256) :=
  readScheduled_iff (plainCfg .ratio1to2) (Or.inr rfl) true .bl16 .cs0 4 sound_heapBuffer
    (allGranted_heapBuffer _) (by decide)

/-- An offset of 300 cycles: the data are taken 256 cycles early. -/
theorem not_readScheduled :
    ¬ ∀ (dramCfg : DramFreqCfg) (fifo : Bool) (burstLength : BurstLength) (cs : Chipselect)
      (rddataEnOffset : BitVec 16) (buffer after : TxPacketBuffer),
      dramCfg.ratio.Supported → buffer.Sound →
      1 ≤ dramCfg.phyRdEn.toNat + rddataEnOffset.toNat →
      AllGranted buffer ((readCall fifo burstLength cs rddataEnOffset).packets dramCfg
        buffer.tsLastPacket) →
      packetsEnd dramCfg.ratio.cycles
        (readStart dramCfg rddataEnOffset buffer.tsLastPacket + burstLength.cycles) < 2 ^ 16 →
      (readCall fifo burstLength cs rddataEnOffset).run dramCfg buffer =
        .ok (.wddrSuccess, after) →
      ReadScheduled dramCfg fifo burstLength cs
        (readStart dramCfg rddataEnOffset buffer.tsLastPacket) buffer.tsLastPacket
        (after.packets.drop buffer.list.length) := by
  intro all
  have check : (match (readCall true .bl16 .cs0 300).run (plainCfg .ratio1to1) heapBuffer with
      | .ok (result, after) =>
          decide (result = .wddrSuccess ∧ (phasesWhere .ratio1to1
            (fun phase => phase.rddataEn ≠ 0 ∨ phase.rddataCs ≠ 0) after.packets).head? = some 100)
      | .error _ => false) = true := by
    decide +kernel
  split at check
  · rename_i result after ran
    obtain ⟨rfl, first⟩ := of_decide_eq_true check
    have scheduled := all _ _ _ _ _ _ _ (Or.inl rfl) sound_heapBuffer (by decide)
      (allGranted_heapBuffer _) (by decide) ran
    have positions := congrArg (List.map Prod.fst) scheduled.enabled
    rw [List.map_map, List.map_map] at positions
    have same : phasesWhere .ratio1to1 (fun phase => phase.rddataEn ≠ 0 ∨ phase.rddataCs ≠ 0)
        after.packets = List.map id (List.Ico 612 628) := positions
    rw [same] at first
    exact absurd first (by decide)
  · cases check

end WavLpddr
