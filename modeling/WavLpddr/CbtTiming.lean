import WavLpddr.CompleteSequences
import WavLpddr.SequencePackets

/-!
# When the packets of command bus training are sent

Command bus training holds the VREF setting on the data pins, strobes it after a while,
and waits twice: until the strobe is over, and until the voltage has settled.  Both waits
pass through an eight-bit offset, so they are kept exactly if they fit into it.
-/

namespace WavLpddr

open PacketGroupInfo TxPacketBuffer

/-- The DRAM cycles of the data. -/
def cbtLength (dramCfg : DramFreqCfg) : Nat :=
  dramCfg.tShTrain.toNat + 2 * dramCfg.ratio.cycles + 2

/-- The first timestamp after the loop on an empty buffer. -/
def cbtEnd (dramCfg : DramFreqCfg) : Nat := 3 + cbtLength dramCfg / dramCfg.ratio.cycles

/-- The VREF setting on the pins of byte 0, no level on those of the other byte. -/
def cbtLevel (vrefSetting : BitVec 8) (lane : Nat) : BitVec 8 :=
  if lane = 0 then vrefSetting else 0

theorem cbtData_held {ratio : WddrFreqRatio} (supported : ratio.Supported)
    (vrefSetting : BitVec 8) (lane index : Nat) (inPacket : index < 2 * ratio.cycles) :
    cbtData (ratio.cyclesPerPacket <<< 1) vrefSetting lane index =
      cbtLevel vrefSetting lane := by
  have phases : (ratio.cyclesPerPacket <<< 1).toNat = 2 * ratio.cycles := by
    rcases supported with rfl | rfl <;> rfl
  have few : 2 * ratio.cycles ≤ maxDataSize := by
    rcases supported with rfl | rfl <;> decide
  unfold cbtData createDataFrame cbtLevel
  by_cases first : lane = 0
  · subst first
    have inFrame : min 0 maxDataSize ≤ index ∧ index < min 0 maxDataSize +
        min (List.replicate (2 * ratio.cycles) vrefSetting).length
          (maxDataSize - min 0 maxDataSize) := by
      rw [List.length_replicate]
      omega
    rw [phases, Function.update_self, if_pos inFrame, if_pos rfl]
    simp [inPacket]
  · rw [Function.update_of_ne first, if_neg first]

section Turns

variable {dramCfg : DramFreqCfg} (supported : dramCfg.ratio.Supported)
include supported

/-- The groups of command bus training on an empty buffer. -/
theorem cbtGroups_eq :
    cbtGroups dramCfg 1 =
      (groupAt (BitVec.ofNat 16 (3 * dramCfg.ratio.cycles / dramCfg.ratio.cycles))
          dramCfg.ratio.cycles (3 * dramCfg.ratio.cycles) (cbtLength dramCfg) 3,
        groupAt (BitVec.ofNat 16
            ((3 * dramCfg.ratio.cycles + dramCfg.tShTrain.toNat) / dramCfg.ratio.cycles))
          dramCfg.ratio.cycles (3 * dramCfg.ratio.cycles + dramCfg.tShTrain.toNat) 2 3) := by
  let clk : BitVec 16 := (1 + 1 : BitVec 16) <<< dramCfg.ratio.shift +
    dramCfg.ratio.cyclesPerPacket.setWidth 16
  have first : clk.toNat = 3 * dramCfg.ratio.cycles := by
    unfold clk
    rcases supported with ratio | ratio <;> rw [ratio] <;> rfl
  have second : (clk + dramCfg.tShTrain.setWidth 16).toNat =
      3 * dramCfg.ratio.cycles + dramCfg.tShTrain.toNat := by
    have small := dramCfg.tShTrain.isLt
    rw [BitVec.toNat_add, first, BitVec.toNat_setWidth_of_le (by decide)]
    rcases supported.cycles_eq with width | width <;> rw [width] <;> omega
  have phases := cbtPhases_eq dramCfg 1
  change (createPacketGroupInfo dramCfg.ratio clk (cbtGroups dramCfg 1).1.phaseRemaining,
    createPacketGroupInfo dramCfg.ratio (clk + dramCfg.tShTrain.setWidth 16)
      (BitVec.ofNat 16 (2 * 2))) = _
  rw [phases]
  exact Prod.ext (createPacketGroupInfo_of_toNat supported _ first (Nat.le_refl _))
    (createPacketGroupInfo_of_toNat supported _ second (Nat.le_add_right _ _))

/-- The loop fills the packets from the third timestamp on. -/
theorem cbtTurns_eq (cs : Chipselect) (vrefSetting : BitVec 8) :
    cbtTurns dramCfg cs vrefSetting 1 (cbtOffset dramCfg 1 (1 + 1) + (1 + 1)) =
      (List.Ico 3 (cbtEnd dramCfg)).map
        (cbtPacketAt dramCfg.ratio cs (cbtLevel vrefSetting) (3 * dramCfg.ratio.cycles)
          (cbtLength dramCfg) (3 * dramCfg.ratio.cycles + dramCfg.tShTrain.toNat)) := by
  have small := dramCfg.tShTrain.isLt
  have positive := dramCfg.ratio.cycles_pos
  have few : dramCfg.ratio.cycles ≤ 2 := by
    rcases supported.cycles_eq with width | width <;> omega
  have length : cbtLength dramCfg = dramCfg.tShTrain.toNat + 2 * dramCfg.ratio.cycles + 2 := rfl
  have time : cbtOffset dramCfg 1 (1 + 1) + (1 + 1) = BitVec.ofNat 16 3 := by
    unfold cbtOffset
    rw [cbtGroups_eq supported]
    change ((BitVec.ofNat 16 (3 * dramCfg.ratio.cycles / dramCfg.ratio.cycles) - (1 + 1)).setWidth
      8 : BitVec 8).setWidth 16 + (1 + 1) = BitVec.ofNat 16 3
    rw [Nat.mul_div_cancel _ positive]
    rfl
  have inTime : (3 + cbtLength dramCfg) * dramCfg.ratio.cycles < 2 ^ 16 := by
    rcases supported.cycles_eq with width | width <;> rw [length, width] <;> omega
  have trace := loopTrace_cbt supported cs (cbtData_held supported vrefSetting)
    (fun time _ => ofNat_div_le_iff supported (by omega : 3 * dramCfg.ratio.cycles < 2 ^ 16) time)
    (fun time _ => ofNat_div_le_iff supported (by omega :
      3 * dramCfg.ratio.cycles + dramCfg.tShTrain.toNat < 2 ^ 16) time)
    (by omega) (by omega) inTime
  rw [← cbtGroups_eq supported] at trace
  rw [time]
  exact congrArg Prod.fst trace

end Turns

/-- The phase of the loop at a position. -/
theorem data_cbtPacketAt (ratio : WddrFreqRatio) (cs : Chipselect) (level : Nat → BitVec 8)
    (start length enable position : Nat) :
    ((cbtPacketAt ratio cs level start length enable (position / (2 * ratio.cycles))).data
        (position % (2 * ratio.cycles))) =
      let driven := if 2 * start ≤ position ∧ position < 2 * (start + length) then
        driveWrdata cs (fun lane _ => level lane) 0 position (DfiTxPacket.zero.data 0)
      else DfiTxPacket.zero.data 0
      if 2 * enable ≤ position ∧ position < 2 * (enable + 2) then enableWrdata position driven
      else driven := by
  have positive : 0 < 2 * ratio.cycles := Nat.mul_pos (by decide) ratio.cycles_pos
  unfold cbtPacketAt
  rw [DfiTxPacket.data_drive _ positive, DfiTxPacket.data_drive _ positive]
  rfl

/-- The last packet with data, the one that holds, and the one with the CA pattern. -/
structure CbtWaits (dramCfg : DramFreqCfg) (cs : Chipselect) (commandAddress : BitVec 8)
    (lastData hold pattern : DfiTxPacket) : Prop where
  drives : ∃ phase < 2 * dramCfg.ratio.cycles, (lastData.data phase).driven = true
  idle : ∀ phase, (hold.data phase).driven = false ∧ (hold.ca phase).cs = 0
  command : (pattern.ca 0).address = commandAddress.setWidth 7 ∧
    (pattern.ca 0).cs = cs.high.setWidth 2 ∧ (pattern.ca 1).cs = cs.high.setWidth 2
  holds : hold.time.toNat = lastData.time.toNat +
    ((dramCfg.tShTrain.toNat + dramCfg.phyWrEn.toNat) >>> dramCfg.ratio.shift + 1)
  settles : pattern.time.toNat = hold.time.toNat +
    ((dramCfg.tVrefCaLong.toNat - dramCfg.tShTrain.toNat) >>> dramCfg.ratio.shift + 1)

/-- What the DRAM sees of command bus training: the VREF setting on the data pins from some
cycle on, the strobe for two cycles a while later and before the data end, and the two
waits. -/
structure CbtScheduled (dramCfg : DramFreqCfg) (cs : Chipselect)
    (vrefSetting commandAddress : BitVec 8) (packets : List DfiTxPacket) : Prop where
  strobed : ∃ first stop,
    phasesWhere dramCfg.ratio (·.wrdataEn = 1) packets =
      List.Ico (2 * (first + dramCfg.tShTrain.toNat))
        (2 * (first + dramCfg.tShTrain.toNat + 2)) ∧
    (selectPhases dramCfg.ratio (·.driven) packets).map
        (fun entry => (entry.1, entry.2.wrdataCs, entry.2.dq0Wrdata)) =
      (List.Ico (2 * first) (2 * stop)).map (fun position =>
        (position, cs.high.setWidth 2, vrefSetting)) ∧
    first + dramCfg.tShTrain.toNat + 2 ≤ stop
  waits : ∃ earlier lastData hold pattern ending last,
    packets = earlier ++ [lastData, hold, pattern, ending, last] ∧
      CbtWaits dramCfg cs commandAddress lastData hold pattern

section Offsets

variable (dramCfg : DramFreqCfg)

/-- Shifting a positive number is a division. -/
theorem toNat_sshiftRight_of_lt {value : Word} (positive : value.toNat < 2 ^ 31) (shift : Nat) :
    (value.sshiftRight shift).toNat = value.toNat >>> shift := by
  have sign : value.msb = false := BitVec.msb_eq_false_iff_two_mul_lt.mpr (by omega)
  rw [BitVec.sshiftRight_eq_of_msb_false sign, BitVec.toNat_ushiftRight]

/-- The eight bits that are left of an offset. -/
theorem toNat_cut {value : Word} (positive : value.toNat < 2 ^ 31) (shift : Nat) :
    ((value.sshiftRight shift + 1).setWidth 8 : BitVec 8).toNat =
      (value.toNat >>> shift + 1) % 256 := by
  have shifted := toNat_sshiftRight_of_lt positive shift
  have less : value.toNat >>> shift ≤ value.toNat := Nat.shiftRight_le _ _
  have one : (1 : Word).toNat = 1 := rfl
  rw [BitVec.toNat_setWidth, BitVec.toNat_add, shifted, one]
  omega

theorem toNat_cbtHoldOffset :
    (cbtHoldOffset dramCfg).toNat =
      ((dramCfg.tShTrain.toNat + dramCfg.phyWrEn.toNat) >>> dramCfg.ratio.shift + 1) % 256 := by
  have sum : (dramCfg.tShTrain.setWidth 32 + dramCfg.phyWrEn.setWidth 32 : Word).toNat =
      dramCfg.tShTrain.toNat + dramCfg.phyWrEn.toNat := by
    have := dramCfg.tShTrain.isLt
    have := dramCfg.phyWrEn.isLt
    rw [BitVec.toNat_add, BitVec.toNat_setWidth_of_le (by decide),
      BitVec.toNat_setWidth_of_le (by decide), Nat.mod_eq_of_lt (by omega)]
  have := dramCfg.tShTrain.isLt
  have := dramCfg.phyWrEn.isLt
  unfold cbtHoldOffset
  rw [toNat_cut (by omega), sum]

theorem toNat_cbtPatternOffset
    (settles : dramCfg.tShTrain.toNat ≤ dramCfg.tVrefCaLong.toNat) :
    (cbtPatternOffset dramCfg).toNat =
      ((dramCfg.tVrefCaLong.toNat - dramCfg.tShTrain.toNat) >>> dramCfg.ratio.shift + 1) %
        256 := by
  have long : (dramCfg.tVrefCaLong.setWidth 32 : Word).toNat = dramCfg.tVrefCaLong.toNat :=
    BitVec.toNat_setWidth_of_le (by decide)
  have short : (dramCfg.tShTrain.setWidth 32 : Word).toNat = dramCfg.tShTrain.toNat :=
    BitVec.toNat_setWidth_of_le (by decide)
  have difference : (dramCfg.tVrefCaLong.setWidth 32 - dramCfg.tShTrain.setWidth 32 :
      Word).toNat = dramCfg.tVrefCaLong.toNat - dramCfg.tShTrain.toNat := by
    rw [BitVec.toNat_sub_of_le (by rw [BitVec.le_def, long, short]; exact settles), long, short]
  have := dramCfg.tVrefCaLong.isLt
  unfold cbtPatternOffset
  rw [toNat_cut (by omega), difference]

end Offsets

section Packets

variable {dramCfg : DramFreqCfg} (cs : Chipselect) (vrefSetting commandAddress : BitVec 8)

/-- The packet of the loop at a timestamp. -/
def cbtFilled (dramCfg : DramFreqCfg) (cs : Chipselect) (vrefSetting : BitVec 8) :
    Nat → DfiTxPacket :=
  cbtPacketAt dramCfg.ratio cs (cbtLevel vrefSetting) (3 * dramCfg.ratio.cycles)
    (cbtLength dramCfg) (3 * dramCfg.ratio.cycles + dramCfg.tShTrain.toNat)

/-- The timestamp of the hold packet. -/
def cbtHoldTs (dramCfg : DramFreqCfg) : BitVec 16 :=
  (cbtHoldOffset dramCfg).setWidth 16 + BitVec.ofNat 16 (cbtEnd dramCfg - 1)

/-- The timestamp of the packet with the CA pattern. -/
def cbtPatternTs (dramCfg : DramFreqCfg) : BitVec 16 :=
  (cbtPatternOffset dramCfg).setWidth 16 + cbtHoldTs dramCfg

/-- The data phases of a sequence on any buffer are those of its loop. -/
theorem selectPhases_cbtPackets {selected : TxDataPhase → Bool}
    (unselected : ∀ phase, selected (DfiTxPacket.zero.data phase) = false)
    (tsLastPacket : BitVec 16) :
    selectPhases dramCfg.ratio selected
        (cbtPackets dramCfg cs vrefSetting commandAddress tsLastPacket) =
      selectPhases dramCfg.ratio selected (cbtTurns dramCfg cs vrefSetting tsLastPacket
        (cbtOffset dramCfg tsLastPacket (1 + tsLastPacket) + (1 + tsLastPacket))) := by
  have none : ∀ packet : DfiTxPacket, packet.data = DfiTxPacket.zero.data →
      selectPhases dramCfg.ratio selected [packet] = [] := by
    intro packet zero
    apply selectPhases_eq_nil
    intro other listed phase
    rw [List.mem_singleton.mp listed, zero]
    exact unselected phase
  have ck : ∀ time, selectPhases dramCfg.ratio selected [ckPacket time] = [] :=
    fun time => none _ rfl
  have pattern : ∀ time,
      selectPhases dramCfg.ratio selected [cbtPatternPacket cs commandAddress time] = [] :=
    fun time => none _ rfl
  unfold cbtPackets cbtLoopPackets
  dsimp only
  rw [← List.singleton_append, selectPhases_append, selectPhases_append, selectPhases_append,
    selectPhases_append, selectPhases_append, ck, ck, ck, ck, pattern]
  simp only [List.nil_append, List.append_nil]

theorem three_lt_cbtEnd (dramCfg : DramFreqCfg) : 3 < cbtEnd dramCfg := by
  have long : dramCfg.ratio.cycles ≤ cbtLength dramCfg := by
    unfold cbtLength
    omega
  have := Nat.div_pos long dramCfg.ratio.cycles_pos
  unfold cbtEnd
  omega

variable (supported : dramCfg.ratio.Supported)
include supported

theorem cbtEnd_lt : cbtEnd dramCfg < 270 := by
  have small := dramCfg.tShTrain.isLt
  have := Nat.div_le_self (cbtLength dramCfg) dramCfg.ratio.cycles
  unfold cbtEnd
  unfold cbtLength at *
  rcases supported.cycles_eq with width | width <;> rw [width] at * <;> omega

/-- The packets on an empty buffer end with the last one of the data, the one that holds, the
one with the CA pattern and two more. -/
theorem cbtPackets_eq :
    cbtPackets dramCfg cs vrefSetting commandAddress 1 =
      (ckPacket (1 + 1) :: (List.Ico 3 (cbtEnd dramCfg - 1)).map
          (cbtFilled dramCfg cs vrefSetting)) ++
        [cbtFilled dramCfg cs vrefSetting (cbtEnd dramCfg - 1), ckPacket (cbtHoldTs dramCfg),
          cbtPatternPacket cs commandAddress (cbtPatternTs dramCfg),
          ckPacket (1 + cbtPatternTs dramCfg), ckPacket (2 + (1 + cbtPatternTs dramCfg))] := by
  have after := three_lt_cbtEnd dramCfg
  obtain ⟨last, isLast⟩ : ∃ last, cbtEnd dramCfg = last + 1 := ⟨cbtEnd dramCfg - 1, by omega⟩
  have loop : cbtLoopPackets dramCfg cs vrefSetting 1 =
      (ckPacket (1 + 1) :: (List.Ico 3 last).map (cbtFilled dramCfg cs vrefSetting)) ++
        [cbtFilled dramCfg cs vrefSetting last] := by
    unfold cbtLoopPackets
    rw [cbtTurns_eq supported, isLast, List.Ico.succ_top (by omega), List.map_append]
    rfl
  have lastTs : lastTime 1 (cbtLoopPackets dramCfg cs vrefSetting 1) = BitVec.ofNat 16 last := by
    rw [loop, lastTime_append]
    rfl
  unfold cbtPackets cbtPatternTs cbtHoldTs
  dsimp only
  rw [lastTs, loop, isLast, Nat.add_sub_cancel]
  simp only [List.append_assoc, List.singleton_append]
  rfl

/-- The data last to the end of the loop, beyond the strobe. -/
theorem strobe_le_cbtEnd :
    3 * dramCfg.ratio.cycles + dramCfg.tShTrain.toNat + 2 ≤
        cbtEnd dramCfg * dramCfg.ratio.cycles ∧
      cbtEnd dramCfg * dramCfg.ratio.cycles ≤
        3 * dramCfg.ratio.cycles + cbtLength dramCfg := by
  unfold cbtEnd cbtLength
  rcases supported.cycles_eq with width | width <;> rw [width] <;> omega

theorem time_cbtFilled {time : Nat} (inLoop : time < cbtEnd dramCfg) :
    (cbtFilled dramCfg cs vrefSetting time).time.toNat = time := by
  have := cbtEnd_lt supported
  exact (BitVec.toNat_ofNat _ _).trans (Nat.mod_eq_of_lt (by omega))

/-- The phases of the loop in a window of cycles that it covers. -/
theorem selectPhases_cbtTurns {selected : TxDataPhase → Bool} {first stop : Nat}
    (window : ∀ position, 2 * (3 * dramCfg.ratio.cycles) ≤ position →
      position < 2 * (cbtEnd dramCfg * dramCfg.ratio.cycles) →
      (selected ((cbtFilled dramCfg cs vrefSetting (position / (2 * dramCfg.ratio.cycles))).data
          (position % (2 * dramCfg.ratio.cycles))) = true ↔
        2 * first ≤ position ∧ position < 2 * stop))
    (after : 3 * dramCfg.ratio.cycles ≤ first)
    (before : stop ≤ cbtEnd dramCfg * dramCfg.ratio.cycles) :
    selectPhases dramCfg.ratio selected
        (cbtTurns dramCfg cs vrefSetting 1 (cbtOffset dramCfg 1 (1 + 1) + (1 + 1))) =
      (List.Ico (2 * first) (2 * stop)).map fun position =>
        (position, (cbtFilled dramCfg cs vrefSetting
          (position / (2 * dramCfg.ratio.cycles))).data
            (position % (2 * dramCfg.ratio.cycles))) := by
  have begins : 3 * (2 * dramCfg.ratio.cycles) = 2 * (3 * dramCfg.ratio.cycles) :=
    Nat.mul_left_comm ..
  have ends : cbtEnd dramCfg * (2 * dramCfg.ratio.cycles) =
      2 * (cbtEnd dramCfg * dramCfg.ratio.cycles) := Nat.mul_left_comm ..
  rw [cbtTurns_eq supported]
  apply selectPhases_Ico
    (fun time _ inLoop => time_cbtFilled cs vrefSetting supported inLoop)
    (three_lt_cbtEnd dramCfg).le
  · rw [begins, ends]
    exact window
  · omega
  · omega

/-- The phase of the loop at a position that it covers. -/
theorem data_cbtFilled (position : Nat) (after : 2 * (3 * dramCfg.ratio.cycles) ≤ position)
    (before : position < 2 * (cbtEnd dramCfg * dramCfg.ratio.cycles)) :
    (cbtFilled dramCfg cs vrefSetting (position / (2 * dramCfg.ratio.cycles))).data
        (position % (2 * dramCfg.ratio.cycles)) =
      { DfiTxPacket.zero.data 0 with
        wrdataCs := cs.high.setWidth 2
        dq0Wrdata := vrefSetting
        wrdataEn :=
          if 2 * (3 * dramCfg.ratio.cycles + dramCfg.tShTrain.toNat) ≤ position ∧
            position < 2 * (3 * dramCfg.ratio.cycles + dramCfg.tShTrain.toNat + 2) then 1
          else 0 } := by
  have inData := (strobe_le_cbtEnd supported).2
  have inLoop : 2 * (3 * dramCfg.ratio.cycles) ≤ position ∧
      position < 2 * (3 * dramCfg.ratio.cycles + cbtLength dramCfg) := by
    omega
  unfold cbtFilled
  rw [data_cbtPacketAt]
  dsimp only
  rw [if_pos inLoop]
  split <;> rfl

/-- The setting is on the pins from the third timestamp on, and the strobe comes in time. -/
theorem strobed_cbtPackets :
    phasesWhere dramCfg.ratio (·.wrdataEn = 1)
        (cbtPackets dramCfg cs vrefSetting commandAddress 1) =
      List.Ico (2 * (3 * dramCfg.ratio.cycles + dramCfg.tShTrain.toNat))
        (2 * (3 * dramCfg.ratio.cycles + dramCfg.tShTrain.toNat + 2)) ∧
    (selectPhases dramCfg.ratio (·.driven)
        (cbtPackets dramCfg cs vrefSetting commandAddress 1)).map
        (fun entry => (entry.1, entry.2.wrdataCs, entry.2.dq0Wrdata)) =
      (List.Ico (2 * (3 * dramCfg.ratio.cycles))
        (2 * (cbtEnd dramCfg * dramCfg.ratio.cycles))).map (fun position =>
          (position, cs.high.setWidth 2, vrefSetting)) := by
  have strobe := (strobe_le_cbtEnd supported).1
  have selects : (cs.high.setWidth 2 : BitVec 2) ≠ 0 := by cases cs <;> decide
  constructor
  · have window : ∀ position, 2 * (3 * dramCfg.ratio.cycles) ≤ position →
        position < 2 * (cbtEnd dramCfg * dramCfg.ratio.cycles) →
        (decide (((cbtFilled dramCfg cs vrefSetting (position / (2 * dramCfg.ratio.cycles))).data
            (position % (2 * dramCfg.ratio.cycles))).wrdataEn = 1) = true ↔
          2 * (3 * dramCfg.ratio.cycles + dramCfg.tShTrain.toNat) ≤ position ∧
            position < 2 * (3 * dramCfg.ratio.cycles + dramCfg.tShTrain.toNat + 2)) := by
      intro position after before
      rw [decide_eq_true_eq, data_cbtFilled cs vrefSetting supported _ after before]
      dsimp only
      split <;> simp [*]
    rw [phasesWhere, selectPhases_cbtPackets cs vrefSetting commandAddress (fun _ => rfl),
      BitVec.add_comm 1, selectPhases_cbtTurns cs vrefSetting supported window
        (Nat.le_add_right _ _) strobe, List.map_map]
    exact List.map_id _
  · have window : ∀ position, 2 * (3 * dramCfg.ratio.cycles) ≤ position →
        position < 2 * (cbtEnd dramCfg * dramCfg.ratio.cycles) →
        (((cbtFilled dramCfg cs vrefSetting (position / (2 * dramCfg.ratio.cycles))).data
            (position % (2 * dramCfg.ratio.cycles))).driven = true ↔
          2 * (3 * dramCfg.ratio.cycles) ≤ position ∧
            position < 2 * (cbtEnd dramCfg * dramCfg.ratio.cycles)) := by
      intro position after before
      refine iff_of_true ?_ ⟨after, before⟩
      rw [TxDataPhase.driven, decide_eq_true_eq,
        data_cbtFilled cs vrefSetting supported _ after before]
      exact fun same => selects (congrArg TxDataPhase.wrdataCs same)
    rw [selectPhases_cbtPackets cs vrefSetting commandAddress TxDataPhase.driven_zero,
      BitVec.add_comm 1, selectPhases_cbtTurns cs vrefSetting supported window (Nat.le_refl _)
        (Nat.le_refl _), List.map_map]
    apply List.map_congr_left
    intro position inside
    rw [List.Ico.mem] at inside
    rw [Function.comp_apply, data_cbtFilled cs vrefSetting supported _ inside.1 inside.2]

theorem toNat_cbtHoldTs :
    (cbtHoldTs dramCfg).toNat = cbtEnd dramCfg - 1 +
      ((dramCfg.tShTrain.toNat + dramCfg.phyWrEn.toNat) >>> dramCfg.ratio.shift + 1) % 256 := by
  have small := cbtEnd_lt supported
  unfold cbtHoldTs
  rw [BitVec.toNat_add, BitVec.toNat_setWidth_of_le (by decide), toNat_cbtHoldOffset,
    BitVec.toNat_ofNat]
  omega

theorem toNat_cbtPatternTs (settles : dramCfg.tShTrain.toNat ≤ dramCfg.tVrefCaLong.toNat) :
    (cbtPatternTs dramCfg).toNat = (cbtHoldTs dramCfg).toNat +
      ((dramCfg.tVrefCaLong.toNat - dramCfg.tShTrain.toNat) >>> dramCfg.ratio.shift + 1) %
        256 := by
  have small := cbtEnd_lt supported
  have hold := toNat_cbtHoldTs supported
  unfold cbtPatternTs
  rw [BitVec.toNat_add, BitVec.toNat_setWidth_of_le (by decide),
    toNat_cbtPatternOffset dramCfg settles]
  omega

/-- The last packet of the loop is sent at its timestamp and drives the data pins. -/
theorem drives_cbtFilled :
    ((cbtFilled dramCfg cs vrefSetting (cbtEnd dramCfg - 1)).data 0).driven = true := by
  have after := three_lt_cbtEnd dramCfg
  have positive := dramCfg.ratio.cycles_pos
  have selects : (cs.high.setWidth 2 : BitVec 2) ≠ 0 := by cases cs <;> decide
  obtain ⟨last, isLast⟩ : ∃ last, cbtEnd dramCfg = last + 1 := ⟨cbtEnd dramCfg - 1, by omega⟩
  have begins : 3 * dramCfg.ratio.cycles ≤ last * dramCfg.ratio.cycles :=
    Nat.mul_le_mul_right _ (by omega)
  have position : last * (2 * dramCfg.ratio.cycles) = 2 * (last * dramCfg.ratio.cycles) :=
    Nat.mul_left_comm ..
  have ends : (last + 1) * dramCfg.ratio.cycles =
      last * dramCfg.ratio.cycles + dramCfg.ratio.cycles := Nat.add_one_mul ..
  have data := data_cbtFilled cs vrefSetting supported (last * (2 * dramCfg.ratio.cycles))
    (by omega) (by rw [isLast]; omega)
  rw [Nat.mul_div_cancel _ (by omega), Nat.mul_mod_left] at data
  rw [isLast, Nat.add_sub_cancel, TxDataPhase.driven, decide_eq_true_eq, data]
  exact fun same => selects (congrArg TxDataPhase.wrdataCs same)

/-- What the DRAM sees of the packets is as intended exactly if both waits fit into eight
bits. -/
theorem cbtScheduled_packets_iff
    (settles : dramCfg.tShTrain.toNat ≤ dramCfg.tVrefCaLong.toNat) :
    CbtScheduled dramCfg cs vrefSetting commandAddress
        (cbtPackets dramCfg cs vrefSetting commandAddress 1) ↔
      (dramCfg.tShTrain.toNat + dramCfg.phyWrEn.toNat) >>> dramCfg.ratio.shift + 1 < 256 ∧
        (dramCfg.tVrefCaLong.toNat - dramCfg.tShTrain.toNat) >>> dramCfg.ratio.shift + 1 <
          256 := by
  have after := three_lt_cbtEnd dramCfg
  have holdTs := toNat_cbtHoldTs supported
  have patternTs := toNat_cbtPatternTs supported settles
  have lastTs := time_cbtFilled cs vrefSetting supported
    (Nat.sub_lt (by omega) Nat.one_pos : cbtEnd dramCfg - 1 < cbtEnd dramCfg)
  constructor
  · rintro ⟨-, earlier, lastData, hold, pattern, ending, last, packets, waits⟩
    rw [cbtPackets_eq cs vrefSetting commandAddress supported] at packets
    obtain ⟨-, same⟩ := List.append_inj' packets rfl
    simp only [List.cons.injEq] at same
    obtain ⟨rfl, rfl, rfl, -⟩ := same
    have holds : (cbtHoldTs dramCfg).toNat = _ := waits.holds
    have waited : (cbtPatternTs dramCfg).toNat = (cbtHoldTs dramCfg).toNat + _ := waits.settles
    rw [lastTs] at holds
    omega
  · rintro ⟨holdFits, patternFits⟩
    obtain ⟨strobe, data⟩ := strobed_cbtPackets cs vrefSetting commandAddress supported
    refine ⟨⟨_, _, strobe, data, (strobe_le_cbtEnd supported).1⟩,
      _, _, _, _, _, _, cbtPackets_eq cs vrefSetting commandAddress supported, ?_⟩
    refine ⟨⟨0, by have := dramCfg.ratio.cycles_pos; omega,
      drives_cbtFilled cs vrefSetting supported⟩, fun phase => ⟨TxDataPhase.driven_zero phase,
        (idle_ckPacket _ phase).1⟩, ⟨rfl, rfl, rfl⟩, ?_, ?_⟩
    · rw [lastTs]
      exact holdTs.trans (by rw [Nat.mod_eq_of_lt holdFits])
    · exact patternTs.trans (by rw [Nat.mod_eq_of_lt patternFits]; rfl)

end Packets

/-- Command bus training on an empty buffer whose packets are all allocated is scheduled as
intended exactly if both waits fit into eight bits. -/
theorem cbtScheduled_iff (dramCfg : DramFreqCfg) (supported : dramCfg.ratio.Supported)
    (settles : dramCfg.tShTrain.toNat ≤ dramCfg.tVrefCaLong.toNat) (cs : Chipselect)
    (vrefSetting commandAddress : BitVec 8) {buffer : TxPacketBuffer} (sound : buffer.Sound)
    (fresh : buffer.tsLastPacket = 1)
    (all : AllGranted buffer
      ((SequenceCall.cbt cs vrefSetting commandAddress).packets dramCfg 1)) :
    ∃ after,
      buffer.dramPrepareCbtSequence dramCfg cs vrefSetting commandAddress =
        .ok (.wddrSuccess, after) ∧
      (CbtScheduled dramCfg cs vrefSetting commandAddress
          (after.packets.drop buffer.list.length) ↔
        (dramCfg.tShTrain.toNat + dramCfg.phyWrEn.toNat) >>> dramCfg.ratio.shift + 1 < 256 ∧
          (dramCfg.tVrefCaLong.toNat - dramCfg.tShTrain.toNat) >>> dramCfg.ratio.shift + 1 <
            256) := by
  rw [← fresh] at all
  obtain ⟨after, ran, appends⟩ :=
    (SequenceCall.cbt cs vrefSetting commandAddress).run_of_allGranted dramCfg sound all
  refine ⟨after, ran, ?_⟩
  rw [appends.drop_packets, fresh]
  exact cbtScheduled_packets_iff cs vrefSetting commandAddress supported settles

/-- The shortest waits, from the heap. -/
theorem cbtScheduled_iff_heap :
    ∃ after,
      heapBuffer.dramPrepareCbtSequence (plainCfg .ratio1to2) .cs0 0x12 0x2A =
        .ok (.wddrSuccess, after) ∧
      (CbtScheduled (plainCfg .ratio1to2) .cs0 0x12 0x2A (after.packets.drop 0) ↔
        (1 + 1) >>> 1 + 1 < 256 ∧ (1 - 1) >>> 1 + 1 < 256) :=
  cbtScheduled_iff (plainCfg .ratio1to2) (Or.inr rfl) (Nat.le_refl 1) .cs0 0x12 0x2A
    sound_heapBuffer rfl (allGranted_heapBuffer _)

/-- The timings that are shipped for the last frequency. -/
def settlingCfg : DramFreqCfg :=
  { plainCfg .ratio1to2 with tVrefCaLong := 533, tShTrain := 4, phyWrEn := 6 }

/-- With these timings the CA pattern is sent 256 DFI cycles early. -/
theorem not_cbtScheduled :
    ¬ ∀ (dramCfg : DramFreqCfg) (cs : Chipselect) (vrefSetting commandAddress : BitVec 8)
      (buffer after : TxPacketBuffer),
      dramCfg.ratio.Supported → 1 ≤ dramCfg.tShTrain.toNat →
      dramCfg.tShTrain.toNat ≤ dramCfg.tVrefCaLong.toNat →
      buffer.Sound → buffer.tsLastPacket = 1 →
      AllGranted buffer ((SequenceCall.cbt cs vrefSetting commandAddress).packets dramCfg 1) →
      buffer.dramPrepareCbtSequence dramCfg cs vrefSetting commandAddress =
        .ok (.wddrSuccess, after) →
      CbtScheduled dramCfg cs vrefSetting commandAddress
        (after.packets.drop buffer.list.length) := by
  intro all
  have check : (match heapBuffer.dramPrepareCbtSequence settlingCfg .cs0 0x12 0x2A with
      | .ok (result, after) =>
          decide (result = .wddrSuccess ∧
            (after.packets.map fun packet => packet.time.toNat).reverse.take 4 =
              [25, 23, 22, 13])
      | .error _ => false) = true := by
    decide +kernel
  split at check
  · rename_i result after ran
    obtain ⟨rfl, times⟩ := of_decide_eq_true check
    obtain ⟨-, earlier, lastData, hold, pattern, ending, last, packets, waits⟩ :=
      all _ _ _ _ _ _ (Or.inr rfl) (by decide) (by decide) sound_heapBuffer rfl
        (allGranted_heapBuffer _) ran
    have packets : after.packets = earlier ++ [lastData, hold, pattern, ending, last] := packets
    rw [packets, List.map_append, List.reverse_append] at times
    have patternTs : pattern.time.toNat = 22 :=
      congrArg (fun times => times.getD 2 0) times
    have holdTs : hold.time.toNat = 13 := congrArg (fun times => times.getD 3 0) times
    have waited : pattern.time.toNat = hold.time.toNat + 265 := waits.settles
    omega
  · cases check

end WavLpddr
