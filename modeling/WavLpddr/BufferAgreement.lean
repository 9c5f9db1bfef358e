import WavLpddr.SequenceBuilders

/-!
# The builders do not look at contents

Two buffers agree when one lists what the other lists after some earlier items, with the
same timestamps, and allocations go the same way in both.  Whatever else their packets
hold, a builder returns the same on both and leaves buffers that agree.  So what a builder
returns, how many packets it lists and when they are sent can be told from an empty buffer
over zeroed memory.
-/

namespace WavLpddr

open PacketGroupInfo

namespace TxPacketBuffer

/-- The buffers allocate alike, and the later items of the first have the timestamps of the
items of the second. -/
structure Agree (earlier : List PacketPtr) (buffer mirror : TxPacketBuffer) : Prop where
  tsLastPacket : buffer.tsLastPacket = mirror.tsLastPacket
  storage : buffer.storage = mirror.storage
  attempts : buffer.attempts = mirror.attempts
  heapFails : buffer.heapFails = mirror.heapFails
  list : buffer.list = earlier ++ mirror.list
  times : ∀ item ∈ mirror.list, (buffer.memory item).time = (mirror.memory item).time

/-- The empty buffer over zeroed memory that allocates like a buffer. -/
def mirror (buffer : TxPacketBuffer) : TxPacketBuffer :=
  { buffer with
    list := []
    memory := fun _ => .zero
    heapBlocks := [] }

theorem agree_mirror (buffer : TxPacketBuffer) : Agree buffer.list buffer buffer.mirror :=
  ⟨rfl, rfl, rfl, rfl, (List.append_nil _).symm, fun _ listed => absurd listed List.not_mem_nil⟩

theorem sound_mirror (buffer : TxPacketBuffer) : buffer.mirror.Sound :=
  sound_of_empty rfl fun _ => rfl

/-- Writing packets of one timestamp behind an item keeps the timestamps the same. -/
theorem times_update {memory mirrored : PacketPtr → DfiTxPacket} {items : List PacketPtr}
    (times : ∀ item ∈ items, (memory item).time = (mirrored item).time) (item : PacketPtr)
    {packet other : DfiTxPacket} (sameTime : packet.time = other.time) :
    ∀ listed ∈ item :: items, (Function.update memory item packet listed).time =
      (Function.update mirrored item other listed).time := by
  intro listed isListed
  by_cases same : listed = item
  · rw [same, Function.update_self, Function.update_self, sameTime]
  · rw [Function.update_of_ne same, Function.update_of_ne same]
    exact times listed ((List.mem_cons.mp isListed).resolve_left same)

/-- What a creating function returns on two buffers that agree. -/
structure AgreeCreated (earlier : List PacketPtr)
    (created mirrored : Option PacketPtr × TxPacketBuffer) : Prop where
  item : created.1 = mirrored.1
  buffers : Agree earlier created.2 mirrored.2
  listed : ∀ item, mirrored.1 = some item → item ∈ mirrored.2.list

/-- A loop whose turns keep the agreement keeps it. -/
theorem agree_foldl {Index : Type} {body : TxPacketBuffer → Index → TxPacketBuffer}
    {earlier : List PacketPtr}
    (keeps : ∀ (index : Index) (buffer mirror : TxPacketBuffer), Agree earlier buffer mirror →
      Agree earlier (body buffer index) (body mirror index))
    (indices : List Index) {buffer mirror : TxPacketBuffer} (agree : Agree earlier buffer mirror) :
    Agree earlier (indices.foldl body buffer) (indices.foldl body mirror) := by
  induction indices generalizing buffer mirror with
  | nil => exact agree
  | cons index rest inductionHypothesis =>
      exact inductionHypothesis (keeps index buffer mirror agree)

namespace Agree

variable {earlier : List PacketPtr} {buffer mirror : TxPacketBuffer}
  (agree : Agree earlier buffer mirror)
include agree

theorem pool : buffer.pool = mirror.pool := by
  unfold TxPacketBuffer.pool
  rw [agree.storage]

theorem fails : buffer.fails = mirror.fails := by
  funext further
  unfold TxPacketBuffer.fails
  rw [agree.pool, agree.heapFails, agree.attempts]

/-- Updates that leave the same timestamp keep the agreement. -/
theorem updatePacket (item : PacketPtr) {update mirrored : DfiTxPacket → DfiTxPacket}
    (sameTime : (update (buffer.memory item)).time = (mirrored (mirror.memory item)).time) :
    Agree earlier (buffer.updatePacket item update) (mirror.updatePacket item mirrored) where
  tsLastPacket := agree.tsLastPacket
  storage := agree.storage
  attempts := agree.attempts
  heapFails := agree.heapFails
  list := agree.list
  times other listed :=
    times_update agree.times item sameTime other (List.mem_cons_of_mem item listed)

theorem createPacket :
    buffer.createPacket.1 = mirror.createPacket.1 ∧
      Agree earlier buffer.createPacket.2 mirror.createPacket.2 := by
  unfold TxPacketBuffer.createPacket
  rw [agree.pool, agree.heapFails, agree.attempts]
  cases mirror.pool with
  | some storage =>
      dsimp only
      split
      · exact ⟨rfl, agree.tsLastPacket, rfl, rfl, rfl, agree.list, agree.times⟩
      · exact ⟨rfl, agree.tsLastPacket, agree.storage, rfl, rfl, agree.list, agree.times⟩
  | none =>
      dsimp only
      split
      · exact ⟨rfl, agree.tsLastPacket, agree.storage, rfl, rfl, agree.list, agree.times⟩
      · refine ⟨rfl, agree.tsLastPacket, agree.storage, rfl, rfl, agree.list, ?_⟩
        intro other listed
        exact times_update agree.times (.heap mirror.attempts) rfl other
          (List.mem_cons_of_mem _ listed)

theorem createCkPacketSequence (timeOffset : BitVec 16) :
    AgreeCreated earlier (buffer.createCkPacketSequence timeOffset)
      (mirror.createCkPacketSequence timeOffset) := by
  obtain ⟨item, buffers⟩ := agree.createPacket
  unfold TxPacketBuffer.createCkPacketSequence
  cases created : buffer.createPacket with
  | mk found after =>
      cases mirrored : mirror.createPacket with
      | mk mirrorFound mirrorAfter =>
          rw [created, mirrored] at item buffers
          obtain rfl : found = mirrorFound := item
          cases found with
          | none => exact ⟨rfl, buffers, fun _ isSome => absurd isSome (by simp)⟩
          | some item =>
              have sameTime : timeOffset + after.tsLastPacket =
                  timeOffset + mirrorAfter.tsLastPacket := by
                rw [buffers.tsLastPacket]
              refine ⟨rfl, ⟨sameTime, buffers.storage, buffers.attempts, buffers.heapFails,
                ?_, ?_⟩, ?_⟩
              · change after.list ++ [item] = earlier ++ (mirrorAfter.list ++ [item])
                rw [buffers.list, List.append_assoc]
              · intro other listed
                apply times_update buffers.times item sameTime
                exact List.perm_append_singleton item mirrorAfter.list |>.mem_iff.mp listed
              · intro other isItem
                obtain rfl := Option.some.inj isItem
                exact List.mem_append_right _ (List.mem_singleton_self _)

theorem createCkePacketSequence (timeOffset : BitVec 16) :
    AgreeCreated earlier (buffer.createCkePacketSequence timeOffset)
      (mirror.createCkePacketSequence timeOffset) := by
  have both := agree.createCkPacketSequence timeOffset
  unfold TxPacketBuffer.createCkePacketSequence
  cases created : buffer.createCkPacketSequence timeOffset with
  | mk found after =>
      cases mirrored : mirror.createCkPacketSequence timeOffset with
      | mk mirrorFound mirrorAfter =>
          rw [created, mirrored] at both
          obtain ⟨same, buffers, listed⟩ := both
          obtain rfl : found = mirrorFound := same
          cases found with
          | none => exact ⟨rfl, buffers, listed⟩
          | some item =>
              have sameTime := buffers.times item (listed item rfl)
              have stamped : Agree earlier (after.updatePacket item (·.stampCke))
                  (mirrorAfter.updatePacket item (·.stampCke)) :=
                buffers.updatePacket item sameTime
              exact ⟨rfl, stamped, listed⟩

theorem dramCreateAddressPackets (ratio : WddrFreqRatio) (command : Nat → CommandFrame)
    (remaining phaseOffset : Nat) (timeOffset : BitVec 16) :
    Agree earlier
      (buffer.dramCreateAddressPackets ratio command remaining phaseOffset timeOffset).2
      (mirror.dramCreateAddressPackets ratio command remaining phaseOffset timeOffset).2 := by
  induction remaining generalizing buffer mirror phaseOffset timeOffset with
  | zero => exact agree
  | succ remaining inductionHypothesis =>
      have both := agree.createCkePacketSequence timeOffset
      rw [dramCreateAddressPackets_succ, dramCreateAddressPackets_succ]
      cases created : buffer.createCkePacketSequence timeOffset with
      | mk found after =>
          cases mirrored : mirror.createCkePacketSequence timeOffset with
          | mk mirrorFound mirrorAfter =>
              rw [created, mirrored] at both
              obtain ⟨same, buffers, listed⟩ := both
              obtain rfl : found = mirrorFound := same
              cases found with
              | none => exact buffers
              | some item =>
                  have sameTime := buffers.times item (listed item rfl)
                  apply inductionHypothesis
                  apply buffers.updatePacket item
                  rw [DfiTxPacket.time_fillFrames, DfiTxPacket.time_fillFrames]
                  exact sameTime

theorem dramCreateAddressPacketSequence (ratio : WddrFreqRatio)
    (command : Nat → CommandFrame) (timeOffset : BitVec 16) :
    Agree earlier (buffer.dramCreateAddressPacketSequence ratio command timeOffset).2
      (mirror.dramCreateAddressPacketSequence ratio command timeOffset).2 :=
  agree.dramCreateAddressPackets ratio command _ 0 timeOffset

theorem dramPrepareMrwUpdate (ratio : WddrFreqRatio) (newCfg : DramFreqCfg) :
    Agree earlier (buffer.dramPrepareMrwUpdate ratio newCfg)
      (mirror.dramPrepareMrwUpdate ratio newCfg) := by
  apply agree_foldl
  · intro rank buffer mirror agree
    apply agree_foldl
    · intro update buffer mirror agree
      exact ((agree.dramCreateAddressPacketSequence ratio _ _).createCkePacketSequence 1).buffers
    · exact agree
  · exact (agree.createCkePacketSequence 1).buffers

theorem fillGap (timeOffset : BitVec 16) :
    (buffer.fillGap timeOffset).1 = (mirror.fillGap timeOffset).1 ∧
      Agree earlier (buffer.fillGap timeOffset).2 (mirror.fillGap timeOffset).2 := by
  unfold TxPacketBuffer.fillGap
  split
  · exact ⟨rfl, (agree.createCkePacketSequence 1).buffers⟩
  · exact ⟨rfl, agree⟩

end Agree

section Loop

variable {Groups : Type} {fill : DfiTxPacket → Groups → DfiTxPacket × Groups}
  (keepsTime : ∀ packet groups, (fill packet groups).1.time = packet.time)
  (sameGroups : ∀ (packet other : DfiTxPacket) (groups : Groups), packet.time = other.time →
    (fill packet groups).2 = (fill other groups).2)
  {create : BitVec 16 → TxPacketBuffer → Option PacketPtr × TxPacketBuffer}
  {earlier : List PacketPtr}
  (creates : ∀ (timeOffset : BitVec 16) {buffer mirror : TxPacketBuffer},
    Agree earlier buffer mirror →
      AgreeCreated earlier (create timeOffset buffer) (create timeOffset mirror))
include keepsTime sameGroups creates

/-- A loop whose groups depend only on timestamps goes the same way on both buffers. -/
theorem agree_packetLoop (again : Groups → Bool) (fuel : Nat) (timeOffset : BitVec 16)
    (groups : Groups) {buffer mirror : TxPacketBuffer} (agree : Agree earlier buffer mirror)
    {result : WddrReturn} {final : Groups} {mirrorAfter : TxPacketBuffer}
    (looped : packetLoop create fill again fuel timeOffset groups mirror =
      .ok (result, final, mirrorAfter)) :
    ∃ after, packetLoop create fill again fuel timeOffset groups buffer =
        .ok (result, final, after) ∧ Agree earlier after mirrorAfter := by
  induction fuel generalizing timeOffset groups buffer mirror with
  | zero => cases looped
  | succ fuel inductionHypothesis =>
      have both := creates timeOffset agree
      rw [packetLoop] at looped ⊢
      cases created : create timeOffset buffer with
      | mk found after =>
          cases mirrored : create timeOffset mirror with
          | mk mirrorFound mirrorMiddle =>
              rw [created, mirrored] at both
              rw [mirrored] at looped
              obtain ⟨same, buffers, listed⟩ := both
              obtain rfl : found = mirrorFound := same
              cases found with
              | none =>
                  cases looped
                  exact ⟨after, rfl, buffers⟩
              | some item =>
                  have sameTime := buffers.times item (listed item rfl)
                  dsimp only at looped sameTime ⊢
                  rw [sameGroups _ _ groups sameTime]
                  have filled : Agree earlier
                      (after.updatePacket item fun _ => (fill (after.memory item) groups).1)
                      (mirrorMiddle.updatePacket item fun _ =>
                        (fill (mirrorMiddle.memory item) groups).1) :=
                    buffers.updatePacket item (((keepsTime ..).trans sameTime).trans
                      (keepsTime ..).symm)
                  split at looped
                  · rename_i goesOn
                    rw [if_pos goesOn]
                    exact inductionHypothesis 1 _ filled looped
                  · rename_i stops
                    rw [if_neg stops]
                    cases looped
                    exact ⟨_, rfl, filled⟩

/-- What comes after the loop goes the same way on both buffers, too. -/
theorem agree_ended (again : Groups → Bool) (fuel : Nat) (timeOffset : BitVec 16)
    (groups : Groups) {buffer mirror : TxPacketBuffer} (agree : Agree earlier buffer mirror)
    {ends : WddrReturn × Groups × TxPacketBuffer → WddrReturn × TxPacketBuffer}
    (endsAlike : ∀ (result : WddrReturn) (final : Groups) {buffer mirror : TxPacketBuffer},
      Agree earlier buffer mirror →
        (ends (result, final, buffer)).1 = (ends (result, final, mirror)).1 ∧
          Agree earlier (ends (result, final, buffer)).2 (ends (result, final, mirror)).2)
    {result : WddrReturn} {mirrorAfter : TxPacketBuffer}
    (ran : (packetLoop create fill again fuel timeOffset groups mirror >>=
      fun looped => pure (ends looped)) = .ok (result, mirrorAfter)) :
    ∃ after, (packetLoop create fill again fuel timeOffset groups buffer >>=
        fun looped => pure (ends looped)) = .ok (result, after) ∧
      Agree earlier after mirrorAfter := by
  cases mirrorRan : packetLoop create fill again fuel timeOffset groups mirror with
  | error fault =>
      rw [mirrorRan] at ran
      cases ran
  | ok looped =>
      obtain ⟨loopResult, final, mirrorLooped⟩ := looped
      obtain ⟨bufferLooped, sameLoop, agreeLooped⟩ :=
        agree_packetLoop keepsTime sameGroups creates again fuel timeOffset groups agree
          mirrorRan
      obtain ⟨sameResult, agreeAfter⟩ := endsAlike loopResult final agreeLooped
      rw [mirrorRan] at ran
      have ended := Except.ok.inj ran
      rw [ended] at sameResult agreeAfter
      refine ⟨(ends (loopResult, final, bufferLooped)).2, ?_, agreeAfter⟩
      rw [sameLoop]
      exact congrArg Except.ok (Prod.ext sameResult rfl)

end Loop

theorem Agree.endWithCke {Groups : Type} {earlier : List PacketPtr} (result : WddrReturn)
    (final : Groups) {buffer mirror : TxPacketBuffer} (agree : Agree earlier buffer mirror) :
    (endWithCke (result, final, buffer)).1 = (endWithCke (result, final, mirror)).1 ∧
      Agree earlier (endWithCke (result, final, buffer)).2
        (endWithCke (result, final, mirror)).2 := by
  cases result with
  | wddrSuccess => exact ⟨rfl, (agree.createCkePacketSequence 1).buffers⟩
  | _ => exact ⟨rfl, agree⟩

theorem Agree.endCbt {earlier : List PacketPtr} (dramCfg : DramFreqCfg) (cs : Chipselect)
    (commandAddress : BitVec 8) (result : WddrReturn) (final : CbtGroups)
    {buffer mirror : TxPacketBuffer} (agree : Agree earlier buffer mirror) :
    (TxPacketBuffer.endCbt dramCfg cs commandAddress (result, final, buffer)).1 =
        (TxPacketBuffer.endCbt dramCfg cs commandAddress (result, final, mirror)).1 ∧
      Agree earlier (TxPacketBuffer.endCbt dramCfg cs commandAddress (result, final, buffer)).2
        (TxPacketBuffer.endCbt dramCfg cs commandAddress (result, final, mirror)).2 := by
  cases result with
  | wddrSuccess =>
      have held := (agree.createCkPacketSequence ((cbtHoldOffset dramCfg).setWidth 16)).buffers
      have both := held.createCkPacketSequence ((cbtPatternOffset dramCfg).setWidth 16)
      unfold TxPacketBuffer.endCbt
      dsimp only
      cases created : TxPacketBuffer.createCkPacketSequence ((cbtPatternOffset dramCfg).setWidth 16)
          (buffer.createCkPacketSequence ((cbtHoldOffset dramCfg).setWidth 16)).2 with
      | mk found after =>
          cases mirrored : TxPacketBuffer.createCkPacketSequence
              ((cbtPatternOffset dramCfg).setWidth 16)
              (mirror.createCkPacketSequence ((cbtHoldOffset dramCfg).setWidth 16)).2 with
          | mk mirrorFound mirrorAfter =>
              rw [created, mirrored] at both
              obtain ⟨same, buffers, listed⟩ := both
              obtain rfl : found = mirrorFound := same
              cases found with
              | none => exact ⟨rfl, buffers⟩
              | some item =>
                  have sameTime := buffers.times item (listed item rfl)
                  have sent : Agree earlier
                      (after.updatePacket item (·.fillFrame 0 ⟨cs.high, commandAddress⟩))
                      (mirrorAfter.updatePacket item (·.fillFrame 0 ⟨cs.high, commandAddress⟩)) :=
                    buffers.updatePacket item sameTime
                  have next := (sent.createCkPacketSequence 1).buffers
                  exact ⟨rfl, (next.createCkPacketSequence 2).buffers⟩
  | _ => exact ⟨rfl, agree⟩

/-- The groups that a fill function leaves do not depend on the packet. -/
theorem fillPacket_snd_eq (put : Nat → BitVec 16 → DfiTxPacket → DfiTxPacket)
    (cyclesPerPacket : BitVec 8) (phaseLength : BitVec 16) (packet other : DfiTxPacket)
    (groupInfo : PacketGroupInfo) :
    (fillPacket put cyclesPerPacket phaseLength packet groupInfo).2 =
      (fillPacket put cyclesPerPacket phaseLength other groupInfo).2 := by
  rw [fillPacket_group, fillPacket_group]

theorem fillPacket_when_snd_eq (put : Nat → BitVec 16 → DfiTxPacket → DfiTxPacket)
    (cyclesPerPacket : BitVec 8) (phaseLength : BitVec 16) {packet other : DfiTxPacket}
    (sameTime : packet.time = other.time) (groupInfo : PacketGroupInfo) :
    (if groupInfo.dfiTsStart ≤ packet.time then
      fillPacket put cyclesPerPacket phaseLength packet groupInfo
    else (packet, groupInfo)).2 =
      (if groupInfo.dfiTsStart ≤ other.time then
        fillPacket put cyclesPerPacket phaseLength other groupInfo
      else (other, groupInfo)).2 := by
  rw [sameTime]
  split
  · exact fillPacket_snd_eq ..
  · rfl

theorem fillWrfifo_snd_eq (ratio : WddrFreqRatio) (burstLength : BurstLength) (cs : Chipselect)
    (data : CommandData) (packet other : DfiTxPacket) (groups : WrGroups)
    (sameTime : packet.time = other.time) :
    (fillWrfifo ratio.cyclesPerPacket burstLength cs data packet groups).2 =
      (fillWrfifo ratio.cyclesPerPacket burstLength cs data other groups).2 := by
  have keeps := time_fillPacket_when putWrdataEn (fun _ _ _ => rfl) ratio.cyclesPerPacket 0
  exact Prod.ext
    (fillPacket_when_snd_eq putWrdataEn _ 0 sameTime groups.1)
    (fillPacket_when_snd_eq (putWrdata cs data) _ _
      (((keeps packet groups.1).trans sameTime).trans (keeps other groups.1).symm) groups.2)

theorem fillCbt_snd_eq (ratio : WddrFreqRatio) (cs : Chipselect) (data : CommandData)
    (packet other : DfiTxPacket) (groups : CbtGroups) (sameTime : packet.time = other.time) :
    (fillCbt ratio.cyclesPerPacket cs data packet groups).2 =
      (fillCbt ratio.cyclesPerPacket cs data other groups).2 := by
  have keeps := fun packet => time_fillPacket_when (putWrdata cs data) (fun _ _ _ => rfl)
    ratio.cyclesPerPacket groups.1.phaseRemaining packet groups.1
  exact Prod.ext
    (fillPacket_when_snd_eq (putWrdata cs data) _ _ sameTime groups.1)
    (fillPacket_when_snd_eq putWrdataEn _ 0
      (((keeps packet).trans sameTime).trans (keeps other).symm) groups.2)

section Builders

variable (dramCfg : DramFreqCfg) {earlier : List PacketPtr} {buffer mirror : TxPacketBuffer}
  (agree : Agree earlier buffer mirror) {result : WddrReturn} {mirrorAfter : TxPacketBuffer}
include agree

theorem agree_read (burstLength : BurstLength) (cs : Chipselect) (rddataEnOffset : BitVec 16)
    (command : Nat → CommandFrame)
    (ran : mirror.dramPrepareReadSequence dramCfg burstLength cs rddataEnOffset command =
      .ok (result, mirrorAfter)) :
    ∃ after, buffer.dramPrepareReadSequence dramCfg burstLength cs rddataEnOffset command =
        .ok (result, after) ∧ Agree earlier after mirrorAfter := by
  have commanded := agree.dramCreateAddressPacketSequence dramCfg.ratio command 1
  have delayed := commanded.fillGap
    ((rddataGroup dramCfg mirror.tsLastPacket burstLength rddataEnOffset).dfiTsStart -
      (mirror.dramCreateAddressPacketSequence dramCfg.ratio command 1).2.tsLastPacket)
  have looped := agree_ended
    (fun packet groups => time_fillPacket (putRddata cs) (fun _ _ _ => rfl) _ 0 packet groups)
    (fun packet other groups _ => fillPacket_snd_eq (putRddata cs) _ 0 packet other groups)
    (fun timeOffset _ _ agree => agree.createCkePacketSequence timeOffset)
    _ loopFuel _ _ delayed.2 (fun result final _ _ agree => agree.endWithCke result final) ran
  unfold dramPrepareReadSequence
  dsimp only
  rw [agree.tsLastPacket, commanded.tsLastPacket, delayed.1]
  exact looped

theorem agree_wrfifo (burstLength : BurstLength) (cs : Chipselect) (wrdataEnOffset : BitVec 16)
    (data : CommandData)
    (ran : mirror.dramPrepareWrfifoSequence dramCfg burstLength cs wrdataEnOffset data =
      .ok (result, mirrorAfter)) :
    ∃ after, buffer.dramPrepareWrfifoSequence dramCfg burstLength cs wrdataEnOffset data =
        .ok (result, after) ∧ Agree earlier after mirrorAfter := by
  have commanded := agree.dramCreateAddressPacketSequence dramCfg.ratio
    (createWrfifoCommand cs) 1
  have delayed := commanded.fillGap
    ((((wrfifoGroups dramCfg mirror.tsLastPacket burstLength wrdataEnOffset).1.dfiTsStart -
      (mirror.dramCreateAddressPacketSequence dramCfg.ratio
        (createWrfifoCommand cs) 1).2.tsLastPacket).setWidth 8 : BitVec 8).setWidth 16)
  have looped := agree_ended (time_fillWrfifo dramCfg.ratio burstLength cs data)
    (fillWrfifo_snd_eq dramCfg.ratio burstLength cs data)
    (fun timeOffset _ _ agree => agree.createCkePacketSequence timeOffset)
    _ loopFuel _ _ delayed.2 (fun result final _ _ agree => agree.endWithCke result final) ran
  unfold dramPrepareWrfifoSequence wrfifoLoop
  dsimp only
  rw [agree.tsLastPacket, commanded.tsLastPacket, delayed.1]
  exact looped

theorem agree_wrlvl
    (ran : mirror.dramPrepareWrlvlSequence dramCfg = .ok (result, mirrorAfter)) :
    ∃ after, buffer.dramPrepareWrlvlSequence dramCfg = .ok (result, after) ∧
      Agree earlier after mirrorAfter := by
  have looped := agree_ended
    (fun packet groups => time_fillPacket putWrdataEn (fun _ _ _ => rfl) 4 0 packet groups)
    (fun packet other groups _ => fillPacket_snd_eq putWrdataEn 4 0 packet other groups)
    (fun timeOffset _ _ agree => agree.createCkePacketSequence timeOffset)
    _ loopFuel _ _ agree (fun result final _ _ agree => agree.endWithCke result final) ran
  unfold dramPrepareWrlvlSequence
  dsimp only
  rw [agree.tsLastPacket]
  exact looped

theorem agree_cbt (cs : Chipselect) (vrefSetting commandAddress : BitVec 8)
    (ran : mirror.dramPrepareCbtSequence dramCfg cs vrefSetting commandAddress =
      .ok (result, mirrorAfter)) :
    ∃ after, buffer.dramPrepareCbtSequence dramCfg cs vrefSetting commandAddress =
        .ok (result, after) ∧ Agree earlier after mirrorAfter := by
  have first := (agree.createCkPacketSequence 1).buffers
  have looped := agree_ended
    (time_fillCbt dramCfg.ratio cs (cbtData (dramCfg.ratio.cyclesPerPacket <<< 1) vrefSetting))
    (fillCbt_snd_eq dramCfg.ratio cs
      (cbtData (dramCfg.ratio.cyclesPerPacket <<< 1) vrefSetting))
    (fun timeOffset _ _ agree => agree.createCkPacketSequence timeOffset)
    _ loopFuel _ _ first
    (fun result final _ _ agree => agree.endCbt dramCfg cs commandAddress result final) ran
  unfold dramPrepareCbtSequence
  dsimp only
  rw [agree.tsLastPacket, first.tsLastPacket]
  exact looped

/-- A builder goes the same way on buffers that agree. -/
theorem agree_run (call : SequenceCall)
    (ran : call.run dramCfg mirror = .ok (result, mirrorAfter)) :
    ∃ after, call.run dramCfg buffer = .ok (result, after) ∧ Agree earlier after mirrorAfter := by
  cases call with
  | wrfifo burstLength cs wrdataEnOffset data =>
      exact agree_wrfifo dramCfg agree burstLength cs wrdataEnOffset data ran
  | rddq burstLength cs rddataEnOffset =>
      exact agree_read dramCfg agree burstLength cs rddataEnOffset (createRddqCommand cs) ran
  | rdfifo burstLength cs rddataEnOffset =>
      exact agree_read dramCfg agree burstLength cs rddataEnOffset (createRdfifoCommand cs) ran
  | wrlvl => exact agree_wrlvl dramCfg agree ran
  | cbt cs vrefSetting commandAddress =>
      exact agree_cbt dramCfg agree cs vrefSetting commandAddress ran

end Builders

end TxPacketBuffer

end WavLpddr
