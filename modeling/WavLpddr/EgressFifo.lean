import WavLpddr.DfiFifo
import WavLpddr.Lib.Loops
import WavLpddr.RxPacket

/-!
# Reading packets back

Received packets wait in the egress FIFO.  A toggle of the update bit pops the oldest one, and
each toggle of the enable bit moves on to its next word.  Packets are read into a buffer of 32
entries, in a loop that reads before it compares its counter with the number asked for.
-/

namespace WavLpddr

open RegisterFile BitFields

/-- `PACKET_BUFFER_DEPTH` -/
def packetBufferDepth : Nat := 32

/-- `DFI_FIFO_DEPTH` -/
def dfiFifoDepth : BitVec 8 := 64

/-- The DFI channel block as reading sees it. -/
structure EgressChannel [KernelIo] where
  regs : DfichRegs
  /-- Packets in the egress FIFO, oldest first. -/
  egress : List DfiRxPacket
  /-- The packet popped last. -/
  popped : DfiRxPacket
  /-- Which of its words is in the data register. -/
  position : Nat
  /-- As long as the clear bit is set the FIFO is empty. -/
  cleared : getRegField (regs dfichTop1) ddrDfichTop1CfgRdataClr ≠ 0 → egress = []

namespace EgressChannel

variable [KernelIo]

/-- A write of the top register and the hardware's reaction to it. -/
def writeTop1 (value : Word) (channel : EgressChannel) : EgressChannel :=
  let old := channel.regs dfichTop1
  let toggled (field : RegField) : Bool := getRegField old field != getRegField value field
  let updated := toggled ddrDfichTop1CfgRdataUpdate
  let advanced := toggled ddrDfichTop1CfgRdataEnable
  { regs := write dfichTop1 value channel.regs
    egress :=
      if getRegField value ddrDfichTop1CfgRdataClr ≠ 0 then []
      else if updated then channel.egress.tail else channel.egress
    popped := if updated then channel.egress.headD channel.popped else channel.popped
    position := if updated then 0 else if advanced then channel.position + 1 else channel.position
    cleared := by
      rw [write_self]
      exact fun set => if_pos set }

/-- `DDR_DFICH_EG_DATA_STA` -/
def egDataSta (channel : EgressChannel) : Word := channel.popped channel.position

/-- A turn of the read loop of `dfi_fifo_read_eg_reg_if`. -/
def readWord (state : Word × DfiRxPacket × EgressChannel) (ii : Nat) :
    Word × DfiRxPacket × EgressChannel :=
  let data := Function.update state.2.1 ii state.2.2.egDataSta
  let enBit := getRegField state.1 ddrDfichTop1CfgRdataEnable ^^^ 1
  let regVal := updateRegField state.1 ddrDfichTop1CfgRdataEnable enBit
  (regVal, data, state.2.2.writeTop1 regVal)

/-- Pop a packet and store its words in the order in which they come. -/
def dfiFifoReadEgRegIf (data : DfiRxPacket) (channel : EgressChannel) :
    DfiReturn × DfiRxPacket × EgressChannel :=
  if channel.egress.isEmpty then (.dfiErrorFifoEmpty, data, channel)
  else
    let regVal := channel.regs dfichTop1
    let updBit := getRegField regVal ddrDfichTop1CfgRdataUpdate ^^^ 1
    let regVal := updateRegField regVal ddrDfichTop1CfgRdataUpdate updBit
    let channel := channel.writeTop1 regVal
    (.dfiSuccess, ((List.range DfiRxPacket.sizeWords).foldl readWord (regVal, data, channel)).2)

/-- The state of the loop of `dfi_buffer_read_packets`.  The buffer is seen as memory from its
start on: only the first 32 entries belong to it. -/
structure ReadState where
  nn : BitVec 8
  rxBuffer : Nat → DfiRxPacket
  /-- The entries stored to, in order. -/
  stored : List Nat
  channel : EgressChannel

/-- A turn of the loop of `dfi_buffer_read_packets`. -/
def readPacketsTurn (numPackets : BitVec 8) (state : ReadState) :
    ReadState ⊕ (DfiReturn × ReadState) :=
  let (ret, packet, channel) :=
    state.channel.dfiFifoReadEgRegIf (state.rxBuffer state.nn.toNat)
  let next : ReadState :=
    { nn := state.nn + 1
      rxBuffer := Function.update state.rxBuffer state.nn.toNat packet
      stored := if ret = .dfiSuccess then state.stored ++ [state.nn.toNat] else state.stored
      channel := channel }
  if next.nn < numPackets ∧ ret = .dfiSuccess then .inl next else .inr (ret, next)

/-- `dfi_buffer_read_packets`, if its loop ends while its counter takes each value once. -/
def dfiBufferReadPackets (rxBuffer : Nat → DfiRxPacket) (numPackets : BitVec 8)
    (channel : EgressChannel) : Option (DfiReturn × ReadState) :=
  let state : ReadState := ⟨0, rxBuffer, [], channel⟩
  if dfiFifoDepth < numPackets then some (.dfiError, state)
  else Loops.iterate (readPacketsTurn numPackets) 256 state

theorem writeTop1_top1 (value : Word) (channel : EgressChannel) :
    (channel.writeTop1 value).regs dfichTop1 = value := by
  simp [writeTop1]

omit [KernelIo] in
theorem rdataEnable_singleBit : SingleBit ddrDfichTop1CfgRdataEnable := ⟨9, by decide, by decide⟩

omit [KernelIo] in
theorem rdataUpdate_singleBit : SingleBit ddrDfichTop1CfgRdataUpdate := ⟨10, by decide, by decide⟩

/-- Toggling another field leaves a field as it is. -/
theorem getRegField_toggle_of_disjoint (word : Word) {target other : RegField}
    (disjoint : target.mask &&& other.mask = 0) :
    getRegField (toggle other word) target = getRegField word target :=
  getRegField_updateRegField_of_disjoint _ _ _ _ disjoint

/-- Toggling the enable bit moves on to the next word. -/
theorem writeTop1_toggle_enable (channel : EgressChannel) :
    let after := channel.writeTop1
      (toggle ddrDfichTop1CfgRdataEnable (channel.regs dfichTop1))
    after.egress = channel.egress ∧ after.popped = channel.popped ∧
      after.position = channel.position + 1 := by
  have advanced := toggled_toggle rdataEnable_singleBit (channel.regs dfichTop1)
  have clr := getRegField_toggle_of_disjoint (channel.regs dfichTop1)
    (by decide : ddrDfichTop1CfgRdataClr.mask &&& ddrDfichTop1CfgRdataEnable.mask = 0)
  have update := getRegField_toggle_of_disjoint (channel.regs dfichTop1)
    (by decide : ddrDfichTop1CfgRdataUpdate.mask &&& ddrDfichTop1CfgRdataEnable.mask = 0)
  refine ⟨?_, ?_, ?_⟩
  · simp only [writeTop1, clr, update, bne_self_eq_false, Bool.false_eq_true, if_false]
    split
    · rename_i set
      exact (channel.cleared set).symm
    · rfl
  · simp [writeTop1, update]
  · simp [writeTop1, update, advanced]

/-- Toggling the update bit pops the oldest packet. -/
theorem writeTop1_toggle_update {channel : EgressChannel} {packet : DfiRxPacket}
    {rest : List DfiRxPacket} (waiting : channel.egress = packet :: rest) :
    let after := channel.writeTop1
      (toggle ddrDfichTop1CfgRdataUpdate (channel.regs dfichTop1))
    after.egress = rest ∧ after.popped = packet ∧ after.position = 0 := by
  have updated := toggled_toggle rdataUpdate_singleBit (channel.regs dfichTop1)
  have clr := getRegField_toggle_of_disjoint (channel.regs dfichTop1)
    (by decide : ddrDfichTop1CfgRdataClr.mask &&& ddrDfichTop1CfgRdataUpdate.mask = 0)
  have notSet : ¬ getRegField (channel.regs dfichTop1) ddrDfichTop1CfgRdataClr ≠ 0 := by
    intro set
    rw [channel.cleared set] at waiting
    cases waiting
  refine ⟨?_, ?_, ?_⟩
  · simp only [writeTop1, clr, updated, if_neg notSet, waiting, if_true, List.tail_cons]
  · simp [writeTop1, updated, waiting]
  · simp [writeTop1, updated]

/-- The words of the popped packet are stored one after the other. -/
theorem foldl_readWord {channel : EgressChannel} (first : channel.position = 0)
    (data : DfiRxPacket) (count : Nat) :
    ∃ after, (List.range count).foldl readWord (channel.regs dfichTop1, data, channel) =
        (after.regs dfichTop1,
          (fun word => if word < count then channel.popped word else data word), after) ∧
      after.egress = channel.egress ∧ after.popped = channel.popped ∧
      after.position = count := by
  induction count with
  | zero => exact ⟨channel, by simp, rfl, rfl, first⟩
  | succ count inductionHypothesis =>
      obtain ⟨middle, read, sameEgress, samePopped, position⟩ := inductionHypothesis
      obtain ⟨nextEgress, nextPopped, nextPosition⟩ := writeTop1_toggle_enable middle
      refine ⟨middle.writeTop1 (toggle ddrDfichTop1CfgRdataEnable (middle.regs dfichTop1)), ?_,
        nextEgress.trans sameEgress, nextPopped.trans samePopped, ?_⟩
      · rw [List.range_succ, List.foldl_append, read, List.foldl_cons, List.foldl_nil,
          writeTop1_top1]
        unfold readWord
        refine congrArg₂ Prod.mk rfl (congrArg₂ Prod.mk ?_ rfl)
        funext word
        dsimp only
        rcases Nat.lt_trichotomy word count with less | rfl | greater
        · rw [Function.update_of_ne less.ne, if_pos less, if_pos (by omega)]
        · rw [Function.update_self, if_pos (Nat.lt_succ_self _), egDataSta, samePopped, position]
        · rw [Function.update_of_ne greater.ne', if_neg (by omega), if_neg (by omega)]
      · rw [nextPosition, position]

/-- The words of a packet over what an entry held. -/
def storedPacket (packet data : DfiRxPacket) : DfiRxPacket := fun word =>
  if word < DfiRxPacket.sizeWords then packet word else data word

theorem dfiFifoReadEgRegIf_cons {channel : EgressChannel} {packet : DfiRxPacket}
    {rest : List DfiRxPacket} (waiting : channel.egress = packet :: rest) (data : DfiRxPacket) :
    ∃ after, channel.dfiFifoReadEgRegIf data = (.dfiSuccess, storedPacket packet data, after) ∧
      after.egress = rest := by
  obtain ⟨egress, popped, position⟩ := writeTop1_toggle_update waiting
  obtain ⟨after, read, sameEgress, samePopped, _⟩ :=
    foldl_readWord position data DfiRxPacket.sizeWords
  rw [writeTop1_top1] at read
  refine ⟨after, ?_, sameEgress.trans egress⟩
  have notEmpty : ¬ channel.egress.isEmpty = true := by simp [waiting]
  unfold dfiFifoReadEgRegIf
  rw [if_neg notEmpty]
  refine congrArg (Prod.mk _) ?_
  refine (congrArg Prod.snd read).trans ?_
  rw [popped]
  rfl

theorem dfiFifoReadEgRegIf_nil {channel : EgressChannel} (empty : channel.egress = [])
    (data : DfiRxPacket) :
    channel.dfiFifoReadEgRegIf data = (.dfiErrorFifoEmpty, data, channel) := by
  unfold dfiFifoReadEgRegIf
  rw [empty, List.isEmpty_nil, if_pos rfl]

/-- What reading a number of packets leaves. -/
structure HasRead (before : EgressChannel) (rxBuffer : Nat → DfiRxPacket) (count : Nat)
    (after : ReadState) : Prop where
  available : count ≤ before.egress.length
  stored : after.stored = List.range count
  egress : after.channel.egress = before.egress.drop count
  entries : ∀ entry packet, entry < count → before.egress[entry]? = some packet →
    after.rxBuffer entry = storedPacket packet (rxBuffer entry)
  kept : ∀ entry, count ≤ entry → after.rxBuffer entry = rxBuffer entry

section Loop

variable (numPackets : BitVec 8) {before : EgressChannel} {rxBuffer : Nat → DfiRxPacket}
  {state : ReadState}

/-- A turn at an empty FIFO leaves the loop. -/
theorem readPacketsTurn_empty (read : HasRead before rxBuffer state.nn.toNat state)
    (empty : state.channel.egress = []) :
    ∃ after, readPacketsTurn numPackets state = .inr (.dfiErrorFifoEmpty, after) ∧
      HasRead before rxBuffer state.nn.toNat after ∧
      before.egress.length = state.nn.toNat := by
  have refused := dfiFifoReadEgRegIf_nil empty (state.rxBuffer state.nn.toNat)
  have all : before.egress.length ≤ state.nn.toNat := by
    rw [read.egress] at empty
    exact List.drop_eq_nil_iff.mp empty
  refine ⟨⟨state.nn + 1, state.rxBuffer, state.stored, state.channel⟩, ?_, ?_,
    all.antisymm read.available⟩
  · simp [readPacketsTurn, refused]
  · exact ⟨read.available, read.stored, read.egress, read.entries, read.kept⟩

/-- A turn at a waiting packet stores it, and the loop goes on if more are asked for. -/
theorem readPacketsTurn_waiting (read : HasRead before rxBuffer state.nn.toNat state)
    (small : state.nn.toNat < 255) (waiting : state.channel.egress ≠ []) :
    ∃ next, next.nn.toNat = state.nn.toNat + 1 ∧
      HasRead before rxBuffer next.nn.toNat next ∧
      readPacketsTurn numPackets state =
        if next.nn < numPackets then .inl next else .inr (.dfiSuccess, next) := by
  obtain ⟨packet, rest, isCons⟩ := List.exists_cons_of_ne_nil waiting
  obtain ⟨channel, popped, egress⟩ :=
    dfiFifoReadEgRegIf_cons isCons (state.rxBuffer state.nn.toNat)
  have advanced : (state.nn + 1).toNat = state.nn.toNat + 1 := by
    bv_omega
  have dropped : before.egress.drop state.nn.toNat = packet :: rest := read.egress.symm.trans isCons
  have oldest : before.egress[state.nn.toNat]? = some packet := by
    rw [← List.head?_drop, dropped, List.head?_cons]
  have inFifo : state.nn.toNat < before.egress.length :=
    (List.getElem?_eq_some_iff.mp oldest).1
  refine ⟨{ nn := state.nn + 1
            rxBuffer := Function.update state.rxBuffer state.nn.toNat
              (storedPacket packet (state.rxBuffer state.nn.toNat))
            stored := state.stored ++ [state.nn.toNat]
            channel := channel }, advanced, ?_, ?_⟩
  · rw [advanced]
    constructor
    · exact inFifo
    · rw [List.range_succ, ← read.stored]
    · rw [egress, ← List.tail_drop, dropped, List.tail_cons]
    · intro entry stored earlier isPacket
      dsimp only
      rcases Nat.lt_succ_iff_lt_or_eq.mp earlier with less | rfl
      · rw [Function.update_of_ne less.ne]
        exact read.entries entry stored less isPacket
      · obtain rfl : packet = stored := Option.some.inj (oldest.symm.trans isPacket)
        rw [Function.update_self, read.kept _ (Nat.le_refl _)]
    · intro entry later
      dsimp only
      rw [Function.update_of_ne (Nat.lt_of_succ_le later).ne']
      exact read.kept entry (Nat.le_of_succ_le later)
  · simp [readPacketsTurn, popped]

variable (before rxBuffer) {numPackets} in
/-- The loop ends: it reads at least one packet, if there is one, and as many as are asked for
and available. -/
theorem iterate_readPacketsTurn (few : numPackets.toNat ≤ 64) :
    ∃ result, Loops.iterate (readPacketsTurn numPackets) 256 ⟨0, rxBuffer, [], before⟩ =
        some result ∧
      HasRead before rxBuffer (min (max 1 numPackets.toNat) before.egress.length) result.2 ∧
      result.1 = if max 1 numPackets.toNat ≤ before.egress.length then .dfiSuccess
        else .dfiErrorFifoEmpty := by
  refine Loops.iterate_of_measure
    (fun state : ReadState => HasRead before rxBuffer state.nn.toNat state ∧
      state.nn.toNat < max 1 numPackets.toNat)
    (fun result : DfiReturn × ReadState =>
      HasRead before rxBuffer (min (max 1 numPackets.toNat) before.egress.length) result.2 ∧
        result.1 = if max 1 numPackets.toNat ≤ before.egress.length then .dfiSuccess
          else .dfiErrorFifoEmpty)
    (fun state => 64 - state.nn.toNat) ?_ ?_
    (Nat.lt_of_le_of_lt (Nat.sub_le _ _) (by decide))
  · rintro state ⟨read, asked⟩
    by_cases empty : state.channel.egress = []
    · obtain ⟨after, left, hasRead, all⟩ := readPacketsTurn_empty numPackets read empty
      refine Or.inr ⟨_, left, ?_, ?_⟩
      · rwa [Nat.min_eq_right (by omega), all]
      · exact (if_neg (by omega)).symm
    · obtain ⟨next, advanced, hasRead, turn⟩ :=
        readPacketsTurn_waiting numPackets read (by omega) empty
      by_cases more : next.nn < numPackets
      · have less : next.nn.toNat < numPackets.toNat := more
        rw [if_pos more] at turn
        exact Or.inl ⟨next, turn, ⟨hasRead, by omega⟩, by omega⟩
      · have last : ¬ next.nn.toNat < numPackets.toNat := more
        have inFifo := hasRead.available
        rw [if_neg more] at turn
        refine Or.inr ⟨_, turn, ?_, ?_⟩
        · rwa [Nat.min_eq_left (by omega), (by omega : max 1 numPackets.toNat = next.nn.toNat)]
        · exact (if_pos (by omega)).symm
  · refine ⟨⟨Nat.zero_le _, rfl, rfl, ?_, fun _ _ => rfl⟩,
      Nat.lt_of_lt_of_le Nat.zero_lt_one (Nat.le_max_left _ _)⟩
    intro entry packet before
    exact absurd before (Nat.not_lt_zero _)

end Loop

/-- The packets asked for are read back, within the buffer, or an error is returned. -/
structure ReadsBack (numPackets : BitVec 8) (before : EgressChannel)
    (result : DfiReturn × ReadState) : Prop where
  inBounds : ∀ entry ∈ result.2.stored, entry < numPackets.toNat ∧ entry < packetBufferDepth
  success : result.1 = .dfiSuccess ↔
    numPackets.toNat ≤ packetBufferDepth ∧ numPackets.toNat ≤ before.egress.length
  popped : result.1 = .dfiSuccess →
    result.2.channel.egress = before.egress.drop numPackets.toNat
  inOrder : result.1 = .dfiSuccess → ∀ entry packet, entry < numPackets.toNat →
    before.egress[entry]? = some packet →
      ∀ word < DfiRxPacket.sizeWords, result.2.rxBuffer entry word = packet word

/-- At least one packet is asked for, and the FIFO cannot overrun the buffer: the number fits
into it, is refused, or is not available beyond the end of the buffer. -/
def ReadFits (numPackets : BitVec 8) (channel : EgressChannel) : Prop :=
  numPackets ≠ 0 ∧ (numPackets.toNat ≤ packetBufferDepth ∨
    dfiFifoDepth.toNat < numPackets.toNat ∨ channel.egress.length ≤ packetBufferDepth)

section Run

variable (rxBuffer : Nat → DfiRxPacket) (numPackets : BitVec 8) (before : EgressChannel)

/-- The run for a number that the depth of the FIFO admits. -/
theorem readsBack_iff_of_le (few : numPackets.toNat ≤ 64) {result : DfiReturn × ReadState}
    (hasRead : HasRead before rxBuffer (min (max 1 numPackets.toNat) before.egress.length)
      result.2)
    (ret : result.1 = if max 1 numPackets.toNat ≤ before.egress.length then .dfiSuccess
      else .dfiErrorFifoEmpty) :
    ReadsBack numPackets before result ↔ ReadFits numPackets before := by
  have succeeded : result.1 = .dfiSuccess ↔ max 1 numPackets.toNat ≤ before.egress.length := by
    rw [ret]
    split <;> simp [*]
  have isZero : numPackets = 0 ↔ numPackets.toNat = 0 := by
    rw [← BitVec.toNat_inj]
    exact Iff.rfl
  have admitted : ¬ dfiFifoDepth.toNat < numPackets.toNat := Nat.not_lt.mpr few
  have depth : packetBufferDepth = 32 := rfl
  unfold ReadFits
  rw [Ne, isZero, depth]
  constructor
  · intro reads
    have success := succeeded.symm.trans reads.success
    have stored : ∀ entry < min (max 1 numPackets.toNat) before.egress.length,
        entry < numPackets.toNat ∧ entry < packetBufferDepth := by
      intro entry read
      apply reads.inBounds
      rw [hasRead.stored]
      exact List.mem_range.mpr read
    constructor
    · intro zero
      rw [zero] at success stored
      -- with nothing asked for, the first turn reads a packet, or fails where there is none
      have waiting : 1 ≤ before.egress.length := success.mpr ⟨by decide, Nat.zero_le _⟩
      exact absurd (stored 0 (by omega)).1 (Nat.not_lt_zero 0)
    · by_contra overrun
      exact absurd (stored 32 (by omega)).2 (Nat.lt_irrefl 32)
  · rintro ⟨positive, fits⟩
    have one : max 1 numPackets.toNat = numPackets.toNat := by omega
    rw [one] at succeeded hasRead
    constructor
    · intro entry stored
      rw [hasRead.stored, List.mem_range] at stored
      omega
    · rw [succeeded]
      omega
    · intro success
      rw [hasRead.egress, Nat.min_eq_left (succeeded.mp success)]
    · intro success entry packet asked isPacket word inPacket
      rw [hasRead.entries entry packet (by have := succeeded.mp success; omega) isPacket]
      exact if_pos inPacket

/-- Whatever is asked for and whatever the FIFO holds, the call ends, stores nowhere else than it
says, and reads back the packets asked for exactly if they fit. -/
theorem dfiBufferReadPackets_readsBack_iff :
    ∃ result, dfiBufferReadPackets rxBuffer numPackets before = some result ∧
      (∀ entry, entry ∉ result.2.stored → result.2.rxBuffer entry = rxBuffer entry) ∧
      (ReadsBack numPackets before result ↔ ReadFits numPackets before) := by
  unfold dfiBufferReadPackets
  by_cases tooMany : dfiFifoDepth < numPackets
  · have beyond : dfiFifoDepth.toNat < numPackets.toNat := tooMany
    have depth : dfiFifoDepth.toNat = 64 := rfl
    have buffer : packetBufferDepth = 32 := rfl
    refine ⟨_, if_pos tooMany, fun _ _ => rfl, iff_of_true ⟨?_, ?_, ?_, ?_⟩ ⟨?_, ?_⟩⟩
    · exact fun entry stored => absurd stored List.not_mem_nil
    · exact iff_of_false (by simp) (by omega)
    · simp
    · simp
    · rintro rfl
      exact absurd beyond (by decide)
    · exact Or.inr (Or.inl beyond)
  · have few : numPackets.toNat ≤ 64 := Nat.not_lt.mp tooMany
    obtain ⟨result, ran, hasRead, ret⟩ :=
      iterate_readPacketsTurn before rxBuffer few
    refine ⟨result, (if_neg tooMany).trans ran, ?_,
      readsBack_iff_of_le rxBuffer numPackets before few hasRead ret⟩
    intro entry notStored
    rw [hasRead.stored, List.mem_range] at notStored
    exact hasRead.kept entry (Nat.not_lt.mp notStored)

end Run

omit [KernelIo] in
/-- With 33 packets waiting, 33 are stored into a buffer of 32. -/
theorem not_readsBack :
    let := referencePlatform.toKernelIo
    ¬ ∀ (rxBuffer : Nat → DfiRxPacket) (numPackets : BitVec 8) (before : EgressChannel)
      (result : DfiReturn × ReadState),
      dfiBufferReadPackets rxBuffer numPackets before = some result →
        ReadsBack numPackets before result := by
  intro _ all
  let waiting : EgressChannel :=
    ⟨fun _ => 0, List.replicate 33 fun _ => 0, fun _ => 0, 0, fun set => absurd rfl set⟩
  have few : (33 : BitVec 8).toNat ≤ 64 := by decide
  obtain ⟨result, ran, hasRead, ret⟩ := iterate_readPacketsTurn waiting (fun _ _ => 0) few
  have reads := all (fun _ _ => 0) 33 waiting result ran
  have fits := (readsBack_iff_of_le (fun _ _ => 0) 33 waiting few hasRead ret).mp reads
  exact absurd fits.2 (by decide)

end EgressChannel

end WavLpddr
