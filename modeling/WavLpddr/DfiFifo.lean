import WavLpddr.DfiBuffer

/-!
# What filling the FIFO leaves

After the clear pulse the FIFO is empty, and filling it pushes the packets that
fit.  Of the register block only the data register and the two handshake bits of
the top register depend on how often this was done before.
-/

namespace WavLpddr

open RegisterFile BitFields

/-- The bits that hand words and packets to the FIFO. -/
def handshakeBits : Word := ddrDfichTop1CfgWdataEnable.mask ||| ddrDfichTop1CfgWdataUpdate.mask

/-- Equal up to the handshake bits. -/
abbrev SameHandshake (first second : Word) : Prop := Field.SameUpTo handshakeBits first second

variable [KernelIo]

theorem SameHandshake.update {first second : Word} (same : SameHandshake first second)
    (field : RegField) (value : Word) :
    SameHandshake (updateRegField first field value) (updateRegField second field value) := by
  rw [updateRegField_eq, updateRegField_eq]
  exact Field.SameUpTo.insert same field value

theorem SameHandshake.getRegField_eq {first second : Word} (same : SameHandshake first second)
    (field : RegField) (disjoint : field.mask &&& handshakeBits = 0) :
    getRegField first field = getRegField second field := by
  rw [KernelIo.getRegField_eq, KernelIo.getRegField_eq]
  exact Field.SameUpTo.extract_eq same field disjoint

section Toggle

/-- One of the two handshake fields. -/
def IsHandshake (field : RegField) : Prop :=
  field = ddrDfichTop1CfgWdataEnable ∨ field = ddrDfichTop1CfgWdataUpdate

/-- A field of one bit. -/
def SingleBit (field : RegField) : Prop :=
  ∃ bit < 32, field = ⟨BitVec.twoPow 32 bit, bit⟩

omit [KernelIo] in
theorem IsHandshake.singleBit {field : RegField} (isHandshake : IsHandshake field) :
    SingleBit field := by
  rcases isHandshake with rfl | rfl
  · exact ⟨6, by decide, by decide⟩
  · exact ⟨7, by decide, by decide⟩

/-- Invert a single-bit field. -/
def toggle (field : RegField) (word : Word) : Word :=
  updateRegField word field (getRegField word field ^^^ 1)

section SingleBit

variable {field : RegField} (single : SingleBit field) (word : Word)
include single

omit [KernelIo] in
/-- A single bit fits into the field. -/
theorem SingleBit.cut_eq {value : Word} (isBit : value = 0 ∨ value = 1) :
    field.cut value = value := by
  obtain ⟨bit, inWord, rfl⟩ := single
  have lowest : ∀ bit < 32, BitVec.twoPow 32 bit >>> bit = 1 := by decide
  rcases isBit with rfl | rfl
  · exact Field.cut_zero _
  · change (BitVec.twoPow 32 bit &&& BitVec.twoPow 32 bit) >>> bit = 1
    rw [BitVec.and_self, lowest bit inWord]

theorem getRegField_singleBit : getRegField word field = 0 ∨ getRegField word field = 1 := by
  obtain ⟨bit, inWord, rfl⟩ := single
  have lowest : ∀ bit < 32, BitVec.twoPow 32 bit >>> bit = 1 := by decide
  rw [getRegField_eq]
  exact Field.extract_of_single _ bit rfl (lowest bit inWord) word

theorem getRegField_toggle :
    getRegField (toggle field word) field = getRegField word field ^^^ 1 := by
  refine (getRegField_updateRegField_cut _ _ _).trans (single.cut_eq ?_)
  rcases getRegField_singleBit single word with zero | one
  · rw [zero]
    exact Or.inr rfl
  · rw [one]
    exact Or.inl rfl

theorem toggled_toggle :
    (getRegField word field != getRegField (toggle field word) field) = true := by
  rw [getRegField_toggle single]
  rcases getRegField_singleBit single word with zero | one
  · rw [zero]
    decide
  · rw [one]
    decide

end SingleBit

variable {field : RegField} (isHandshake : IsHandshake field) (word : Word)
include isHandshake

theorem sameHandshake_toggle : SameHandshake word (toggle field word) := by
  rw [toggle, updateRegField_eq]
  apply Field.SameUpTo.insert_self
  rcases isHandshake with rfl | rfl <;> decide

end Toggle

namespace DfiChannel

omit [KernelIo] in
theorem igData_ne_top1 : dfichIgData ≠ dfichTop1 := by decide

/-- No clear pulse is under way. -/
def Idle (channel : DfiChannel) : Prop :=
  getRegField (channel.regs dfichTop1) ddrDfichTop1CfgWdataClr = 0

/-- The registers after words went through the data register. -/
structure RegsAfter (before after : DfiChannel) (words : List Word) : Prop where
  top1 : SameHandshake (before.regs dfichTop1) (after.regs dfichTop1)
  igData : after.regs dfichIgData = words.getLast?.getD (before.regs dfichIgData)
  others : ∀ key, key ≠ dfichTop1 → key ≠ dfichIgData → after.regs key = before.regs key

namespace RegsAfter

variable {before middle after : DfiChannel} {words more : List Word}

omit [KernelIo] in
theorem refl (channel : DfiChannel) : RegsAfter channel channel [] :=
  ⟨Field.SameUpTo.refl _ _, rfl, fun _ _ _ => rfl⟩

omit [KernelIo] in
theorem trans (first : RegsAfter before middle words) (second : RegsAfter middle after more) :
    RegsAfter before after (words ++ more) where
  top1 := first.top1.trans second.top1
  igData := by
    rw [second.igData, first.igData, List.getLast?_append]
    cases more.getLast? <;> rfl
  others key notTop1 notIgData :=
    (second.others key notTop1 notIgData).trans (first.others key notTop1 notIgData)

theorem idle (same : RegsAfter before after words) (isIdle : before.Idle) : after.Idle := by
  unfold Idle
  rw [← same.top1.getRegField_eq _ (by decide)]
  exact isIdle

end RegsAfter

variable {channel : DfiChannel}

/-- Toggling the enable bit loads the word in the data register. -/
theorem writeTop1_toggle_enable (isIdle : channel.Idle) :
    channel.writeTop1 (toggle ddrDfichTop1CfgWdataEnable (channel.regs dfichTop1)) =
      { regs := write dfichTop1
          (toggle ddrDfichTop1CfgWdataEnable (channel.regs dfichTop1)) channel.regs
        loaded := channel.loaded ++ [channel.regs dfichIgData]
        ingress := channel.ingress } := by
  have same := sameHandshake_toggle (.inl rfl) (channel.regs dfichTop1)
  have toggled := toggled_toggle (IsHandshake.singleBit (.inl rfl)) (channel.regs dfichTop1)
  have update : getRegField (toggle ddrDfichTop1CfgWdataEnable (channel.regs dfichTop1))
      ddrDfichTop1CfgWdataUpdate =
        getRegField (channel.regs dfichTop1) ddrDfichTop1CfgWdataUpdate :=
    getRegField_updateRegField_of_disjoint _ _ _ _ (by decide)
  have notCleared := (same.getRegField_eq ddrDfichTop1CfgWdataClr (by decide)).symm.trans isIdle
  simp [writeTop1, toggled, update, notCleared]

/-- Toggling the update bit pushes the words loaded so far. -/
theorem writeTop1_toggle_update (isIdle : channel.Idle) :
    channel.writeTop1 (toggle ddrDfichTop1CfgWdataUpdate (channel.regs dfichTop1)) =
      { regs := write dfichTop1
          (toggle ddrDfichTop1CfgWdataUpdate (channel.regs dfichTop1)) channel.regs
        loaded := []
        ingress := channel.ingress ++ [channel.loaded] } := by
  have same := sameHandshake_toggle (.inr rfl) (channel.regs dfichTop1)
  have toggled := toggled_toggle (IsHandshake.singleBit (.inr rfl)) (channel.regs dfichTop1)
  have enable : getRegField (toggle ddrDfichTop1CfgWdataUpdate (channel.regs dfichTop1))
      ddrDfichTop1CfgWdataEnable =
        getRegField (channel.regs dfichTop1) ddrDfichTop1CfgWdataEnable :=
    getRegField_updateRegField_of_disjoint _ _ _ _ (by decide)
  have notCleared := (same.getRegField_eq ddrDfichTop1CfgWdataClr (by decide)).symm.trans isIdle
  simp [writeTop1, toggled, enable, notCleared]

/-- The channel with a word in its data register. -/
def hold (word : Word) (channel : DfiChannel) : DfiChannel :=
  { channel with regs := write dfichIgData word channel.regs }

omit [KernelIo] in
theorem hold_top1 (word : Word) (channel : DfiChannel) :
    (channel.hold word).regs dfichTop1 = channel.regs dfichTop1 := by
  simp [hold, igData_ne_top1.symm]

/-- Load a word: put it into the data register and toggle the enable bit. -/
def load (channel : DfiChannel) (word : Word) : DfiChannel :=
  let channel := channel.hold word
  channel.writeTop1 (toggle ddrDfichTop1CfgWdataEnable (channel.regs dfichTop1))

/-- Push what is loaded: toggle the update bit. -/
def push (channel : DfiChannel) : DfiChannel :=
  channel.writeTop1 (toggle ddrDfichTop1CfgWdataUpdate (channel.regs dfichTop1))

/-- A packet's words in the order in which they are loaded. -/
def loadOrder (packet : DfiTxPacket) : List Word := packet.rawData.reverse

/-- Load the words of a packet, then push it. -/
def loadAndPush (channel : DfiChannel) (packet : DfiTxPacket) : DfiChannel :=
  ((loadOrder packet).foldl load channel).push

omit [KernelIo] in
theorem loadOrder_ne_nil (packet : DfiTxPacket) : loadOrder packet ≠ [] := by
  simp [loadOrder, DfiTxPacket.rawData, DfiTxPacket.sizeWords]

theorem writeTop1_top1 (value : Word) (channel : DfiChannel) :
    (channel.writeTop1 value).regs dfichTop1 = value := by
  simp [writeTop1]

theorem loadWord_eq (word : Word) (channel : DfiChannel) :
    loadWord (channel.regs dfichTop1, channel) word =
      ((channel.load word).regs dfichTop1, channel.load word) := by
  rw [load, hold_top1, writeTop1_top1]
  rfl

/-- The cached copy of the top register is what the register holds, so each turn of the load
loop is a load. -/
theorem foldl_loadWord_eq (words : List Word) (channel : DfiChannel) :
    words.foldl loadWord (channel.regs dfichTop1, channel) =
      ((words.foldl load channel).regs dfichTop1, words.foldl load channel) := by
  induction words generalizing channel with
  | nil => rfl
  | cons word rest inductionHypothesis =>
      rw [List.foldl_cons, loadWord_eq, inductionHypothesis, List.foldl_cons]

theorem load_spec (isIdle : channel.Idle) (word : Word) :
    RegsAfter channel (channel.load word) [word] ∧
      (channel.load word).loaded = channel.loaded ++ [word] ∧
      (channel.load word).ingress = channel.ingress := by
  have stillIdle : (channel.hold word).Idle := by
    unfold Idle
    rw [hold_top1]
    exact isIdle
  have written := writeTop1_toggle_enable stillIdle
  have same := sameHandshake_toggle (.inl rfl) (channel.regs dfichTop1)
  rw [load, written]
  refine ⟨?_, ?_, rfl⟩
  · constructor
    · simpa only [write_self, hold_top1] using same
    · simp [hold]
    · intro key notTop1 notIgData
      simp [hold, notTop1, notIgData]
  · simp [hold]

theorem foldl_load_spec (words : List Word) (isIdle : channel.Idle) :
    RegsAfter channel (words.foldl load channel) words ∧
      (words.foldl load channel).loaded = channel.loaded ++ words ∧
      (words.foldl load channel).ingress = channel.ingress := by
  induction words generalizing channel with
  | nil => exact ⟨.refl channel, by simp, rfl⟩
  | cons word rest inductionHypothesis =>
      obtain ⟨sameFirst, loadedFirst, ingressFirst⟩ := load_spec isIdle word
      obtain ⟨sameLater, loadedLater, ingressLater⟩ :=
        inductionHypothesis (sameFirst.idle isIdle)
      rw [List.foldl_cons]
      refine ⟨sameFirst.trans sameLater, ?_, ?_⟩
      · rw [loadedLater, loadedFirst, List.append_assoc, List.singleton_append]
      · rw [ingressLater, ingressFirst]

theorem loadAndPush_spec (isIdle : channel.Idle) (nothingLoaded : channel.loaded = [])
    (packet : DfiTxPacket) :
    RegsAfter channel (channel.loadAndPush packet) (loadOrder packet) ∧
      (channel.loadAndPush packet).loaded = [] ∧
      (channel.loadAndPush packet).ingress = channel.ingress ++ [loadOrder packet] := by
  obtain ⟨sameFull, loadedFull, ingressFull⟩ := foldl_load_spec (loadOrder packet) isIdle
  have pushed := writeTop1_toggle_update (sameFull.idle isIdle)
  have same := sameHandshake_toggle (.inr rfl)
    (((loadOrder packet).foldl load channel).regs dfichTop1)
  rw [loadAndPush, push, pushed]
  refine ⟨?_, rfl, ?_⟩
  · constructor
    · simpa only [write_self] using sameFull.top1.trans same
    · simpa only [write_of_ne igData_ne_top1] using sameFull.igData
    · intro key notTop1 notIgData
      simpa only [write_of_ne notTop1] using sameFull.others key notTop1 notIgData
  · simp only [ingressFull, loadedFull, nothingLoaded, List.nil_append]

/-- Packets that are pushed one after the other. -/
theorem foldl_loadAndPush_spec (packets : List DfiTxPacket) (isIdle : channel.Idle)
    (nothingLoaded : channel.loaded = []) :
    RegsAfter channel (packets.foldl loadAndPush channel) (packets.map loadOrder).flatten ∧
      (packets.foldl loadAndPush channel).loaded = [] ∧
      (packets.foldl loadAndPush channel).ingress =
        channel.ingress ++ packets.map loadOrder := by
  induction packets generalizing channel with
  | nil => exact ⟨.refl channel, nothingLoaded, by simp⟩
  | cons packet rest inductionHypothesis =>
      obtain ⟨sameFirst, loadedFirst, ingressFirst⟩ :=
        loadAndPush_spec isIdle nothingLoaded packet
      obtain ⟨sameLater, loadedLater, ingressLater⟩ :=
        inductionHypothesis (sameFirst.idle isIdle) loadedFirst
      rw [List.foldl_cons]
      refine ⟨sameFirst.trans sameLater, loadedLater, ?_⟩
      rw [ingressLater, ingressFirst, List.append_assoc]
      rfl

variable [Device]

/-- A packet that fits is loaded and pushed; otherwise nothing is written. -/
theorem dfiFifoWriteIgRegIf_eq (packet : DfiTxPacket) (channel : DfiChannel) :
    channel.dfiFifoWriteIgRegIf packet.rawData =
      if channel.ingress.length = Device.ingressFifoDepth then (.dfiErrorFifoFull, channel)
      else (.dfiSuccess, channel.loadAndPush packet) := by
  unfold dfiFifoWriteIgRegIf
  rw [foldl_loadWord_eq]
  rfl

/-- The loop loads and pushes the packets that fit, one after the other, and its result tells
whether they all did. -/
theorem dfiBufferWriteLoop_eq (packets : List DfiTxPacket) (isIdle : channel.Idle)
    (nothingLoaded : channel.loaded = [])
    (bounded : channel.ingress.length ≤ Device.ingressFifoDepth) :
    let room := Device.ingressFifoDepth - channel.ingress.length
    dfiBufferWriteLoop packets channel =
      (if packets.length ≤ room then .dfiSuccess else .dfiErrorFifoFull,
        (packets.take room).foldl loadAndPush channel) := by
  induction packets generalizing channel with
  | nil => simp [dfiBufferWriteLoop]
  | cons packet rest inductionHypothesis =>
      by_cases full : channel.ingress.length = Device.ingressFifoDepth
      · simp [dfiBufferWriteLoop, dfiFifoWriteIgRegIf_eq, full]
      · obtain ⟨same, loaded, ingress⟩ := loadAndPush_spec isIdle nothingLoaded packet
        have longer : (channel.loadAndPush packet).ingress.length =
            channel.ingress.length + 1 := by
          simp [ingress]
        have room : Device.ingressFifoDepth - channel.ingress.length =
            Device.ingressFifoDepth - (channel.loadAndPush packet).ingress.length + 1 := by
          omega
        dsimp only
        rw [dfiBufferWriteLoop, dfiFifoWriteIgRegIf_eq, if_neg full]
        dsimp only
        rw [inductionHypothesis (same.idle isIdle) loaded (by omega), room]
        simp only [List.length_cons, Nat.add_le_add_iff_right, List.take_succ_cons,
          List.foldl_cons]

end DfiChannel

section ClearPulse

/-- The top register while the clear pulse is on. -/
def pulseTop1 (word : Word) : Word :=
  let regVal := updateRegField word ddrDfichTop1CfgBufClkEn 1
  let regVal := updateRegField regVal ddrDfichTop1CfgTsReset 1
  let regVal := updateRegField regVal ddrDfichTop1CfgRdataClr 1
  updateRegField regVal ddrDfichTop1CfgWdataClr 1

/-- The top register after the clear pulse. -/
def armTop1 (word : Word) : Word :=
  let regVal := updateRegField (pulseTop1 word) ddrDfichTop1CfgTsReset 0
  let regVal := updateRegField regVal ddrDfichTop1CfgRdataClr 0
  updateRegField regVal ddrDfichTop1CfgWdataClr 0

theorem armTop1_armTop1 (word : Word) : armTop1 (armTop1 word) = armTop1 word := by
  have overwrites : WordOverwrites fun (_ : Unit) (word : Word) => armTop1 word := by
    repeat refine wordOverwrites_updateRegField ?_ _ _
    exact .id
  exact overwrites.absorbs () () word

theorem SameHandshake.armTop1 {first second : Word} (same : SameHandshake first second) :
    SameHandshake (armTop1 first) (armTop1 second) := by
  unfold WavLpddr.armTop1 pulseTop1
  repeat refine SameHandshake.update ?_ _ _
  exact same

theorem getRegField_armTop1_clr (word : Word) :
    getRegField (armTop1 word) ddrDfichTop1CfgWdataClr = 0 :=
  getRegField_updateRegField _ _ _ (by decide)

theorem getRegField_armTop1_handshake {field : RegField} (isHandshake : IsHandshake field)
    (word : Word) : getRegField (armTop1 word) field = getRegField (pulseTop1 word) field := by
  have disjoint : ∀ other ∈ [ddrDfichTop1CfgTsReset, ddrDfichTop1CfgRdataClr,
      ddrDfichTop1CfgWdataClr], field.mask &&& other.mask = 0 := by
    rcases isHandshake with rfl | rfl <;> decide
  unfold armTop1
  rw [getRegField_updateRegField_of_disjoint _ _ _ _ (disjoint _ (by simp)),
    getRegField_updateRegField_of_disjoint _ _ _ _ (disjoint _ (by simp)),
    getRegField_updateRegField_of_disjoint _ _ _ _ (disjoint _ (by simp))]

namespace DfiChannel

theorem dfiFifoEnableClockRegIf_eq (channel : DfiChannel) :
    channel.dfiFifoEnableClockRegIf =
      { regs := write dfichTop1 (armTop1 (channel.regs dfichTop1)) channel.regs
        loaded := []
        ingress := [] } := by
  have cleared : getRegField (pulseTop1 (channel.regs dfichTop1)) ddrDfichTop1CfgWdataClr = 1 :=
    getRegField_updateRegField _ _ _ (by decide)
  have enable := getRegField_armTop1_handshake (.inl rfl) (channel.regs dfichTop1)
  have update := getRegField_armTop1_handshake (.inr rfl) (channel.regs dfichTop1)
  have twice : channel.dfiFifoEnableClockRegIf =
      (channel.writeTop1 (pulseTop1 (channel.regs dfichTop1))).writeTop1
        (armTop1 (channel.regs dfichTop1)) := rfl
  have first : channel.writeTop1 (pulseTop1 (channel.regs dfichTop1)) =
      { regs := write dfichTop1 (pulseTop1 (channel.regs dfichTop1)) channel.regs
        loaded := []
        ingress := [] } := by
    simp [writeTop1, cleared]
  rw [twice, first]
  simp [writeTop1, enable, update, write]

end DfiChannel

end ClearPulse

section Fill

namespace DfiChannel

/-- Two channels that differ in the handshake bits only. -/
structure SameChannel (first second : DfiChannel) : Prop where
  ingress : first.ingress = second.ingress
  loaded : first.loaded = second.loaded
  top1 : SameHandshake (first.regs dfichTop1) (second.regs dfichTop1)
  others : ∀ key, key ≠ dfichTop1 → first.regs key = second.regs key

omit [KernelIo] in
theorem SameChannel.refl (channel : DfiChannel) : SameChannel channel channel :=
  ⟨rfl, rfl, Field.SameUpTo.refl _ _, fun _ _ => rfl⟩

variable [Device]

/-- What filling the FIFO leaves, from the registers before. -/
structure Filled (packets : List DfiTxPacket) (regs : DfichRegs) (after : DfiChannel) :
    Prop where
  ingress : after.ingress = (packets.take Device.ingressFifoDepth).map loadOrder
  loaded : after.loaded = []
  top1 : SameHandshake (armTop1 (regs dfichTop1)) (after.regs dfichTop1)
  igData : after.regs dfichIgData =
    ((packets.take Device.ingressFifoDepth).map loadOrder).flatten.getLast?.getD
      (regs dfichIgData)
  others : ∀ key, key ≠ dfichTop1 → key ≠ dfichIgData → after.regs key = regs key

/-- Filling clears the FIFO and runs the loop. -/
theorem dfiBufferFillPackets_eq {packets : List DfiTxPacket} (nonempty : packets ≠ [])
    (channel : DfiChannel) :
    channel.dfiBufferFillPackets packets =
      dfiBufferWriteLoop packets channel.dfiFifoEnableClockRegIf := by
  have notEmpty : packets.isEmpty = false := by simpa using nonempty
  simp [dfiBufferFillPackets, dfiBufferEnable, dfiBufferWritePackets, notEmpty]

omit [Device] in
theorem idle_dfiFifoEnableClockRegIf (channel : DfiChannel) :
    channel.dfiFifoEnableClockRegIf.Idle := by
  unfold Idle
  rw [dfiFifoEnableClockRegIf_eq]
  simpa only [write_self] using getRegField_armTop1_clr (channel.regs dfichTop1)

/-- The result of filling, and the channel that it leaves. -/
theorem dfiBufferFillPackets_loaded {packets : List DfiTxPacket} (nonempty : packets ≠ [])
    (channel : DfiChannel) :
    channel.dfiBufferFillPackets packets =
      (if packets.length ≤ Device.ingressFifoDepth then .dfiSuccess else .dfiErrorFifoFull,
        (packets.take Device.ingressFifoDepth).foldl loadAndPush
          channel.dfiFifoEnableClockRegIf) := by
  have armed := dfiFifoEnableClockRegIf_eq channel
  have empty : channel.dfiFifoEnableClockRegIf.ingress = [] := by rw [armed]
  have loop := dfiBufferWriteLoop_eq packets (idle_dfiFifoEnableClockRegIf channel)
    (by rw [armed]) (by simp [empty])
  rwa [empty, List.length_nil, Nat.sub_zero, ← dfiBufferFillPackets_eq nonempty channel] at loop

/-- Filling the FIFO leaves the packets that fit, whatever it held. -/
theorem dfiBufferFillPackets_filled {packets : List DfiTxPacket} (nonempty : packets ≠ [])
    (channel : DfiChannel) :
    Filled packets channel.regs (channel.dfiBufferFillPackets packets).2 := by
  have armed := dfiFifoEnableClockRegIf_eq channel
  have empty : channel.dfiFifoEnableClockRegIf.ingress = [] := by rw [armed]
  obtain ⟨same, loaded, ingress⟩ :=
    foldl_loadAndPush_spec (packets.take Device.ingressFifoDepth)
      (idle_dfiFifoEnableClockRegIf channel) (by rw [armed])
  rw [dfiBufferFillPackets_loaded nonempty]
  constructor
  · rw [ingress, empty, List.nil_append]
  · exact loaded
  · simpa only [armed, write_self] using same.top1
  · simpa only [armed, write_of_ne igData_ne_top1] using same.igData
  · intro key notTop1 notIgData
    simpa only [armed, write_of_ne notTop1] using same.others key notTop1 notIgData

/-- The DFI part of preparing a switch. -/
def prepare (msr : WddrMsr) (cfg : DfiFreqCfg) (packets : List DfiTxPacket)
    (channel : DfiChannel) : DfiChannel :=
  ({ channel with regs := dfiFreqSwitchPrep msr cfg channel.regs } : DfiChannel)
    |>.dfiBufferFillPackets packets |>.2

theorem prepare_filled (msr : WddrMsr) (cfg : DfiFreqCfg) {packets : List DfiTxPacket}
    (nonempty : packets ≠ []) (channel : DfiChannel) :
    Filled packets (dfiFreqSwitchPrep msr cfg channel.regs)
      (channel.prepare msr cfg packets) :=
  dfiBufferFillPackets_filled nonempty
    { channel with regs := dfiFreqSwitchPrep msr cfg channel.regs }

omit [KernelIo] [Device] in
theorem top1_not_mem_bank (msr : WddrMsr) : dfichTop1 ∉ bankOf dfichNames msr := by
  intro inBank
  exact absurd inBank.1 (by decide)

omit [KernelIo] [Device] in
theorem igData_not_mem_bank (msr : WddrMsr) : dfichIgData ∉ bankOf dfichNames msr := by
  intro inBank
  exact absurd inBank.1 (by decide)

omit [KernelIo] [Device] in
/-- Of non-empty packet lists either none pushes a word or each does. -/
theorem getLast?_pushed_or (first last : List DfiTxPacket) (nonempty : last ≠ []) (depth : Nat)
    (word : Word) :
    ((last.take depth).map loadOrder).flatten.getLast?.getD
        (((first.take depth).map loadOrder).flatten.getLast?.getD word) =
      ((last.take depth).map loadOrder).flatten.getLast?.getD word := by
  cases depth with
  | zero => simp
  | succ depth =>
      cases last with
      | nil => exact absurd rfl nonempty
      | cons packet rest =>
          have someWord : (((packet :: rest).take (depth + 1)).map loadOrder).flatten ≠ [] := by
            have loads := loadOrder_ne_nil packet
            simp [loads]
          rw [List.getLast?_eq_some_getLast someWord]
          rfl

/-- The later preparation absorbs an earlier one, up to the handshake bits. -/
theorem prepare_absorbs (msr : WddrMsr) (firstCfg lastCfg : DfiFreqCfg)
    {firstPackets lastPackets : List DfiTxPacket} (firstNonempty : firstPackets ≠ [])
    (lastNonempty : lastPackets ≠ []) (channel : DfiChannel) :
    SameChannel
      ((channel.prepare msr firstCfg firstPackets).prepare msr lastCfg lastPackets)
      (channel.prepare msr lastCfg lastPackets) := by
  have bank := Rewrites.of_overwrites (dfiFreqSwitchPrep_overwrites msr)
  have first := prepare_filled msr firstCfg firstNonempty channel
  have both := prepare_filled msr lastCfg lastNonempty (channel.prepare msr firstCfg firstPackets)
  have alone := prepare_filled msr lastCfg lastNonempty channel
  have top1Kept := fun cfg regs => bank.outside cfg regs dfichTop1 (top1_not_mem_bank msr)
  have igDataKept := fun cfg regs => bank.outside cfg regs dfichIgData (igData_not_mem_bank msr)
  have firstTop1 := first.top1
  have bothTop1 := both.top1
  have aloneTop1 := alone.top1
  rw [top1Kept] at firstTop1 bothTop1 aloneTop1
  constructor
  · exact both.ingress.trans alone.ingress.symm
  · exact both.loaded.trans alone.loaded.symm
  · have twice := firstTop1.armTop1
    rw [armTop1_armTop1] at twice
    exact bothTop1.symm.trans (twice.symm.trans aloneTop1)
  · intro key notTop1
    by_cases isIgData : key = dfichIgData
    · subst isIgData
      have firstIgData := first.igData
      have bothIgData := both.igData
      have aloneIgData := alone.igData
      rw [igDataKept] at firstIgData bothIgData aloneIgData
      refine bothIgData.trans (Eq.trans ?_ aloneIgData.symm)
      rw [firstIgData]
      exact getLast?_pushed_or firstPackets lastPackets lastNonempty _ _
    · have bothKept := both.others key notTop1 isIgData
      have aloneKept := alone.others key notTop1 isIgData
      refine bothKept.trans (Eq.trans ?_ aloneKept.symm)
      by_cases inBank : key ∈ bankOf dfichNames msr
      · have sameBank : Set.EqOn (channel.prepare msr firstCfg firstPackets).regs
            (dfiFreqSwitchPrep msr firstCfg channel.regs) (bankOf dfichNames msr) := by
          intro member inside
          apply first.others member
          · exact fun same => top1_not_mem_bank msr (same ▸ inside)
          · exact fun same => igData_not_mem_bank msr (same ▸ inside)
        calc dfiFreqSwitchPrep msr lastCfg (channel.prepare msr firstCfg firstPackets).regs key
            = dfiFreqSwitchPrep msr lastCfg (dfiFreqSwitchPrep msr firstCfg channel.regs) key :=
              bank.within lastCfg _ _ sameBank inBank
          _ = dfiFreqSwitchPrep msr lastCfg channel.regs key := by rw [bank.absorbs]
      · have firstKept := first.others key notTop1 isIgData
        have untouched := fun cfg regs => bank.outside cfg regs key inBank
        rw [untouched, untouched, firstKept, untouched]

end DfiChannel

end Fill

end WavLpddr
