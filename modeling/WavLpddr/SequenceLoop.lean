import Mathlib.Data.List.Intervals
import WavLpddr.DramSequence
import WavLpddr.PacketLog

/-!
# Command frames and loops of the builders

A builder asks for packets in turn and stops at the first allocation that fails.
The packets it would list without a failure are computed apart from any buffer; what
it lists is the part of them up to the failure.
-/

namespace WavLpddr

open Attempts

namespace TxPacketBuffer

/-- The packets were asked for in turn up to the first failure. -/
def Attempted (before after : TxPacketBuffer) (packets : List DfiTxPacket) : Prop :=
  Appends before after (asked before.fails packets.length)
    (packets.take (granted before.fails packets.length))

/-- Every one of the packets was allocated. -/
def AllGranted (buffer : TxPacketBuffer) (packets : List DfiTxPacket) : Prop :=
  granted buffer.fails packets.length = packets.length

theorem allGranted_nil (buffer : TxPacketBuffer) : AllGranted buffer [] := rfl

theorem Attempted.nil {buffer : TxPacketBuffer} (sound : buffer.Sound) :
    Attempted buffer buffer [] :=
  Appends.refl sound

section First

variable {before middle after : TxPacketBuffer} {packet : DfiTxPacket}
  {rest : List DfiTxPacket}

theorem not_allGranted_of_failed (failed : before.fails 0 = true) :
    ¬ AllGranted before (packet :: rest) := by
  rw [AllGranted, List.length_cons, granted, if_pos failed]
  exact (Nat.succ_ne_zero _).symm

/-- The first packet is refused. -/
theorem Attempted.stop (failed : before.fails 0 = true)
    (appended : Appends before after 1 []) : Attempted before after (packet :: rest) := by
  rw [Attempted, List.length_cons, granted, asked, if_pos failed, if_pos failed]
  exact appended

variable (succeeds : before.fails 0 = false) (appended : Appends before middle 1 [packet])
include succeeds appended

theorem allGranted_cons_iff : AllGranted before (packet :: rest) ↔ AllGranted middle rest := by
  have later : (fun attempt => before.fails (attempt + 1)) = middle.fails := by
    funext attempt
    rw [appended.fails, Nat.add_comm]
  rw [AllGranted, AllGranted, List.length_cons, granted, if_neg (by simp [succeeds]), later,
    Nat.add_right_cancel_iff]

/-- The first packet is listed, and the others are asked for after it. -/
theorem Attempted.cons (attempted : Attempted middle after rest) :
    Attempted before after (packet :: rest) := by
  have later : (fun attempt => before.fails (attempt + 1)) = middle.fails := by
    funext attempt
    rw [appended.fails, Nat.add_comm]
  have notFailed : ¬ before.fails 0 = true := by simp [succeeds]
  rw [Attempted, List.length_cons, granted, asked, if_neg notFailed, if_neg notFailed, later,
    List.take_succ_cons, Nat.add_comm]
  exact appended.trans attempted

end First

theorem Attempted.appends_of_granted {before after : TxPacketBuffer}
    {packets : List DfiTxPacket} (attempted : Attempted before after packets)
    (all : AllGranted before packets) : Appends before after packets.length packets := by
  rw [Attempted, asked_of_granted all, all, List.take_length] at attempted
  exact attempted

/-- Creating a single packet is an attempt at one packet. -/
theorem Creates.attempted {create : BitVec 16 → TxPacketBuffer →
      Option PacketPtr × TxPacketBuffer} {fresh : BitVec 16 → DfiTxPacket}
    (creates : Creates create fresh) (timeOffset : BitVec 16) {buffer : TxPacketBuffer}
    (sound : buffer.Sound) :
    Attempted buffer (create timeOffset buffer).2
      [fresh (timeOffset + buffer.tsLastPacket)] := by
  rcases creates timeOffset buffer sound with
    ⟨failed, after, refused, appended⟩ | ⟨succeeds, item, after, listed, created⟩
  · rw [refused]
    exact Attempted.stop failed appended
  · rw [listed]
    exact Attempted.cons succeeds created.appends (Attempted.nil created.appends.sound)

end TxPacketBuffer

section AddressPackets

/-- How many command frames go into one packet. -/
def framesPerPacket (ratio : WddrFreqRatio) : Nat :=
  if ratio = .ratio1to2 then 2 else 1

/-- Put the command frames from one of them on into a packet. -/
def DfiTxPacket.fillFrames (ratio : WddrFreqRatio) (command : Nat → CommandFrame)
    (phaseOffset : Nat) (packet : DfiTxPacket) : DfiTxPacket :=
  if ratio = .ratio1to2 then
    (packet.fillFrame 0 (command phaseOffset)).fillFrame 2 (command (phaseOffset + 1))
  else packet.fillFrame 0 (command phaseOffset)

@[simp]
theorem DfiTxPacket.time_fillFrames (ratio : WddrFreqRatio) (command : Nat → CommandFrame)
    (phaseOffset : Nat) (packet : DfiTxPacket) :
    (packet.fillFrames ratio command phaseOffset).time = packet.time := by
  unfold DfiTxPacket.fillFrames
  split <;> rfl

def addressPacket (ratio : WddrFreqRatio) (command : Nat → CommandFrame) (phaseOffset : Nat)
    (time : BitVec 16) : DfiTxPacket :=
  (ckePacket time).fillFrames ratio command phaseOffset

/-- The packets of a command. -/
def addressPackets (ratio : WddrFreqRatio) (command : Nat → CommandFrame) :
    Nat → Nat → BitVec 16 → List DfiTxPacket
  | 0, _, _ => []
  | remaining + 1, phaseOffset, time =>
      addressPacket ratio command phaseOffset time ::
        addressPackets ratio command remaining (phaseOffset + framesPerPacket ratio) (time + 1)

@[simp]
theorem time_addressPacket (ratio : WddrFreqRatio) (command : Nat → CommandFrame)
    (phaseOffset : Nat) (time : BitVec 16) :
    (addressPacket ratio command phaseOffset time).time = time :=
  DfiTxPacket.time_fillFrames ..

@[simp]
theorem length_addressPackets (ratio : WddrFreqRatio) (command : Nat → CommandFrame)
    (remaining phaseOffset : Nat) (time : BitVec 16) :
    (addressPackets ratio command remaining phaseOffset time).length = remaining := by
  induction remaining generalizing phaseOffset time with
  | zero => rfl
  | succ remaining inductionHypothesis =>
      rw [addressPackets, List.length_cons, inductionHypothesis]

namespace TxPacketBuffer

theorem dramCreateAddressPackets_succ (ratio : WddrFreqRatio) (command : Nat → CommandFrame)
    (remaining phaseOffset : Nat) (timeOffset : BitVec 16) (buffer : TxPacketBuffer) :
    dramCreateAddressPackets ratio command (remaining + 1) phaseOffset timeOffset buffer =
      match buffer.createCkePacketSequence timeOffset with
      | (none, after) => (.wddrError, after)
      | (some item, after) =>
          dramCreateAddressPackets ratio command remaining
            (phaseOffset + framesPerPacket ratio) 1
            (after.updatePacket item (·.fillFrames ratio command phaseOffset)) := by
  rw [dramCreateAddressPackets]
  cases buffer.createCkePacketSequence timeOffset with
  | mk created after =>
      cases created with
      | none => rfl
      | some item =>
          by_cases half : ratio = .ratio1to2
          · simp only [framesPerPacket, DfiTxPacket.fillFrames, if_pos half,
              updatePacket_updatePacket]
          · simp only [framesPerPacket, DfiTxPacket.fillFrames, if_neg half]

/-- The frames of a command are sent in turn up to the first failure. -/
theorem attempted_dramCreateAddressPackets (ratio : WddrFreqRatio)
    (command : Nat → CommandFrame) (remaining phaseOffset : Nat) (timeOffset : BitVec 16)
    {buffer : TxPacketBuffer} (sound : buffer.Sound) :
    Attempted buffer
      (dramCreateAddressPackets ratio command remaining phaseOffset timeOffset buffer).2
      (addressPackets ratio command remaining phaseOffset
        (timeOffset + buffer.tsLastPacket)) := by
  induction remaining generalizing phaseOffset timeOffset buffer with
  | zero => exact Attempted.nil sound
  | succ remaining inductionHypothesis =>
      rw [dramCreateAddressPackets_succ, addressPackets]
      rcases creates_createCkePacketSequence timeOffset buffer sound with
        ⟨failed, after, refused, appended⟩ | ⟨succeeds, item, after, listed, created⟩
      · rw [refused]
        exact Attempted.stop failed appended
      · rw [listed]
        have filled := created.filled
          (addressPacket ratio command phaseOffset (timeOffset + buffer.tsLastPacket))
          (time_addressPacket ..)
        have same : after.updatePacket item (·.fillFrames ratio command phaseOffset) =
            after.updatePacket item fun _ =>
              addressPacket ratio command phaseOffset (timeOffset + buffer.tsLastPacket) := by
          simp only [updatePacket, created.contents, addressPacket]
        have next : (1 : BitVec 16) + (after.updatePacket item fun _ =>
            addressPacket ratio command phaseOffset
              (timeOffset + buffer.tsLastPacket)).tsLastPacket =
            timeOffset + buffer.tsLastPacket + 1 := by
          rw [filled.tsLastPacket, lastTime_cons, lastTime_nil, time_addressPacket,
            BitVec.add_comm]
        dsimp only
        rw [same]
        have later := inductionHypothesis (phaseOffset + framesPerPacket ratio) 1 filled.sound
        rw [next] at later
        exact Attempted.cons succeeds filled later

end TxPacketBuffer

end AddressPackets

section Loop

variable {Groups : Type} (fresh : BitVec 16 → DfiTxPacket)
  (fill : DfiTxPacket → Groups → DfiTxPacket × Groups) (again : Groups → Bool)

/-- The packets of a loop from a timestamp on, and the groups it ends with when it ends
within the fuel. -/
def loopTrace : Nat → BitVec 16 → Groups → List DfiTxPacket × Option Groups
  | 0, _, _ => ([], none)
  | fuel + 1, time, groups =>
      let filled := fill (fresh time) groups
      if again filled.2 then
        let later := loopTrace fuel (time + 1) filled.2
        (filled.1 :: later.1, later.2)
      else ([filled.1], some filled.2)

variable {fresh fill again}

/-- What every filled packet satisfies holds of the packets of a loop. -/
theorem forall_loopTrace {good : DfiTxPacket → Prop}
    (filledGood : ∀ time groups, good (fill (fresh time) groups).1) (fuel : Nat)
    (time : BitVec 16) (groups : Groups) :
    ∀ packet ∈ (loopTrace fresh fill again fuel time groups).1, good packet := by
  induction fuel generalizing time groups with
  | zero => exact fun packet listed => absurd listed List.not_mem_nil
  | succ fuel inductionHypothesis =>
      intro packet listed
      rw [loopTrace] at listed
      dsimp only at listed
      split at listed
      · rcases List.mem_cons.mp listed with rfl | later
        · exact filledGood time groups
        · exact inductionHypothesis _ _ packet later
      · obtain rfl := List.mem_singleton.mp listed
        exact filledGood time groups

/-- A loop ends when every turn after which it goes on decreases a measure. -/
theorem loopTrace_ends (measure : BitVec 16 → Groups → Nat) (invariant : Groups → Prop)
    (keeps : ∀ time groups, invariant groups → invariant (fill (fresh time) groups).2)
    (decreases : ∀ time groups, invariant groups → again (fill (fresh time) groups).2 = true →
      measure (time + 1) (fill (fresh time) groups).2 < measure time groups)
    {fuel : Nat} {time : BitVec 16} {groups : Groups} (holds : invariant groups)
    (enough : measure time groups < fuel) :
    ∃ final, (loopTrace fresh fill again fuel time groups).2 = some final := by
  induction fuel generalizing time groups with
  | zero => exact absurd enough (Nat.not_lt_zero _)
  | succ fuel inductionHypothesis =>
      rw [loopTrace]
      dsimp only
      split
      · rename_i goesOn
        have less := decreases time groups holds goesOn
        exact inductionHypothesis (keeps time groups holds) (by omega)
      · exact ⟨_, rfl⟩

/-- The packets of a loop whose groups at each timestamp are known. -/
theorem loopTrace_eq_map (groupsAt : Nat → Groups) {first last : Nat}
    {packetAt : Nat → DfiTxPacket}
    (fills : ∀ time, first ≤ time → time < last →
      fill (fresh (BitVec.ofNat 16 time)) (groupsAt time) = (packetAt time, groupsAt (time + 1)))
    (goesOn : ∀ time, first ≤ time → time < last →
      (again (groupsAt (time + 1)) = true ↔ time + 1 < last))
    (nonempty : first < last) {fuel : Nat} (enough : last - first ≤ fuel) :
    loopTrace fresh fill again fuel (BitVec.ofNat 16 first) (groupsAt first) =
      ((List.Ico first last).map packetAt, some (groupsAt last)) := by
  induction fuel generalizing first with
  | zero => omega
  | succ fuel inductionHypothesis =>
      have step := fills first (Nat.le_refl _) nonempty
      have more := goesOn first (Nat.le_refl _) nonempty
      rw [loopTrace, step, List.Ico.eq_cons nonempty, List.map_cons]
      dsimp only
      by_cases remains : first + 1 < last
      · have next : BitVec.ofNat 16 first + 1 = BitVec.ofNat 16 (first + 1) :=
          (BitVec.ofNat_add first 1).symm
        rw [if_pos (more.mpr remains), next,
          inductionHypothesis (fun time after => fills time (by omega))
            (fun time after => goesOn time (by omega)) remains (by omega)]
      · obtain rfl : first + 1 = last := by omega
        rw [if_neg (mt more.mp remains), List.Ico.self_empty, List.map_nil]

namespace TxPacketBuffer

/-- A loop succeeds only when its groups ask for no further packet. -/
theorem packetLoop_stops {create : BitVec 16 → TxPacketBuffer → Option PacketPtr × TxPacketBuffer}
    {fuel : Nat} {timeOffset : BitVec 16} {groups final : Groups}
    {buffer after : TxPacketBuffer}
    (succeeded : packetLoop create fill again fuel timeOffset groups buffer =
      .ok (.wddrSuccess, final, after)) : again final = false := by
  induction fuel generalizing timeOffset groups buffer with
  | zero => cases succeeded
  | succ fuel inductionHypothesis =>
      rw [packetLoop] at succeeded
      split at succeeded
      · cases succeeded
      · dsimp only at succeeded
        split at succeeded
        · exact inductionHypothesis succeeded
        · rename_i stops
          cases succeeded
          exact Bool.eq_false_of_not_eq_true stops

variable {create : BitVec 16 → TxPacketBuffer → Option PacketPtr × TxPacketBuffer}
  (freshTime : ∀ time, (fresh time).time = time)
  (keepsTime : ∀ packet groups, (fill packet groups).1.time = packet.time)
include freshTime keepsTime

/-- The next timestamp of a loop comes after the one of the packet just filled. -/
theorem next_timestamp {before after : TxPacketBuffer} {time : BitVec 16} {groups : Groups}
    (appended : Appends before after 1 [(fill (fresh time) groups).1]) :
    1 + after.tsLastPacket = time + 1 := by
  rw [appended.tsLastPacket, lastTime_cons, lastTime_nil, keepsTime, freshTime,
    BitVec.add_comm]

variable (creates : Creates create fresh)
include creates

/-- The loop asks for its packets in turn.  It succeeds if all of them are allocated. -/
theorem packetLoop_attempted (fuel : Nat) (timeOffset : BitVec 16) (groups : Groups)
    {buffer : TxPacketBuffer} (sound : buffer.Sound) :
    let trace := loopTrace fresh fill again fuel (timeOffset + buffer.tsLastPacket) groups
    let looped := packetLoop create fill again fuel timeOffset groups buffer
    (AllGranted buffer trace.1 →
      ∃ after, Attempted buffer after trace.1 ∧
        looped = match trace.2 with
          | some final => .ok (.wddrSuccess, final, after)
          | none => .error .nonTermination) ∧
    (¬ AllGranted buffer trace.1 →
      ∃ stopped after, Attempted buffer after trace.1 ∧
        looped = .ok (.wddrError, stopped, after)) := by
  induction fuel generalizing timeOffset groups buffer with
  | zero => exact ⟨fun _ => ⟨buffer, Attempted.nil sound, rfl⟩, fun refused => absurd rfl refused⟩
  | succ fuel inductionHypothesis =>
      dsimp only
      rcases creates timeOffset buffer sound with
        ⟨failed, after, refused, appended⟩ | ⟨succeeds, item, after, listed, created⟩
      · obtain ⟨packet, rest, isCons⟩ : ∃ packet rest,
            (loopTrace fresh fill again (fuel + 1) (timeOffset + buffer.tsLastPacket)
              groups).1 = packet :: rest := by
          rw [loopTrace]
          dsimp only
          split <;> exact ⟨_, _, rfl⟩
        rw [isCons, packetLoop, refused]
        exact ⟨fun all => absurd all (not_allGranted_of_failed failed),
          fun _ => ⟨groups, after, Attempted.stop failed appended, rfl⟩⟩
      · have filled := created.filled
          (fill (fresh (timeOffset + buffer.tsLastPacket)) groups).1 (keepsTime _ _)
        rw [packetLoop, listed, loopTrace]
        dsimp only
        rw [created.contents]
        split
        · have later := inductionHypothesis 1
            (fill (fresh (timeOffset + buffer.tsLastPacket)) groups).2 filled.sound
          rw [next_timestamp freshTime keepsTime filled] at later
          dsimp only
          rw [allGranted_cons_iff succeeds filled]
          constructor
          · intro all
            obtain ⟨after, attempted, result⟩ := later.1 all
            exact ⟨after, Attempted.cons succeeds filled attempted, result⟩
          · intro refused
            obtain ⟨stopped, after, attempted, result⟩ := later.2 refused
            exact ⟨stopped, after, Attempted.cons succeeds filled attempted, result⟩
        · have none := Attempted.nil filled.sound
          exact ⟨fun _ => ⟨_, Attempted.cons succeeds filled none, rfl⟩,
            fun refused => absurd ((allGranted_cons_iff succeeds filled).mpr
              (allGranted_nil _)) refused⟩

end TxPacketBuffer

end Loop

end WavLpddr
