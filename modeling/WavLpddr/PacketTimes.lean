import Mathlib.Data.List.Chain
import WavLpddr.CompleteSequences

/-!
# Timestamps that rise

The packets of a part of a sequence rise from the last timestamp before it if each is sent
later than the one before.  A part that stops early rises, too, and parts that follow one
another rise together, so that a builder keeps the order as long as none of its offsets
vanishes and no timestamp wraps.
-/

namespace WavLpddr

open Attempts PacketGroupInfo

/-- Each packet is sent later than the one before, the first one later than a start. -/
def Rising (start : BitVec 16) (packets : List DfiTxPacket) : Prop :=
  (start.toNat :: packets.map (·.time.toNat)).IsChain (· < ·)

section Rising

variable {start : BitVec 16} {packet : DfiTxPacket} {packets rest : List DfiTxPacket}

theorem rising_nil (start : BitVec 16) : Rising start [] := List.isChain_singleton _

theorem rising_cons_iff :
    Rising start (packet :: rest) ↔
      start.toNat < packet.time.toNat ∧ Rising packet.time rest :=
  List.isChain_cons_cons

theorem rising_singleton (later : start.toNat < packet.time.toNat) : Rising start [packet] :=
  rising_cons_iff.mpr ⟨later, rising_nil _⟩

theorem rising_append_iff :
    Rising start (packets ++ rest) ↔
      Rising start packets ∧ Rising (lastTime start packets) rest := by
  induction packets generalizing start with
  | nil => simp [rising_nil]
  | cons packet packets inductionHypothesis =>
      rw [List.cons_append, rising_cons_iff, rising_cons_iff, inductionHypothesis, lastTime_cons,
        and_assoc]

theorem Rising.take (rising : Rising start packets) (count : Nat) :
    Rising start (packets.take count) := by
  have taken := List.IsChain.take rising (count + 1)
  rw [List.take_succ_cons, ← List.map_take] at taken
  exact taken

/-- The order is strict between any two packets. -/
theorem Rising.pairwise (rising : Rising start packets) :
    (packets.map (·.time.toNat)).Pairwise (· < ·) :=
  (List.pairwise_cons.mp (List.isChain_iff_pairwise.mp rising)).2

/-- The last timestamp is bounded by a bound of all timestamps. -/
theorem lastTime_le {bound : Nat} (first : start.toNat ≤ bound)
    (bounded : ∀ packet ∈ packets, packet.time.toNat ≤ bound) :
    (lastTime start packets).toNat ≤ bound := by
  induction packets generalizing start with
  | nil => exact first
  | cons packet packets inductionHypothesis =>
      rw [lastTime_cons]
      exact inductionHypothesis (bounded packet List.mem_cons_self)
        fun other listed => bounded other (List.mem_cons_of_mem _ listed)

end Rising

/-- The packets rise from a start, and none is later than a bound. -/
def RisingUpTo (bound : Nat) (start : BitVec 16) (packets : List DfiTxPacket) : Prop :=
  Rising start packets ∧ ∀ packet ∈ packets, packet.time.toNat ≤ bound

section Parts

/-- The packets of a command rise if their timestamps do not wrap. -/
theorem rising_addressPackets (ratio : WddrFreqRatio) (command : Nat → CommandFrame)
    (remaining phaseOffset : Nat) {start time : BitVec 16} (later : start.toNat < time.toNat)
    (fits : time.toNat + remaining ≤ 2 ^ 16) :
    RisingUpTo (time.toNat + remaining - 1) start
      (addressPackets ratio command remaining phaseOffset time) := by
  induction remaining generalizing phaseOffset start time with
  | zero => exact ⟨rising_nil _, fun packet listed => absurd listed List.not_mem_nil⟩
  | succ remaining inductionHypothesis =>
      rw [addressPackets]
      cases remaining with
      | zero =>
          refine ⟨rising_singleton ?_, fun packet listed => ?_⟩
          · rwa [time_addressPacket]
          · rw [List.mem_singleton.mp listed, time_addressPacket]
            exact Nat.le_refl _
      | succ more =>
          have next : (time + 1).toNat = time.toNat + 1 := by bv_omega
          obtain ⟨rises, bounded⟩ := inductionHypothesis (phaseOffset + framesPerPacket ratio)
            (by omega : time.toNat < (time + 1).toNat) (by omega)
          refine ⟨rising_cons_iff.mpr ?_, fun packet listed => ?_⟩
          · rw [time_addressPacket]
            exact ⟨later, rises⟩
          · rcases List.mem_cons.mp listed with rfl | inRest
            · rw [time_addressPacket]
              omega
            · have := bounded packet inRest
              omega

variable {Groups : Type} {fresh : BitVec 16 → DfiTxPacket}
  {fill : DfiTxPacket → Groups → DfiTxPacket × Groups} {again : Groups → Bool}

/-- The packets of a loop rise.  A measure that decreases with every turn after which the loop
goes on bounds how far. -/
theorem rising_loopTrace (freshTime : ∀ time, (fresh time).time = time)
    (keepsTime : ∀ packet groups, (fill packet groups).1.time = packet.time)
    (measure : BitVec 16 → Groups → Nat) (invariant : Groups → Prop)
    (keeps : ∀ time groups, invariant groups → invariant (fill (fresh time) groups).2)
    (decreases : ∀ time groups, invariant groups → again (fill (fresh time) groups).2 = true →
      0 < measure time groups ∧ (time.toNat + 1 < 2 ^ 16 →
        measure (time + 1) (fill (fresh time) groups).2 < measure time groups))
    (fuel : Nat) {start time : BitVec 16} {groups : Groups} (holds : invariant groups)
    (later : start.toNat < time.toNat) (fits : time.toNat + measure time groups < 2 ^ 16) :
    RisingUpTo (time.toNat + measure time groups) start
      (loopTrace fresh fill again fuel time groups).1 := by
  induction fuel generalizing start time groups with
  | zero => exact ⟨rising_nil _, fun packet listed => absurd listed List.not_mem_nil⟩
  | succ fuel inductionHypothesis =>
      have sent : (fill (fresh time) groups).1.time = time := by rw [keepsTime, freshTime]
      rw [loopTrace]
      dsimp only
      split
      · rename_i goesOn
        obtain ⟨busy, less⟩ := decreases time groups holds goesOn
        have next : (time + 1).toNat = time.toNat + 1 := by bv_omega
        have inTime := less (by omega)
        obtain ⟨rises, bounded⟩ := inductionHypothesis (keeps time groups holds)
          (by omega : time.toNat < (time + 1).toNat) (by omega)
        refine ⟨rising_cons_iff.mpr ?_, fun packet listed => ?_⟩
        · rw [sent]
          exact ⟨later, rises⟩
        · rcases List.mem_cons.mp listed with rfl | inRest
          · rw [sent]
            exact Nat.le_add_right _ _
          · have := bounded packet inRest
            omega
      · refine ⟨rising_singleton ?_, fun packet listed => ?_⟩
        · rwa [sent]
        · rw [List.mem_singleton.mp listed, sent]
          exact Nat.le_add_right _ _

end Parts

namespace TxPacketBuffer

/-- Packets that rise from the last timestamp were appended. -/
def Orders (before after : TxPacketBuffer) : Prop :=
  ∃ asked new, Appends before after asked new ∧ Rising before.tsLastPacket new

section Orders

variable {before middle after : TxPacketBuffer} {packets : List DfiTxPacket}

theorem Orders.sound (orders : Orders before after) : after.Sound := by
  obtain ⟨asked, new, appended, -⟩ := orders
  exact appended.sound

theorem Orders.trans (first : Orders before middle) (second : Orders middle after) :
    Orders before after := by
  obtain ⟨asked, new, appended, rises⟩ := first
  obtain ⟨more, later, appendedMore, risesMore⟩ := second
  refine ⟨_, _, appended.trans appendedMore, rising_append_iff.mpr ⟨rises, ?_⟩⟩
  rwa [← appended.tsLastPacket]

/-- A part of a sequence rises even if it stops at a failure. -/
theorem Attempted.orders (attempted : Attempted before after packets)
    (rises : Rising before.tsLastPacket packets) : Orders before after :=
  ⟨_, _, attempted, rises.take _⟩

theorem Attempted.tsLastPacket_le (attempted : Attempted before after packets) {bound : Nat}
    (first : before.tsLastPacket.toNat ≤ bound)
    (bounded : ∀ packet ∈ packets, packet.time.toNat ≤ bound) :
    after.tsLastPacket.toNat ≤ bound := by
  rw [attempted.tsLastPacket]
  exact lastTime_le first fun packet listed => bounded packet (List.mem_of_mem_take listed)

end Orders

/-- A packet after the last timestamp rises if its timestamp does not wrap. -/
theorem Attempted.orders_single {before after : TxPacketBuffer} {packet : DfiTxPacket}
    (attempted : Attempted before after [packet])
    (later : before.tsLastPacket.toNat < packet.time.toNat) : Orders before after :=
  attempted.orders (rising_singleton later)

/-- A gap moves on to where the loop begins. -/
theorem gap_moves {before after : TxPacketBuffer} {timeOffset : BitVec 16}
    (attempted : Attempted before after (gapPackets timeOffset before.tsLastPacket))
    (moves : 0 < timeOffset.toNat)
    (fits : before.tsLastPacket.toNat + timeOffset.toNat < 2 ^ 16) :
    Orders before after ∧ 0 < (gapOffset timeOffset).toNat ∧
      (gapOffset timeOffset).toNat + after.tsLastPacket.toNat ≤
        before.tsLastPacket.toNat + timeOffset.toNat := by
  unfold gapPackets at attempted
  unfold gapOffset
  split
  · rename_i more
    rw [if_pos more] at attempted
    have next : (1 + before.tsLastPacket).toNat = before.tsLastPacket.toNat + 1 := by bv_omega
    have delayed := attempted.tsLastPacket_le (Nat.le_succ before.tsLastPacket.toNat)
      fun packet listed => by
        rw [List.mem_singleton.mp listed, time_ckePacket, next]
    refine ⟨attempted.orders_single (by rw [time_ckePacket, next]; exact Nat.lt_succ_self _),
      ?_, ?_⟩
    · bv_omega
    · bv_omega
  · rename_i single
    rw [if_neg single] at attempted
    have same : after.tsLastPacket = before.tsLastPacket := attempted.tsLastPacket
    refine ⟨attempted.orders (rising_nil _), moves, ?_⟩
    rw [same]
    omega

namespace Plan

variable {plan : Plan} {before : TxPacketBuffer} (budget : Nat)
  (frames : Rising before.tsLastPacket plan.frames)
  (turns : ∀ {start time : BitVec 16}, start.toNat < time.toNat →
    time.toNat + budget < 2 ^ 16 → RisingUpTo (time.toNat + budget) start (plan.turns time))
  (inTime : ∀ {commanded : TxPacketBuffer}, Attempted before commanded plan.frames →
    0 < (plan.offset commanded.tsLastPacket).toNat ∧
      commanded.tsLastPacket.toNat + (plan.offset commanded.tsLastPacket).toNat + budget + 1 <
        2 ^ 16)
include frames turns inTime

theorem Followed.orders {commanded delayed looped : TxPacketBuffer}
    (followed : plan.Followed before commanded delayed looped) :
    Orders before looped ∧ looped.tsLastPacket.toNat + 1 < 2 ^ 16 := by
  obtain ⟨moves, fits⟩ := inTime followed.frames
  obtain ⟨gap, positive, begins⟩ := gap_moves followed.gap moves (by omega)
  have time : (gapOffset (plan.offset commanded.tsLastPacket) + delayed.tsLastPacket).toNat =
      (gapOffset (plan.offset commanded.tsLastPacket)).toNat + delayed.tsLastPacket.toNat := by
    rw [BitVec.toNat_add, Nat.mod_eq_of_lt (by omega)]
  obtain ⟨rises, bounded⟩ := turns (by omega : delayed.tsLastPacket.toNat <
    (gapOffset (plan.offset commanded.tsLastPacket) + delayed.tsLastPacket).toNat) (by omega)
  have ends := followed.turns.tsLastPacket_le (by omega) bounded
  refine ⟨((followed.frames.orders frames).trans gap).trans (followed.turns.orders rises), ?_⟩
  omega

/-- A builder keeps the order if its offset does not vanish and its loop ends in time. -/
theorem Prepares.orders {after : TxPacketBuffer} {result : WddrReturn}
    (prepares : plan.Prepares before result after) : Orders before after := by
  cases prepares with
  | refused followed stopped => exact (followed.orders budget frames turns inTime).1
  | succeeds followed completes ended =>
      obtain ⟨looped, fits⟩ := followed.orders budget frames turns inTime
      refine looped.trans (ended.orders_single ?_)
      rw [time_ckePacket]
      bv_omega

end Plan

end TxPacketBuffer

namespace PacketGroupInfo

/-- The timestamps until a group starts and the turns for its work, while phases remain. -/
def ahead (time : BitVec 16) (groupInfo : PacketGroupInfo) : Nat :=
  if groupInfo.phaseRemaining = 0 then 0
  else groupInfo.dfiTsStart.toNat - time.toNat + groupInfo.work

theorem ahead_le (time : BitVec 16) (groupInfo : PacketGroupInfo) :
    ahead time groupInfo ≤ groupInfo.dfiTsStart.toNat - time.toNat + groupInfo.work := by
  unfold ahead
  split <;> omega

variable {time : BitVec 16} {before after : PacketGroupInfo}

/-- A turn leaves no more ahead. -/
theorem Turn.ahead_le (turn : Turn time before after) (fits : time.toNat + 1 < 2 ^ 16) :
    ahead (time + 1) after ≤ ahead time before := by
  have next : (time + 1).toNat = time.toNat + 1 := by bv_omega
  unfold ahead
  rw [next]
  cases turn with
  | waits early same =>
      rw [same]
      split <;> omega
  | fills keeps sameStart noMore less stays =>
      by_cases none : before.phaseRemaining = 0
      · rw [if_pos (stays none)]
        exact Nat.zero_le _
      · rw [if_neg none, sameStart]
        split <;> omega

/-- A turn after which phases remain leaves less ahead. -/
theorem Turn.ahead_lt (turn : Turn time before after) (remains : after.phaseRemaining ≠ 0) :
    0 < ahead time before ∧
      (time.toNat + 1 < 2 ^ 16 → ahead (time + 1) after < ahead time before) := by
  unfold ahead
  cases turn with
  | waits early same =>
      rw [same] at remains ⊢
      rw [BitVec.lt_def] at early
      rw [if_neg remains, if_neg remains]
      refine ⟨by omega, fun fits => ?_⟩
      have next : (time + 1).toNat = time.toNat + 1 := by bv_omega
      omega
  | fills keeps sameStart noMore less stays =>
      have busy : before.phaseRemaining ≠ 0 := mt stays remains
      have taken := less busy
      rw [if_neg busy, if_neg remains, sameStart]
      refine ⟨by omega, fun fits => ?_⟩
      have next : (time + 1).toNat = time.toNat + 1 := by bv_omega
      omega

end PacketGroupInfo

section Loops

variable {start time : BitVec 16} (later : start.toNat < time.toNat)
include later

/-- A loop that fills a single group rises. -/
theorem rising_loopTrace_fillPacket (put : Nat → BitVec 16 → DfiTxPacket → DfiTxPacket)
    (keeps : ∀ cycle offset packet, (put cycle offset packet).time = packet.time)
    {cyclesPerPacket : BitVec 8} (positive : 0 < cyclesPerPacket.toNat)
    (few : cyclesPerPacket.toNat ≤ 4) (phaseLength : BitVec 16) {groupInfo : PacketGroupInfo}
    (regular : groupInfo.Regular) (fits : time.toNat + groupInfo.work < 2 ^ 16) :
    RisingUpTo (time.toNat + groupInfo.work) start
      (loopTrace ckePacket (fillPacket put cyclesPerPacket phaseLength)
        (·.phaseRemaining ≠ 0) loopFuel time groupInfo).1 := by
  apply rising_loopTrace time_ckePacket
    (fun packet groupInfo => time_fillPacket put keeps cyclesPerPacket phaseLength packet groupInfo)
    (fun _ => work) Regular _ _ loopFuel regular later fits
  · intro time groupInfo regular
    exact regular_fillPacket put few phaseLength _ regular
  · intro time groupInfo regular remains
    have remained : groupInfo.phaseRemaining ≠ 0 := by
      intro none
      exact of_decide_eq_true remains
        (phaseRemaining_fillPacket put few phaseLength _ regular none)
    have less := (work_fillPacket put few phaseLength (ckePacket time) regular positive).2 remained
    exact ⟨Nat.zero_lt_of_lt less, fun _ => less⟩

theorem rising_loopTrace_wrfifo (ratio : WddrFreqRatio) (burstLength : BurstLength)
    (cs : Chipselect) (data : CommandData) {groups : TxPacketBuffer.WrGroups}
    (regular : groups.1.Regular ∧ groups.2.Regular)
    (fits : time.toNat + (ahead time groups.1 + ahead time groups.2) < 2 ^ 16) :
    RisingUpTo (time.toNat + (ahead time groups.1 + ahead time groups.2)) start
      (loopTrace ckePacket
        (TxPacketBuffer.fillWrfifo ratio.cyclesPerPacket burstLength cs data)
        TxPacketBuffer.wrfifoRemains loopFuel time groups).1 := by
  apply rising_loopTrace time_ckePacket (time_fillWrfifo ratio burstLength cs data)
    (fun time groups => ahead time groups.1 + ahead time groups.2)
    (fun groups => groups.1.Regular ∧ groups.2.Regular) _ _ loopFuel regular later fits
  · intro time groups regular
    obtain ⟨first, second⟩ := turn_fillWrfifo ratio burstLength cs data (ckePacket time) regular
    exact ⟨first.regular regular.1, second.regular regular.2⟩
  · intro time groups regular remains
    obtain ⟨first, second⟩ := turn_fillWrfifo ratio burstLength cs data (ckePacket time) regular
    rw [time_ckePacket] at first second
    rw [TxPacketBuffer.wrfifoRemains, Bool.or_eq_true, decide_eq_true_eq,
      decide_eq_true_eq] at remains
    rcases remains with firstRemains | secondRemains
    · obtain ⟨busy, less⟩ := first.ahead_lt firstRemains
      refine ⟨by omega, fun fits => ?_⟩
      have := less fits
      have := second.ahead_le fits
      omega
    · obtain ⟨busy, less⟩ := second.ahead_lt secondRemains
      refine ⟨by omega, fun fits => ?_⟩
      have := less fits
      have := first.ahead_le fits
      omega

theorem rising_loopTrace_cbt (ratio : WddrFreqRatio) (cs : Chipselect) (data : CommandData)
    {groups : TxPacketBuffer.CbtGroups} (regular : groups.1.Regular)
    (fits : time.toNat + ahead time groups.1 < 2 ^ 16) :
    RisingUpTo (time.toNat + ahead time groups.1) start
      (loopTrace ckPacket (TxPacketBuffer.fillCbt ratio.cyclesPerPacket cs data)
        (fun groups => (ratio.cyclesPerPacket <<< 1).setWidth 16 ≤ groups.1.phaseRemaining)
        loopFuel time groups).1 := by
  apply rising_loopTrace time_ckPacket (time_fillCbt ratio cs data)
    (fun time groups => ahead time groups.1) (fun groups => groups.1.Regular) _ _ loopFuel
    regular later fits
  · intro time groups regular
    exact (turn_fillCbt ratio cs data (ckPacket time) regular).regular regular
  · intro time groups regular remains
    have turn := turn_fillCbt ratio cs data (ckPacket time) regular
    apply turn.ahead_lt
    intro none
    rw [decide_eq_true_eq, none] at remains
    revert remains
    cases ratio <;> decide

end Loops

end WavLpddr
