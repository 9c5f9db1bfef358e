import WavLpddr.WddrMain

/-!
# What the host reads from a response

Each request has a response with its own packed format.  The host reads the status of the
operation, the frequency and the state of the application back, or the numbers of a version.
The state moves from idle to ready to error and no other way.
-/

namespace WavLpddr

open BitFields

/-- A host message together with what the firmware answers if it is called. -/
structure Exchange where
  req : Message
  firmware : FirmwareCall → Bool

section Responses

variable [KernelIo] [GeneralMessages]

namespace Exchange

/-- The whole of `handle_message`: the state after it and the response. -/
def answer (exchange : Exchange) (state : AppState) : AppState × Message :=
  match handleMessage exchange.req state with
  | .inl call => finishMessage call (exchange.firmware call) state
  | .inr response => (state, response)

/-- The frequency that a PREP request names. -/
def freqId (exchange : Exchange) : UInt8 :=
  ⟨(getRegField exchange.req.data wddrFreqPrepReqFreqId).setWidth 8⟩

/-- The call that a BOOT request stands for. -/
def bootCall (exchange : Exchange) : FirmwareCall :=
  .start (getRegField exchange.req.data wddrBootReqCal != 0)
    (getRegField exchange.req.data wddrBootReqTrain != 0)

/-- The state after a sequence of messages. -/
def stateAfter (start : AppState) (exchanges : List Exchange) : AppState :=
  exchanges.foldl (fun state exchange => (exchange.answer state).1) start

end Exchange

/-- The response fields of a version that `messages_general.h` has beside the major one. -/
structure VersionFields where
  minor : RegField
  patch : RegField

/-- What the responses rely on from `messages_general.h`: the request ids are labels of one
switch, and the fields of a response are disjoint and hold their values. -/
structure GeneralLayout (version : VersionFields) : Prop where
  distinct : [messageWddrFreqPrepReq, GeneralMessages.mcuBootReq, GeneralMessages.fwVerReq,
    GeneralMessages.hwVerReq].Nodup
  bootDisjoint : GeneralMessages.mcuBootRespStatus.mask &&&
    GeneralMessages.mcuBootRespCode.mask = 0
  bootStatus : ∀ failed, GeneralMessages.mcuBootRespStatus.cut (boolWord failed) = boolWord failed
  bootCode : ∀ state : AppState, GeneralMessages.mcuBootRespCode.cut state.value = state.value
  fwMinorDisjoint : version.minor.mask &&& GeneralMessages.fwVerRespMajor.mask = 0
  fwPatchDisjoint : version.patch.mask &&& GeneralMessages.fwVerRespMajor.mask = 0
  hwDisjoint : GeneralMessages.hwVerRespMajor.mask &&& GeneralMessages.hwVerRespMinor.mask = 0
  hwMajor : GeneralMessages.hwVerRespMajor.cut 1 = 1

omit [KernelIo] in
/-- A later label of the switch is not an earlier one. -/
theorem GeneralLayout.apart {version : VersionFields} (layout : GeneralLayout version) :
    GeneralMessages.mcuBootReq ≠ messageWddrFreqPrepReq ∧
      (GeneralMessages.fwVerReq ≠ messageWddrFreqPrepReq ∧
        GeneralMessages.fwVerReq ≠ GeneralMessages.mcuBootReq) ∧
      GeneralMessages.hwVerReq ≠ messageWddrFreqPrepReq ∧
        GeneralMessages.hwVerReq ≠ GeneralMessages.mcuBootReq ∧
          GeneralMessages.hwVerReq ≠ GeneralMessages.fwVerReq := by
  have distinct := layout.distinct
  simp only [List.nodup_cons, List.mem_cons, List.not_mem_nil, or_false, not_or] at distinct
  obtain ⟨⟨prepBoot, prepFw, prepHw⟩, ⟨bootFw, bootHw⟩, fwHw, -⟩ := distinct
  exact ⟨Ne.symm prepBoot, ⟨Ne.symm prepFw, Ne.symm bootFw⟩, Ne.symm prepHw, Ne.symm bootHw,
    Ne.symm fwHw⟩

/-- The version of the firmware is 0.0.0. -/
def FwVersionZero : Prop :=
  GeneralMessages.fwVersionMajor = 0 ∧ GeneralMessages.fwVersionMinor = 0 ∧
    GeneralMessages.fwVersionPatch = 0

namespace Exchange

/-- The response decodes to the outcome of the request. -/
structure Decodes (version : VersionFields) (exchange : Exchange) (state : AppState) : Prop where
  prep : exchange.req.id = messageWddrFreqPrepReq →
    let passed := decide (state = .ready) && exchange.firmware (.prepSwitch exchange.freqId)
    let after := exchange.answer state
    after.2.id = messageWddrFreqPrepResp ∧
      getRegField after.2.data wddrFreqPrepRspStatus = boolWord !passed ∧
      getRegField after.2.data wddrFreqPrepRspFreqId = exchange.freqId.toBitVec.setWidth 32 ∧
      getRegField after.2.data wddrFreqPrepRspRespCode = after.1.value
  boot : exchange.req.id = GeneralMessages.mcuBootReq →
    let passed := decide (state = .idle) && exchange.firmware exchange.bootCall
    let after := exchange.answer state
    after.2.id = GeneralMessages.mcuBootResp ∧
      getRegField after.2.data GeneralMessages.mcuBootRespStatus = boolWord !passed ∧
      getRegField after.2.data GeneralMessages.mcuBootRespCode = after.1.value
  fwVer : exchange.req.id = GeneralMessages.fwVerReq →
    let after := exchange.answer state
    after.2.id = GeneralMessages.fwVerResp ∧
      getRegField after.2.data GeneralMessages.fwVerRespMajor = GeneralMessages.fwVersionMajor ∧
      getRegField after.2.data version.minor = GeneralMessages.fwVersionMinor ∧
      getRegField after.2.data version.patch = GeneralMessages.fwVersionPatch
  hwVer : exchange.req.id = GeneralMessages.hwVerReq →
    let after := exchange.answer state
    after.2.id = GeneralMessages.hwVerResp ∧
      getRegField after.2.data GeneralMessages.hwVerRespMajor = 1 ∧
      getRegField after.2.data GeneralMessages.hwVerRespMinor = 0
  other : exchange.req.id ≠ messageWddrFreqPrepReq →
    exchange.req.id ≠ GeneralMessages.mcuBootReq → exchange.req.id ≠ GeneralMessages.fwVerReq →
      exchange.req.id ≠ GeneralMessages.hwVerReq → exchange.answer state = (state, ⟨0x0, 0x0⟩)

end Exchange

section Reads

variable {version : VersionFields} (layout : GeneralLayout version)

omit [GeneralMessages] in
/-- The fields of a PREP response. -/
theorem prepResponse_reads (passed : Bool) (freqId : UInt8) (state : AppState) :
    getRegField (prepResponse passed freqId state).data wddrFreqPrepRspStatus =
        boolWord !passed ∧
      getRegField (prepResponse passed freqId state).data wddrFreqPrepRspFreqId =
        freqId.toBitVec.setWidth 32 ∧
      getRegField (prepResponse passed freqId state).data wddrFreqPrepRspRespCode =
        state.value := by
  have status : ∀ failed, wddrFreqPrepRspStatus.cut (boolWord failed) = boolWord failed := by
    decide
  have freq : ∀ number : BitVec 8,
      wddrFreqPrepRspFreqId.cut (number.setWidth 32) = number.setWidth 32 := by
    decide +kernel
  have code : ∀ state : AppState, wddrFreqPrepRspRespCode.cut state.value = state.value := by
    intro state
    cases state <;> decide
  refine ⟨?_, ?_, ?_⟩
  · exact (getRegField_updateRegField_of_disjoint _ _ _ _ (by decide)).trans
      ((getRegField_updateRegField_of_disjoint _ _ _ _ (by decide)).trans
        ((getRegField_updateRegField_cut _ _ _).trans (status !passed)))
  · exact (getRegField_updateRegField_of_disjoint _ _ _ _ (by decide)).trans
      ((getRegField_updateRegField_cut _ _ _).trans (freq freqId.toBitVec))
  · exact (getRegField_updateRegField_cut _ _ _).trans (code state)

include layout

/-- The fields of a BOOT response. -/
theorem bootResponse_reads (passed : Bool) (state : AppState) :
    getRegField (bootResponse passed state).data GeneralMessages.mcuBootRespStatus =
        boolWord !passed ∧
      getRegField (bootResponse passed state).data GeneralMessages.mcuBootRespCode =
        state.value :=
  ⟨(getRegField_updateRegField_of_disjoint _ _ _ _ layout.bootDisjoint).trans
      ((getRegField_updateRegField_cut _ _ _).trans (layout.bootStatus !passed)),
    (getRegField_updateRegField_cut _ _ _).trans (layout.bootCode state)⟩

theorem hwVerResponse_reads :
    getRegField hwVerResponse.data GeneralMessages.hwVerRespMajor = 1 ∧
      getRegField hwVerResponse.data GeneralMessages.hwVerRespMinor = 0 :=
  ⟨(getRegField_updateRegField_of_disjoint _ _ _ _ layout.hwDisjoint).trans
      ((getRegField_updateRegField_cut _ _ _).trans layout.hwMajor),
    (getRegField_updateRegField_cut _ _ _).trans (Field.cut_zero _)⟩

/-- The major field of a firmware version holds the patch number, the other ones nothing. -/
theorem fwVerResponse_reads :
    getRegField fwVerResponse.data GeneralMessages.fwVerRespMajor =
        GeneralMessages.fwVerRespMajor.cut GeneralMessages.fwVersionPatch ∧
      getRegField fwVerResponse.data version.minor = 0 ∧
      getRegField fwVerResponse.data version.patch = 0 := by
  have empty : ∀ field : RegField, field.mask &&& GeneralMessages.fwVerRespMajor.mask = 0 →
      getRegField fwVerResponse.data field = 0 := by
    intro field disjoint
    unfold fwVerResponse
    dsimp only
    rw [getRegField_updateRegField_of_disjoint _ _ _ _ disjoint,
      getRegField_updateRegField_of_disjoint _ _ _ _ disjoint,
      getRegField_updateRegField_of_disjoint _ _ _ _ disjoint, getRegField_eq]
    simp [Field.extract]
  exact ⟨getRegField_updateRegField_cut _ _ _, empty _ layout.fwMinorDisjoint,
    empty _ layout.fwPatchDisjoint⟩

end Reads

/-- The moves of the application. -/
def AppState.Moves (before after : AppState) : Prop :=
  after = before ∨ before = .idle ∧ after = .ready ∨ before = .ready ∧ after = .error

namespace Exchange

section Answers

variable {version : VersionFields} (layout : GeneralLayout version) (exchange : Exchange)
  (state : AppState)

theorem handleMessage_prep (isPrep : exchange.req.id = messageWddrFreqPrepReq) :
    handleMessage exchange.req state =
      if state = .ready then .inl (.prepSwitch exchange.freqId)
      else .inr (prepResponse false exchange.freqId state) :=
  if_pos isPrep

/-- A PREP request, in its valid state and outside it. -/
theorem answer_prep (isPrep : exchange.req.id = messageWddrFreqPrepReq) :
    let passed := decide (state = .ready) && exchange.firmware (.prepSwitch exchange.freqId)
    let after := if state = .ready ∧ passed = false then .error else state
    exchange.answer state = (after, prepResponse passed exchange.freqId after) := by
  unfold answer
  rw [handleMessage_prep exchange state isPrep]
  by_cases valid : state = .ready
  · cases outcome : exchange.firmware (.prepSwitch exchange.freqId) <;>
      simp [valid, finishMessage, outcome]
  · simp [valid]

include layout

theorem handleMessage_boot (isBoot : exchange.req.id = GeneralMessages.mcuBootReq) :
    handleMessage exchange.req state =
      if state = .idle then .inl exchange.bootCall else .inr (bootResponse false state) :=
  (if_neg (isBoot ▸ layout.apart.1 : exchange.req.id ≠ messageWddrFreqPrepReq)).trans
    (if_pos isBoot)

/-- A BOOT request, in its valid state and outside it. -/
theorem answer_boot (isBoot : exchange.req.id = GeneralMessages.mcuBootReq) :
    let passed := decide (state = .idle) && exchange.firmware exchange.bootCall
    let after := if passed = true then .ready else state
    exchange.answer state = (after, bootResponse passed after) := by
  unfold answer
  rw [handleMessage_boot layout exchange state isBoot]
  by_cases valid : state = .idle
  · have finished : ∀ passed, finishMessage exchange.bootCall passed state =
        (if passed = true then .ready else state,
          bootResponse passed (if passed = true then .ready else state)) := fun _ => rfl
    subst valid
    simpa using finished (exchange.firmware exchange.bootCall)
  · simp [valid]

theorem answer_fwVer (isFwVer : exchange.req.id = GeneralMessages.fwVerReq) :
    exchange.answer state = (state, fwVerResponse) := by
  have apart := isFwVer ▸ layout.apart.2.1
  have handled : handleMessage exchange.req state = .inr fwVerResponse :=
    (if_neg apart.1).trans ((if_neg apart.2).trans (if_pos isFwVer))
  unfold answer
  rw [handled]

theorem answer_hwVer (isHwVer : exchange.req.id = GeneralMessages.hwVerReq) :
    exchange.answer state = (state, hwVerResponse) := by
  have apart := isHwVer ▸ layout.apart.2.2
  have handled : handleMessage exchange.req state = .inr hwVerResponse :=
    (if_neg apart.1).trans ((if_neg apart.2.1).trans ((if_neg apart.2.2).trans (if_pos isHwVer)))
  unfold answer
  rw [handled]

/-- A response decodes as it should unless it is a version of the firmware other than 0.0.0. -/
theorem decodes_iff :
    exchange.Decodes version state ↔
      (exchange.req.id = GeneralMessages.fwVerReq → FwVersionZero) := by
  have reads := fwVerResponse_reads layout
  constructor
  · intro decodes isFwVer
    have fields := decodes.fwVer isFwVer
    rw [answer_fwVer layout exchange state isFwVer] at fields
    obtain ⟨-, major, minor, patch⟩ := fields
    rw [reads.2.2] at patch
    rw [reads.1, ← patch, Field.cut_zero] at major
    exact ⟨major.symm, (reads.2.1.symm.trans minor).symm, patch.symm⟩
  · intro zero
    constructor
    · intro isPrep
      dsimp only
      rw [answer_prep exchange state isPrep]
      exact ⟨rfl, prepResponse_reads _ _ _⟩
    · intro isBoot
      dsimp only
      rw [answer_boot layout exchange state isBoot]
      exact ⟨rfl, bootResponse_reads layout _ _⟩
    · intro isFwVer
      obtain ⟨major, minor, patch⟩ := zero isFwVer
      dsimp only
      rw [answer_fwVer layout exchange state isFwVer, reads.1, reads.2.1, reads.2.2, major, minor,
        patch, Field.cut_zero]
      exact ⟨rfl, rfl, rfl, rfl⟩
    · intro isHwVer
      dsimp only
      rw [answer_hwVer layout exchange state isHwVer]
      exact ⟨rfl, hwVerResponse_reads layout⟩
    · intro notPrep notBoot notFwVer notHwVer
      unfold answer handleMessage
      simp only [notPrep, notBoot, notFwVer, notHwVer, if_false]

/-- Outside its valid state a request is answered as failed and the firmware is not called. -/
structure Guarded (exchange : Exchange) (state : AppState) : Prop where
  prep : exchange.req.id = messageWddrFreqPrepReq → state ≠ .ready →
    (∀ call, handleMessage exchange.req state ≠ .inl call) ∧
      getRegField (exchange.answer state).2.data wddrFreqPrepRspStatus = 1
  boot : exchange.req.id = GeneralMessages.mcuBootReq → state ≠ .idle →
    (∀ call, handleMessage exchange.req state ≠ .inl call) ∧
      getRegField (exchange.answer state).2.data GeneralMessages.mcuBootRespStatus = 1

omit layout in
/-- The firmware is called in the valid state of the request only. -/
theorem valid_of_handleMessage {req : Message} {call : FirmwareCall}
    (called : handleMessage req state = .inl call) :
    (∃ freqId, call = .prepSwitch freqId) ∧ state = .ready ∨
      (∃ calibrate trainDram, call = .start calibrate trainDram) ∧ state = .idle := by
  unfold handleMessage at called
  dsimp only at called
  split at called
  · split at called
    · exact Or.inl ⟨⟨_, (Sum.inl.inj called).symm⟩, ‹_›⟩
    · cases called
  · split at called
    · split at called
      · exact Or.inr ⟨⟨_, _, (Sum.inl.inj called).symm⟩, ‹_›⟩
      · cases called
    · split at called
      · cases called
      · split at called
        · cases called
        · cases called

theorem guarded : exchange.Guarded state := by
  constructor
  · intro isPrep notReady
    have rejected : handleMessage exchange.req state =
        .inr (prepResponse false exchange.freqId state) :=
      (handleMessage_prep exchange state isPrep).trans (if_neg notReady)
    refine ⟨fun call => by simp [rejected], ?_⟩
    unfold answer
    rw [rejected]
    exact (prepResponse_reads false exchange.freqId state).1
  · intro isBoot notIdle
    have rejected : handleMessage exchange.req state = .inr (bootResponse false state) :=
      (handleMessage_boot layout exchange state isBoot).trans (if_neg notIdle)
    refine ⟨fun call => by simp [rejected], ?_⟩
    unfold answer
    rw [rejected]
    exact (bootResponse_reads layout false state).1

omit layout in
/-- One message moves the state from idle to ready or from ready to error, or not at all. -/
theorem answer_moves : AppState.Moves state (exchange.answer state).1 := by
  unfold answer
  split
  · rename_i call called
    rcases valid_of_handleMessage state called with
      ⟨⟨freqId, rfl⟩, rfl⟩ | ⟨⟨calibrate, trainDram, rfl⟩, rfl⟩
    · unfold finishMessage
      dsimp only
      split
      · exact Or.inl rfl
      · exact Or.inr (Or.inr ⟨rfl, rfl⟩)
    · unfold finishMessage
      dsimp only
      split
      · exact Or.inr (Or.inl ⟨rfl, rfl⟩)
      · exact Or.inl rfl
  · exact Or.inl rfl

end Answers

section Runs

variable {version : VersionFields} (layout : GeneralLayout version) (start : AppState)
  (exchanges : List Exchange)

/-- Every response of a sequence of messages decodes to what happened. -/
def Answered (version : VersionFields) : Prop :=
  ∀ earlier exchange later, exchanges = earlier ++ exchange :: later →
    exchange.Decodes version (stateAfter start earlier)

/-- What holds of the application over a sequence of messages. -/
structure StateMachine : Prop where
  guarded : ∀ earlier exchange later, exchanges = earlier ++ exchange :: later →
    exchange.Guarded (stateAfter start earlier)
  moves : ∀ earlier exchange later, exchanges = earlier ++ exchange :: later →
    AppState.Moves (stateAfter start earlier) (stateAfter start (earlier ++ [exchange]))
  terminal : ∀ earlier later, exchanges = earlier ++ later →
    stateAfter start earlier = .error → stateAfter start exchanges = .error

theorem stateAfter_append (earlier later : List Exchange) :
    stateAfter start (earlier ++ later) = stateAfter (stateAfter start earlier) later :=
  List.foldl_append

/-- Nothing leaves the error state. -/
theorem stateAfter_error : stateAfter .error exchanges = .error := by
  induction exchanges with
  | nil => rfl
  | cons exchange rest inductionHypothesis =>
      have stays : (exchange.answer .error).1 = .error := by
        rcases answer_moves exchange .error with same | ⟨isIdle, -⟩ | ⟨isReady, -⟩
        · exact same
        · cases isIdle
        · cases isReady
      exact (congrArg (stateAfter · rest) stays).trans inductionHypothesis

include layout

theorem stateMachine : StateMachine start exchanges where
  guarded earlier exchange _ _ := guarded layout exchange (stateAfter start earlier)
  moves earlier exchange _ _ := by
    rw [stateAfter_append]
    exact answer_moves exchange (stateAfter start earlier)
  terminal earlier later split failed := by
    rw [split, stateAfter_append, failed, stateAfter_error]

/-- The state machine holds of every sequence of messages.  All responses decode if and only
if nobody asks for a version of the firmware, or that version is 0.0.0. -/
theorem hostResponses_iff :
    (Answered start exchanges version ∧ StateMachine start exchanges ↔
      ((∃ exchange ∈ exchanges, exchange.req.id = GeneralMessages.fwVerReq) → FwVersionZero)) ∧
      StateMachine start exchanges := by
  have holds := stateMachine layout start exchanges
  refine ⟨⟨fun answered => ?_, fun zero => ⟨?_, holds⟩⟩, holds⟩
  · rintro ⟨exchange, mem, isFwVer⟩
    obtain ⟨earlier, later, split⟩ := List.append_of_mem mem
    have decodes := answered.1 earlier exchange later split
    exact (decodes_iff layout exchange (stateAfter start earlier)).mp decodes isFwVer
  · intro earlier exchange later split
    have mem : exchange ∈ exchanges := by simp [split]
    exact (decodes_iff layout exchange (stateAfter start earlier)).mpr
      fun isFwVer => zero ⟨exchange, mem, isFwVer⟩

end Runs

end Exchange

end Responses

section Reference

open Exchange

/-- The minor and the patch number lie above the major one. -/
def referenceVersion : VersionFields where
  minor := ⟨0x0000ff00, 8⟩
  patch := ⟨0x00ff0000, 16⟩

theorem referenceVersion_layout :
    @GeneralLayout referencePlatform.toGeneralMessages referenceVersion := by
  let := referencePlatform
  constructor <;> first | decide | (intro state; cases state <;> decide)

/-- A boot, a preparation that fails and a request for the hardware version. -/
def referenceExchanges : List Exchange :=
  let := referencePlatform
  [⟨⟨GeneralMessages.mcuBootReq, 0⟩, fun _ => true⟩,
    ⟨⟨messageWddrFreqPrepReq, 3⟩, fun _ => false⟩,
    ⟨⟨GeneralMessages.hwVerReq, 0⟩, fun _ => true⟩]

theorem hostResponses_reference :
    let := referencePlatform
    Answered .idle referenceExchanges referenceVersion ∧ StateMachine .idle referenceExchanges :=
  (@hostResponses_iff referencePlatform.toKernelIo referencePlatform.toGeneralMessages
    referenceVersion referenceVersion_layout .idle referenceExchanges).1.mpr (by
      rintro ⟨exchange, mem, isFwVer⟩
      have noVersion : ∀ exchange ∈ referenceExchanges,
          exchange.req.id ≠ referencePlatform.fwVerReq := by decide
      exact absurd isFwVer (noVersion exchange mem))

/-- The major number of version 1.0.0 is read as 0. -/
theorem not_answered :
    let := referencePlatform
    ¬ ∀ exchanges, Answered .idle exchanges referenceVersion := by
  intro platform answered
  have decodes := answered [⟨⟨GeneralMessages.fwVerReq, 0⟩, fun _ => true⟩] [] _ [] rfl
  exact absurd (decodes.fwVer rfl).2.1 (by decide)

end Reference

end WavLpddr
