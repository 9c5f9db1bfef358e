import WavLpddr.PhyTask

/-!
# Interrupt handlers

Each handler clears its cause and puts a message into the firmware's queue, which
drops it when it is full.  Handlers of one-shot events also disable their line.  The
handler of controller updates reads the latches before it clears them, and the
controller may move on in between.
-/

namespace WavLpddr

/-- An edge of the controller's update request, which its own latch remembers. -/
inductive CtrlupdEdge
  | assertion | deassertion
deriving DecidableEq, Repr

/-- The latch of the edge. -/
def CtrlupdEdge.source : CtrlupdEdge → DdrIrq
  | .assertion => .ctrlupdReqAssertion
  | .deassertion => .ctrlupdReqDeassertion

namespace Irq

/-- The sources of a line in the fast-interrupt registers. -/
def sources : IrqLine → List DdrIrq
  | .initStart => [.initStart]
  | .initComplete => [.initComplete]
  | .pll => []
  | .ctrlupdReq => [.ctrlupdReqAssertion, .ctrlupdReqDeassertion]
  | .phyupdAck => [.phyupdAck]
  | .phymstrAck => [.phymstrAck]

/-- A latched source of the line that is not masked. -/
def pending (line : IrqLine) (irq : Irq) : Bool :=
  (sources line).any fun source => irq.status source && !irq.mask source

/-- The hardware latches a source. -/
def raise (source : DdrIrq) (irq : Irq) : Irq :=
  { irq with status := Function.update irq.status source true }

/-- The hardware latches the edges. -/
def raiseEdges (edges : List CtrlupdEdge) (irq : Irq) : Irq :=
  edges.foldl (fun irq edge => irq.raise edge.source) irq

/-- The latches of both edges. -/
def ctrlupdSources : List DdrIrq := [.ctrlupdReqAssertion, .ctrlupdReqDeassertion]

theorem clear_raise {source : DdrIrq} {sources : List DdrIrq} (cleared : source ∈ sources)
    (irq : Irq) : (irq.raise source).clear sources = irq.clear sources := by
  unfold clear raise
  congr 1
  funext other
  by_cases listed : other ∈ sources
  · rw [if_pos listed, if_pos listed]
  · have differs : other ≠ source := fun same => listed (same ▸ cleared)
    rw [if_neg listed, if_neg listed]
    exact Function.update_of_ne differs _ _

/-- An edge that is latched before the clearing leaves no trace. -/
theorem clear_raiseEdges (edges : List CtrlupdEdge) (irq : Irq) :
    (irq.raiseEdges edges).clear ctrlupdSources = irq.clear ctrlupdSources := by
  induction edges generalizing irq with
  | nil => rfl
  | cons edge rest inductionHypothesis =>
      have cleared : edge.source ∈ ctrlupdSources := by
        cases edge <;> decide
      exact (inductionHypothesis _).trans (clear_raise cleared irq)

end Irq

namespace Pll

variable [KernelIo]

/-- A cause that is latched and enabled. -/
def causePending (pll : Pll) (cause enable : RegField) : Bool :=
  pll.statusInt &&& cause.mask != 0 &&
    getRegField (pll.regs (pll.base + ddrMvpPllCoreStatusIntEnAdr)) enable != 0

def interruptPending (pll : Pll) : Bool :=
  pll.causePending ddrMvpPllCoreStatusIntLossOfLock ddrMvpPllCoreStatusIntEnLossOfLockIntEn ||
    pll.causePending ddrMvpPllCoreStatusIntCoreLocked ddrMvpPllCoreStatusIntEnCoreLockedIntEn ||
    pll.causePending ddrMvpPllCoreStatusIntInitialSwitchDone
      ddrMvpPllCoreStatusIntEnInitialSwitchDoneIntEn

end Pll

namespace Fw

variable [KernelIo]

/-- `xQueueSendToBack` without waiting: nothing is queued when there is no room. -/
def sendToBack (msg : FwMsg) (fw : Fw) : Fw :=
  if fw.mq.length < msgQueueLen then { fw with mq := fw.mq ++ [msg] } else fw

/-- `fw_phy_task_notify_isr` with an event and no data or sender. -/
def notifyIsr (event : FwPhyEvent) (fw : Fw) : Fw :=
  fw.sendToBack ⟨event.code, .null, none⟩

def onIrq (update : Irq → Irq) (fw : Fw) : Fw :=
  { fw with wddr := fw.wddr.onIrq update }

/-- The handlers of one-shot interrupts, which differ in the line, the source and
the event. -/
def handleOneShotIrq (line : IrqLine) (source : DdrIrq) (event : FwPhyEvent) (fw : Fw) : Fw :=
  let fw := fw.onIrq (Irq.disableIrq line)
  let fw := fw.onIrq (Irq.clear [source])
  fw.notifyIsr event

def handleInitStartIrq : Fw → Fw :=
  handleOneShotIrq .initStart .initStart .initStart

def handleInitCompleteIrq : Fw → Fw :=
  handleOneShotIrq .initComplete .initComplete .initComplete

def handleDfiPhymstrAckIrq : Fw → Fw :=
  handleOneShotIrq .phymstrAck .phymstrAck .phymstrAck

def handleDfiPhyupdAckIrq : Fw → Fw :=
  handleOneShotIrq .phyupdAck .phyupdAck .phyupdAck

/-- Both causes are cleared, whatever was read, and an assertion hides a deassertion.  The
`late` edges are latched after the read and before the clearing is over. -/
def handleDfiCtrlupdReqIrq (late : List CtrlupdEdge) (fw : Fw) : Fw :=
  let status := fw.wddr.irq.status
  let fw := fw.onIrq (Irq.raiseEdges late)
  let fw := fw.onIrq (Irq.clear Irq.ctrlupdSources)
  if status .ctrlupdReqAssertion then fw.notifyIsr .ctrlupdAssert
  else if status .ctrlupdReqDeassertion then fw.notifyIsr .ctrlupdDeassert
  else fw

/-- The event that the PLL's handler reports for a status word. -/
def pllEvent (status : Word) : Option FwPhyEvent :=
  if status &&& ddrMvpPllCoreStatusIntLossOfLock.mask ≠ 0 then some .pllLossLock
  else if status &&& ddrMvpPllCoreStatusIntCoreLocked.mask ≠ 0 then some .pllLock
  else if status &&& ddrMvpPllCoreStatusIntInitialSwitchDone.mask ≠ 0 then some .pllInitLock
  else none

/-- The handler's message is not initialised: its data and sender are whatever the
stack held.  It clears what it read, so that a later cause stays latched. -/
def pllIrqHandler (data : MsgData) (xSender : Option TaskHandle) (fw : Fw) : Fw :=
  let status := fw.wddr.pll.statusInt
  let fw := { fw with wddr := fw.wddr.onPll Pll.clearStatusInt }
  match pllEvent status with
  | some event => fw.sendToBack ⟨event.code, data, xSender⟩
  | none => fw

/-- Whether the handler of a line can run now. -/
def interruptible (line : IrqLine) (fw : Fw) : Bool :=
  fw.wddr.irq.enabled line &&
    match line with
    | .pll => fw.wddr.pll.interruptPending
    | line => fw.wddr.irq.pending line

/-- Run the handler of a line.  The stale message matters for the PLL only, the late edges
for the controller's updates only. -/
def runIsr (line : IrqLine) (data : MsgData) (xSender : Option TaskHandle)
    (late : List CtrlupdEdge) : Fw → Fw :=
  match line with
  | .initStart => handleInitStartIrq
  | .initComplete => handleInitCompleteIrq
  | .pll => pllIrqHandler data xSender
  | .ctrlupdReq => handleDfiCtrlupdReqIrq late
  | .phyupdAck => handleDfiPhyupdAckIrq
  | .phymstrAck => handleDfiPhymstrAckIrq

omit [KernelIo] in
theorem handleDfiCtrlupdReqIrq_late (late : List CtrlupdEdge) (fw : Fw) :
    handleDfiCtrlupdReqIrq late fw = handleDfiCtrlupdReqIrq [] fw := by
  have same : (fw.onIrq (Irq.raiseEdges late)).onIrq (Irq.clear Irq.ctrlupdSources) =
      fw.onIrq (Irq.clear Irq.ctrlupdSources) :=
    congrArg (fun irq => { fw with wddr := { fw.wddr with irq := irq } })
      (Irq.clear_raiseEdges late fw.wddr.irq)
  simp only [handleDfiCtrlupdReqIrq, same]
  rfl

omit [KernelIo] in
/-- The late edges change nothing that the firmware can see. -/
theorem runIsr_late (line : IrqLine) (data : MsgData) (xSender : Option TaskHandle)
    (late : List CtrlupdEdge) (fw : Fw) :
    fw.runIsr line data xSender late = fw.runIsr line data xSender [] := by
  cases line with
  | ctrlupdReq => exact handleDfiCtrlupdReqIrq_late late fw
  | _ => rfl

end Fw

end WavLpddr
