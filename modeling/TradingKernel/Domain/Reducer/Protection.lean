/-
**Branches of the reducer: the initial stop, the stress gate, TP1 and the runner stop.**
-/

import TradingKernel.Domain.Reducer.Families

namespace TradingKernel.Reducer

open Text Guard

variable {current : TradeAggregate} {event : TicketEvent} {result : Reduction}

/-! ### The initial stop -/

/-- The confirmed stop covers the position at the Ticket's initial stop price. -/
def stopUpdates (exchangeOrderId : String) (protectedQty : ℚ) (current : TradeAggregate) :
    TradeAggregate :=
  { current with
    protectedQty := protectedQty
    initialStopExchangeOrderId := some (strip exchangeOrderId)
    activeStopExchangeOrderId := some (strip exchangeOrderId)
    activeStopPrice := some current.ticket.initialStopPrice }

/-- A hard overrun is flattened behind its stop; any other position is assessed next. The branch
that flattens leaves the incident of an unknown stop outcome open. -/
def stopConfirmed (current : TradeAggregate) (event : TicketEvent) (exchangeOrderId : String)
    (protectedQty : ℚ) : Reduction :=
  if current.postFillDisposition = some .flattenAfterProtection then
    transition current event .controlledFlattenPending (stopUpdates exchangeOrderId protectedQty)
      [.prepareControlledFlattenCommand current.ticketId current.positionQty]
  else
    transition current event .postFillRiskPending (stopUpdates exchangeOrderId protectedQty)
      (current.resolveFrom .initialStopOutcomeUnknown "initial_stop_outcome_unknown")

def initialStopConfirmed (current : TradeAggregate) (event : TicketEvent)
    (exchangeOrderId : String) (protectedQty : ℚ) : Reduced Reduction := do
  requireStatusIn current [.protectionPending, .initialStopOutcomeUnknown]
  refuse (protectedQty ≠ current.positionQty) ⟨"initial stop does not cover exact position"⟩
  refuse (Blank exchangeOrderId) ⟨"initial stop order identity is required"⟩
  return stopConfirmed current event exchangeOrderId protectedQty

theorem initialStopConfirmed_eq_ok {exchangeOrderId : String} {protectedQty : ℚ} :
    initialStopConfirmed current event exchangeOrderId protectedQty = .ok result ↔
      current.status ∈ [.protectionPending, .initialStopOutcomeUnknown] ∧
        protectedQty = current.positionQty ∧ ¬ Blank exchangeOrderId ∧
        result = stopConfirmed current event exchangeOrderId protectedQty := by
  simp only [initialStopConfirmed, requireStatusIn_bind_eq_ok, refuse_bind_eq_ok, pure_eq_ok,
    ne_eq, not_not]

/-- A position that got no stop: a retained partial is flattened, any other exits. -/
def initialStopMissing (current : TradeAggregate) (event : TicketEvent) (first : List KernelEffect)
    (partialKind kind : String) : Reduction :=
  if current.entryMaterializationKind = some .vacuumPartialRetained then
    transition current event .controlledFlattenPending unchanged
      (first ++ [current.openIncident partialKind,
        .prepareControlledFlattenCommand current.ticketId current.positionQty])
  else
    transition current event .exitPending unchanged
      (first ++ [current.openIncident kind,
        .prepareExitCommand current.ticketId current.positionQty kind])

def initialStopRejected (current : TradeAggregate) (event : TicketEvent) (reason : String) :
    Reduced Reduction := do
  requireStatus current .protectionPending
  refuse (Blank reason) ⟨"initial stop rejection requires reason"⟩
  return initialStopMissing current event [] "vacuum_partial_initial_stop_rejected"
    "initial_stop_rejected"

theorem initialStopRejected_eq_ok {reason : String} :
    initialStopRejected current event reason = .ok result ↔
      current.status = .protectionPending ∧ ¬ Blank reason ∧
        result = initialStopMissing current event [] "vacuum_partial_initial_stop_rejected"
          "initial_stop_rejected" := by
  simp only [initialStopRejected, requireStatus_bind_eq_ok, refuse_bind_eq_ok, pure_eq_ok]

def initialStopOutcomeUnknown (current : TradeAggregate) (event : TicketEvent) (reason : String) :
    Reduced Reduction :=
  reported current event (requireStatus current .protectionPending) reason
    "unknown initial stop outcome requires reason" .initialStopOutcomeUnknown
    "initial_stop_outcome_unknown"

def initialStopAbsenceConfirmed (current : TradeAggregate) (event : TicketEvent)
    (commandId : String) : Reduced Reduction :=
  absenceConfirmed current .initialStopOutcomeUnknown commandId
    "reconciled initial stop absence requires command identity"
    (.ok (initialStopMissing current event
      [current.resolveIncident "initial_stop_outcome_unknown"]
      "vacuum_partial_initial_stop_absent" "initial_stop_absent"))

/-! ### The stress gate -/

/-- The assessment names another policy, fill or stop than the protected exposure. -/
def differsFromExposure (current : TradeAggregate) (fact : PostFillStressAssessed) : Prop :=
  fact.ownerPolicyId ≠ current.ticket.ownerPolicyId.text ∨
    fact.ownerPolicyVersion ≠ current.ticket.ownerPolicyVersion ∨
    fact.filledQty ≠ current.positionQty ∨
    some fact.averageFillPrice ≠ current.averageFillPrice ∨
    fact.initialStopPrice ≠ current.ticket.initialStopPrice ∨
    some fact.initialStopExchangeOrderId ≠ current.initialStopExchangeOrderId

/-- The evidence was made for another account, side or price than the Ticket's. -/
def differsFromAuthority (current : TradeAggregate) (fact : PostFillStressAssessed) : Prop :=
  let request := fact.evidence.request
  let domain := current.identity.nettingDomain
  request.accountSnapshot.venueId ≠ domain.venueId ∨
    request.accountSnapshot.accountId ≠ domain.accountId ∨
    request.accountSnapshot.exchangeInstrumentId ≠ domain.exchangeInstrumentId ∨
    request.evaluatedSide ≠ domain.positionSide ∨
    request.referenceEntryPrice ≠ fact.averageFillPrice ∨
    request.initialStopPrice ≠ fact.initialStopPrice ∨
    request.postStopStressMultiple ≠ current.ticket.postStopStressMultiple

instance (current : TradeAggregate) (fact : PostFillStressAssessed) :
    Decidable (differsFromExposure current fact) :=
  inferInstanceAs (Decidable (_ ∨ _))

instance (current : TradeAggregate) (fact : PostFillStressAssessed) :
    Decidable (differsFromAuthority current fact) :=
  inferInstanceAs (Decidable (_ ∨ _))

def stressUpdates (fact : PostFillStressAssessed) (current : TradeAggregate) : TradeAggregate :=
  { current with
    postFillStressStatus := some fact.status
    postFillStressProofDigest := some fact.evidence.proof.proofDigest }

/-- The exit legs: the retained target where there is one, else the Ticket's own. -/
def tp1Quantities (current : TradeAggregate) : List ℚ :=
  if 0 < current.tp1TargetQty then [current.tp1TargetQty] else current.ticket.takeProfitQuantities

def stressFailed (current : TradeAggregate) (event : TicketEvent) (fact : PostFillStressAssessed) :
    Reduction :=
  transition current event .controlledFlattenPending (stressUpdates fact)
    [current.openIncident "post_fill_stress_failed",
      .prepareControlledFlattenCommand current.ticketId current.positionQty]

def stressPassed (current : TradeAggregate) (event : TicketEvent) (fact : PostFillStressAssessed)
    (tp1Quantity limitPrice : ℚ) : Reduction :=
  transition current event .tp1Pending
    (fun current => { stressUpdates fact current with
      entryLaneHeld := false
      tp1TargetQty := tp1Quantity })
    [.releaseEntryLane current.ticketId,
      .prepareTakeProfitCommand current.ticketId tp1Quantity limitPrice]

def postFillStressAssessed (current : TradeAggregate) (event : TicketEvent)
    (fact : PostFillStressAssessed) : Reduced Reduction := do
  requireStatus current .postFillRiskPending
  refuse (differsFromExposure current fact)
    ⟨"post-fill stress identity differs from protected exposure"⟩
  refuse (differsFromAuthority current fact)
    ⟨"post-fill stress evidence differs from Ticket authority"⟩
  if fact.status = .failed then
    return stressFailed current event fact
  else
    match current.ticket.takeProfitPrices, tp1Quantities current with
    | [limitPrice], [tp1Quantity] => do
        refuse (current.positionQty ≤ tp1Quantity) ⟨"TP1 must preserve a runner quantity"⟩
        return stressPassed current event fact tp1Quantity limitPrice
    | _, _ => .error ⟨"registered exit policy requires exactly one TP1 leg"⟩

/-- **The assessment, opened.** It failed and the position is flattened, or it passed with one TP1
leg that leaves a runner. -/
theorem postFillStressAssessed_eq_ok {fact : PostFillStressAssessed} :
    postFillStressAssessed current event fact = .ok result ↔
      current.status = .postFillRiskPending ∧ ¬ differsFromExposure current fact ∧
        ¬ differsFromAuthority current fact ∧
        (fact.status = .failed ∧ result = stressFailed current event fact ∨
          fact.status = .passed ∧ ∃ limitPrice tp1Quantity,
            current.ticket.takeProfitPrices = [limitPrice] ∧
              tp1Quantities current = [tp1Quantity] ∧ tp1Quantity < current.positionQty ∧
              result = stressPassed current event fact tp1Quantity limitPrice) := by
  simp only [postFillStressAssessed, requireStatus_bind_eq_ok, refuse_bind_eq_ok]
  refine and_congr_right fun _ => and_congr_right fun _ => and_congr_right fun _ => ?_
  cases status : fact.status with
  | failed => simp [pure_eq_ok]
  | passed =>
    simp only [reduceCtorEq, if_false, false_and, false_or, true_and]
    constructor
    · intro returned
      split at returned
      · rename_i limitPrice tp1Quantity prices quantities
        rw [refuse_bind_eq_ok, pure_eq_ok, not_le] at returned
        exact ⟨limitPrice, tp1Quantity, prices, quantities, returned⟩
      · simp at returned
    · rintro ⟨limitPrice, tp1Quantity, prices, quantities, smaller, rfl⟩
      rw [prices, quantities]
      exact refuse_bind_eq_ok.mpr ⟨not_le.mpr smaller, rfl⟩

/-! ### TP1 -/

/-- The branch also admits a position whose stress assessment is still pending. -/
def takeProfitConfirmed (current : TradeAggregate) (event : TicketEvent) (exchangeOrderId : String)
    (targetQty : ℚ) : Reduced Reduction := do
  requireStatusIn current [.tp1Pending, .postFillRiskPending, .tp1OutcomeUnknown]
  refuse (strip exchangeOrderId = "") ⟨"TP1 acceptance requires order identity"⟩
  refuse (targetQty ≠ current.tp1TargetQty) ⟨"TP1 accepted quantity differs from Ticket"⟩
  return transition current event .positionProtected
    (fun current => { current with tp1ExchangeOrderId := some (strip exchangeOrderId) })
    (current.resolveFrom .tp1OutcomeUnknown "take_profit_outcome_unknown")

theorem takeProfitConfirmed_eq_ok {exchangeOrderId : String} {targetQty : ℚ} :
    takeProfitConfirmed current event exchangeOrderId targetQty = .ok result ↔
      current.status ∈ [.tp1Pending, .postFillRiskPending, .tp1OutcomeUnknown] ∧
        ¬ Blank exchangeOrderId ∧ targetQty = current.tp1TargetQty ∧
        result = transition current event .positionProtected
          (fun current => { current with tp1ExchangeOrderId := some (strip exchangeOrderId) })
          (current.resolveFrom .tp1OutcomeUnknown "take_profit_outcome_unknown") := by
  simp only [takeProfitConfirmed, requireStatusIn_bind_eq_ok, refuse_bind_eq_ok, pure_eq_ok, Blank,
    ne_eq, not_not]

def takeProfitRejected (current : TradeAggregate) (event : TicketEvent) (reason : String) :
    Reduced Reduction :=
  reported current event (requireStatus current .tp1Pending) reason
    "TP1 rejection requires reason" .tp1Rejected "take_profit_rejected"

def takeProfitOutcomeUnknown (current : TradeAggregate) (event : TicketEvent) (reason : String) :
    Reduced Reduction :=
  reported current event (requireStatus current .tp1Pending) reason
    "TP1 unknown outcome requires reason" .tp1OutcomeUnknown "take_profit_outcome_unknown"

/-- The absent TP1 is prepared again at its frozen price. -/
def tp1Retried (current : TradeAggregate) (event : TicketEvent) (limitPrice : ℚ) : Reduction :=
  transition current event .tp1Pending unchanged
    [current.resolveIncident "take_profit_outcome_unknown",
      .prepareTakeProfitCommand current.ticketId current.tp1TargetQty limitPrice]

def takeProfitAbsenceConfirmed (current : TradeAggregate) (event : TicketEvent)
    (commandId : String) : Reduced Reduction :=
  absenceConfirmed current .tp1OutcomeUnknown commandId
    "reconciled TP1 absence requires command identity"
    (match current.ticket.takeProfitPrices with
      | [limitPrice] => .ok (tp1Retried current event limitPrice)
      | _ => .error ⟨"TP1 retry requires one frozen price"⟩)

theorem takeProfitAbsenceConfirmed_eq_ok {commandId : String} :
    takeProfitAbsenceConfirmed current event commandId = .ok result ↔
      current.status = .tp1OutcomeUnknown ∧ ¬ Blank commandId ∧
        ∃ limitPrice, current.ticket.takeProfitPrices = [limitPrice] ∧
          result = tp1Retried current event limitPrice := by
  rw [takeProfitAbsenceConfirmed, absenceConfirmed_eq_ok]
  refine and_congr_right fun _ => and_congr_right fun _ => ?_
  constructor
  · intro returned
    split at returned
    · rename_i limitPrice prices
      exact ⟨limitPrice, prices, (Except.ok.inj returned).symm⟩
    · simp at returned
  · rintro ⟨limitPrice, prices, rfl⟩
    rw [prices]

/-- The runner that a TP1 fill leaves, with the stop that has to be moved under it. -/
def tp1Filled (current : TradeAggregate) (event : TicketEvent) (fact : TakeProfitFilled)
    (activeStop : String) : Reduction :=
  transition current event .runnerReplacementPending
    (fun current => { current with
      positionQty := current.positionQty - fact.filledQty
      tp1FilledQty := fact.filledQty
      tp1ExchangeOrderId := none
      breakEvenFloorPrice := some fact.runnerFloorPrice
      pendingStopPrice := some fact.runnerFloorPrice
      pendingStopWatermarkMs := some event.occurredAtMs })
    [.prepareProtectionReplacementCommand current.ticketId (current.positionQty - fact.filledQty)
      fact.runnerFloorPrice activeStop event.occurredAtMs]

def takeProfitFilled (current : TradeAggregate) (event : TicketEvent) (fact : TakeProfitFilled) :
    Reduced Reduction := do
  requireStatus current .positionProtected
  refuse (fact.filledQty ≠ current.tp1TargetQty) ⟨"TP1 fill must equal the frozen target"⟩
  refuse (fact.averageFillPrice ≤ 0 ∨ fact.runnerFloorPrice ≤ 0)
    ⟨"TP1 fill and runner floor must be positive"⟩
  let activeStop ← demand current.activeStopExchangeOrderId
    ⟨"TP1 fill has no active stop to replace"⟩
  refuse (current.positionQty - fact.filledQty ≤ 0) ⟨"TP1 fill must preserve runner exposure"⟩
  return tp1Filled current event fact activeStop

theorem takeProfitFilled_eq_ok {fact : TakeProfitFilled} :
    takeProfitFilled current event fact = .ok result ↔
      current.status = .positionProtected ∧ fact.filledQty = current.tp1TargetQty ∧
        (0 < fact.averageFillPrice ∧ 0 < fact.runnerFloorPrice) ∧
        ∃ activeStop, current.activeStopExchangeOrderId = some activeStop ∧
          fact.filledQty < current.positionQty ∧
          result = tp1Filled current event fact activeStop := by
  simp only [takeProfitFilled, requireStatus_bind_eq_ok, refuse_bind_eq_ok, demand_bind_eq_ok,
    pure_eq_ok, ne_eq, not_not, not_or, not_le, sub_pos]

/-! ### The runner stop -/

/-- The stop moves towards the position's profit. -/
def improves (current : TradeAggregate) (stopPrice activePrice : ℚ) : Prop :=
  match current.identity.nettingDomain.positionSide with
  | .long => activePrice < stopPrice
  | .short => stopPrice < activePrice

instance (current : TradeAggregate) (stopPrice activePrice : ℚ) :
    Decidable (improves current stopPrice activePrice) := by
  delta improves
  cases current.identity.nettingDomain.positionSide <;> exact inferInstance

def runnerMoved (current : TradeAggregate) (event : TicketEvent) (stopPrice : ℚ)
    (sourceWatermarkMs : ℤ) (activeStop : String) : Reduction :=
  transition current event .runnerReplacementPending
    (fun current => { current with
      pendingStopPrice := some stopPrice
      pendingStopWatermarkMs := some sourceWatermarkMs })
    [.prepareProtectionReplacementCommand current.ticketId current.positionQty stopPrice activeStop
      sourceWatermarkMs]

def runnerStopRequested (current : TradeAggregate) (event : TicketEvent) (stopPrice : ℚ)
    (sourceWatermarkMs : ℤ) : Reduced Reduction := do
  requireStatus current .runnerProtected
  let activeStop ← demand current.activeStopExchangeOrderId
    ⟨"runner move requires active stop identity"⟩
  let activePrice ← demand current.activeStopPrice ⟨"runner move requires active stop price"⟩
  refuse (stopPrice ≤ 0 ∨ sourceWatermarkMs ≤ 0) ⟨"runner move requires price and watermark"⟩
  refuse (¬ improves current stopPrice activePrice) ⟨"runner stop must improve monotonically"⟩
  return runnerMoved current event stopPrice sourceWatermarkMs activeStop

theorem runnerStopRequested_eq_ok {stopPrice : ℚ} {sourceWatermarkMs : ℤ} :
    runnerStopRequested current event stopPrice sourceWatermarkMs = .ok result ↔
      current.status = .runnerProtected ∧
        ∃ activeStop, current.activeStopExchangeOrderId = some activeStop ∧
          ∃ activePrice, current.activeStopPrice = some activePrice ∧
            (0 < stopPrice ∧ 0 < sourceWatermarkMs) ∧ improves current stopPrice activePrice ∧
            result = runnerMoved current event stopPrice sourceWatermarkMs activeStop := by
  simp only [runnerStopRequested, requireStatus_bind_eq_ok, refuse_bind_eq_ok, demand_bind_eq_ok,
    pure_eq_ok, not_not, not_or, not_le]

/-- The replacement is the active stop now, and the stop it replaces is still to be cancelled. -/
def replaced (fact : ProtectionReplacementConfirmed) (current : TradeAggregate) : TradeAggregate :=
  { current with
    protectedQty := fact.protectedQty
    activeStopExchangeOrderId := some (strip fact.exchangeOrderId)
    activeStopPrice := some fact.stopPrice
    pendingReplacedStopExchangeOrderId := some fact.replacesExchangeOrderId
    pendingStopPrice := none
    pendingStopWatermarkMs := none
    runnerStopWatermarkMs := some fact.sourceWatermarkMs }

def protectionReplacementConfirmed (current : TradeAggregate) (event : TicketEvent)
    (fact : ProtectionReplacementConfirmed) : Reduced Reduction := do
  requireStatusIn current [.runnerReplacementPending, .runnerReplacementOutcomeUnknown]
  refuse (strip fact.exchangeOrderId = "") ⟨"protection replacement requires order identity"⟩
  refuse (fact.protectedQty ≠ current.positionQty)
    ⟨"protection replacement must cover exact runner quantity"⟩
  requireSameOrder fact.replacesExchangeOrderId current.activeStopExchangeOrderId
    "replaced stop identity mismatch"
  refuse (some fact.stopPrice ≠ current.pendingStopPrice ∨
      some fact.sourceWatermarkMs ≠ current.pendingStopWatermarkMs)
    ⟨"replacement terms differ from request"⟩
  return transition current event .runnerOldStopCancelPending (replaced fact)
    (current.resolveFrom .runnerReplacementOutcomeUnknown
        "protection_replacement_outcome_unknown" ++
      [.cancelProtectionOrders current.ticketId fact.replacesExchangeOrderId .conditional
        .runnerOldStop])

theorem protectionReplacementConfirmed_eq_ok {fact : ProtectionReplacementConfirmed} :
    protectionReplacementConfirmed current event fact = .ok result ↔
      current.status ∈ [.runnerReplacementPending, .runnerReplacementOutcomeUnknown] ∧
        ¬ Blank fact.exchangeOrderId ∧ fact.protectedQty = current.positionQty ∧
        current.activeStopExchangeOrderId = some fact.replacesExchangeOrderId ∧
        (some fact.stopPrice = current.pendingStopPrice ∧
          some fact.sourceWatermarkMs = current.pendingStopWatermarkMs) ∧
        result = transition current event .runnerOldStopCancelPending (replaced fact)
          (current.resolveFrom .runnerReplacementOutcomeUnknown
              "protection_replacement_outcome_unknown" ++
            [.cancelProtectionOrders current.ticketId fact.replacesExchangeOrderId .conditional
              .runnerOldStop]) := by
  simp only [protectionReplacementConfirmed, requireStatusIn_bind_eq_ok, refuse_bind_eq_ok,
    requireSameOrder_bind_eq_ok, pure_eq_ok, Blank, ne_eq, not_not, not_or]

def protectionReplacementRejected (current : TradeAggregate) (event : TicketEvent)
    (reason : String) : Reduced Reduction :=
  reported current event (requireStatus current .runnerReplacementPending) reason
    "protection replacement rejection requires reason" .runnerReplacementRejected
    "protection_replacement_rejected"

def protectionReplacementOutcomeUnknown (current : TradeAggregate) (event : TicketEvent)
    (reason : String) : Reduced Reduction :=
  reported current event (requireStatus current .runnerReplacementPending) reason
    "protection replacement unknown outcome requires reason" .runnerReplacementOutcomeUnknown
    "protection_replacement_outcome_unknown"

/-- The absent replacement is prepared again on its pending terms. -/
def replacementRetried (current : TradeAggregate) (event : TicketEvent) (activeStop : String)
    (stopPrice : ℚ) (watermarkMs : ℤ) : Reduction :=
  transition current event .runnerReplacementPending unchanged
    [current.resolveIncident "protection_replacement_outcome_unknown",
      .prepareProtectionReplacementCommand current.ticketId current.positionQty stopPrice
        activeStop watermarkMs]

def protectionReplacementAbsenceConfirmed (current : TradeAggregate) (event : TicketEvent)
    (commandId : String) : Reduced Reduction :=
  absenceConfirmed current .runnerReplacementOutcomeUnknown commandId
    "reconciled replacement absence requires command identity" do
      let activeStop ← demand current.activeStopExchangeOrderId
        ⟨"replacement retry requires exact pending terms"⟩
      let stopPrice ← demand current.pendingStopPrice
        ⟨"replacement retry requires exact pending terms"⟩
      let watermarkMs ← demand current.pendingStopWatermarkMs
        ⟨"replacement retry requires exact pending terms"⟩
      return replacementRetried current event activeStop stopPrice watermarkMs

theorem protectionReplacementAbsenceConfirmed_eq_ok {commandId : String} :
    protectionReplacementAbsenceConfirmed current event commandId = .ok result ↔
      current.status = .runnerReplacementOutcomeUnknown ∧ ¬ Blank commandId ∧
        ∃ activeStop, current.activeStopExchangeOrderId = some activeStop ∧
          ∃ stopPrice, current.pendingStopPrice = some stopPrice ∧
            ∃ watermarkMs, current.pendingStopWatermarkMs = some watermarkMs ∧
              result = replacementRetried current event activeStop stopPrice watermarkMs := by
  simp only [protectionReplacementAbsenceConfirmed, absenceConfirmed_eq_ok, demand_bind_eq_ok,
    pure_eq_ok]

end TradingKernel.Reducer
