/-
**`reduce_event`: one event on the lifecycle of one Ticket.**

The first event issues the Ticket. Every later one has to be about this Ticket and next in
sequence, and is then decided by the branch of its fact.
-/

import TradingKernel.Domain.Reducer.Closing
import TradingKernel.Domain.Reducer.Entry
import TradingKernel.Domain.Reducer.Protection
import TradingKernel.Domain.Reducer.Vacuum

namespace TradingKernel

open Guard

/-! ### Issue -/

/-- The lifecycle of a Ticket that has just been issued. -/
def issuedAggregate (ticket : TradeTicket) (sequence : ℤ) : TradeAggregate where
  identity := ticket.identity
  ticket := ticket
  status := if ticket.leverageChangeRequired then .leveragePending else .entryPending
  version := 1
  lastEventSequence := sequence

def issuedEffects (ticket : TradeTicket) : List KernelEffect :=
  if ticket.leverageChangeRequired then [.prepareSetLeverageCommand ticket]
  else [.prepareEntryCommand ticket none]

def issueTicket (event : TradeEvent) : Reduced Reduction :=
  match event with
  | .ticketIssued header ticket => do
      refuse (header.sequence ≠ 1) ⟨"first event sequence must be one"⟩
      return ⟨issuedAggregate ticket header.sequence, issuedEffects ticket⟩
  | .ticketEvent _ => .error ⟨"first event must issue a Ticket"⟩

/-! ### Later events -/

def requireEventIdentityAndSequence (current : TradeAggregate) (event : TradeEvent) :
    Reduced TicketEvent :=
  match event with
  | .ticketIssued _ _ => .error ⟨"Ticket cannot be issued twice"⟩
  | .ticketEvent event => do
      refuse (event.ticketId ≠ current.identity.ticketId) ⟨"event Ticket identity mismatch"⟩
      refuse (event.sequence ≠ current.lastEventSequence + 1)
        ⟨"event sequence is not monotonic"⟩
      return event

/-- The branch of an event's fact. -/
def reduceFact (current : TradeAggregate) (event : TicketEvent) : TicketFact → Reduced Reduction
  | .leverageConfirmed fact => Reducer.leverageConfirmed current event fact
  | .leverageRejected reason => Reducer.leverageRejected current event reason
  | .leverageOutcomeUnknown reason => Reducer.leverageOutcomeUnknown current event reason
  | .entryAccepted id => Reducer.entryAccepted current event id
  | .entryRejected _ => Reducer.entryRejected current event
  | .entryOutcomeUnknown reason => Reducer.entryOutcomeUnknown current event reason
  | .entryAbsenceConfirmed commandId => Reducer.entryAbsenceConfirmed current event commandId
  | .entryFilled fact => Reducer.entryFilled current event fact
  | .entryPartiallyFilled filled requested price =>
      Reducer.entryPartiallyFilled current event filled requested price
  | .entryRemainderCancelConfirmed id => Reducer.entryRemainderCancelConfirmed current event id
  | .entryRemainderCancelRejected id reason =>
      Reducer.entryRemainderCancelRejected current event id reason
  | .entryRemainderCancelOutcomeUnknown id reason =>
      Reducer.entryRemainderCancelOutcomeUnknown current event id reason
  | .entryVacuumSuperseded fact => Reducer.entryVacuumSuperseded current event fact
  | .entryVacuumCancelRequested fact => Reducer.entryVacuumCancelRequested current event fact
  | .entryVacuumCancelConfirmed id => Reducer.entryVacuumCancelConfirmed current event id
  | .entryVacuumCancelRejected id _ => Reducer.entryVacuumCancelRejected current event id
  | .entryVacuumCancelOutcomeUnknown id _ =>
      Reducer.entryVacuumCancelOutcomeUnknown current event id
  | .entryVacuumOrderAbsenceConfirmed fact =>
      Reducer.entryVacuumOrderAbsenceConfirmed current event fact
  | .vacuumLateFillAttributed fact => Reducer.vacuumLateFillAttributed current event fact
  | .vacuumPostAbsenceNoFillVerified fact =>
      Reducer.vacuumPostAbsenceNoFillVerified current event fact
  | .entryVacuumAbsenceConfirmed vacuumId =>
      Reducer.entryVacuumAbsenceConfirmed current event vacuumId
  | .vacuumPartialRetained fact => Reducer.vacuumPartialRetained current event fact
  | .vacuumPartialFlattenRequired fact => Reducer.vacuumPartialFlattenRequired current event fact
  | .initialStopConfirmed id protectedQty =>
      Reducer.initialStopConfirmed current event id protectedQty
  | .postFillStressAssessed fact => Reducer.postFillStressAssessed current event fact
  | .initialStopRejected reason => Reducer.initialStopRejected current event reason
  | .initialStopOutcomeUnknown reason => Reducer.initialStopOutcomeUnknown current event reason
  | .initialStopAbsenceConfirmed commandId =>
      Reducer.initialStopAbsenceConfirmed current event commandId
  | .takeProfitConfirmed id targetQty => Reducer.takeProfitConfirmed current event id targetQty
  | .takeProfitRejected reason => Reducer.takeProfitRejected current event reason
  | .takeProfitOutcomeUnknown reason => Reducer.takeProfitOutcomeUnknown current event reason
  | .takeProfitAbsenceConfirmed commandId =>
      Reducer.takeProfitAbsenceConfirmed current event commandId
  | .takeProfitFilled fact => Reducer.takeProfitFilled current event fact
  | .runnerStopRequested stopPrice watermarkMs =>
      Reducer.runnerStopRequested current event stopPrice watermarkMs
  | .protectionReplacementConfirmed fact =>
      Reducer.protectionReplacementConfirmed current event fact
  | .protectionReplacementRejected reason =>
      Reducer.protectionReplacementRejected current event reason
  | .protectionReplacementOutcomeUnknown reason =>
      Reducer.protectionReplacementOutcomeUnknown current event reason
  | .protectionReplacementAbsenceConfirmed commandId =>
      Reducer.protectionReplacementAbsenceConfirmed current event commandId
  | .exitRequested reason => Reducer.exitRequested current event reason
  | .exitAccepted id => Reducer.exitAccepted current event id
  | .exitRejected reason => Reducer.exitRejected current event reason
  | .exitOutcomeUnknown reason => Reducer.exitOutcomeUnknown current event reason
  | .exitAbsenceConfirmed commandId => Reducer.exitAbsenceConfirmed current event commandId
  | .controlledFlattenAccepted id => Reducer.controlledFlattenAccepted current event id
  | .controlledFlattenRejected reason => Reducer.controlledFlattenRejected current event reason
  | .controlledFlattenOutcomeUnknown reason =>
      Reducer.controlledFlattenOutcomeUnknown current event reason
  | .controlledFlattenAbsenceConfirmed commandId =>
      Reducer.controlledFlattenAbsenceConfirmed current event commandId
  | .positionFlatConfirmed => Reducer.positionFlatConfirmed current event
  | .externalFlatDetected => Reducer.externalFlatDetected current event
  | .ownedOrphanOrderDetected id orderNamespace =>
      Reducer.ownedOrphanOrderDetected current event id orderNamespace
  | .ownedOrderAbsenceConfirmed id => Reducer.ownedOrderAbsenceConfirmed current event id
  | .unownedOrderDetected id => Reducer.unownedOrderDetected current event id
  | .protectionCancelConfirmed id => Reducer.protectionCancelConfirmed current event id
  | .protectionCancelRejected id reason =>
      Reducer.protectionCancelRejected current event id reason
  | .protectionCancelOutcomeUnknown id reason =>
      Reducer.protectionCancelOutcomeUnknown current event id reason
  | .protectionCancelAbsenceConfirmed id =>
      Reducer.protectionCancelAbsenceConfirmed current event id
  | .ownedOrphanCancelConfirmed id => Reducer.ownedOrphanCancelConfirmed current event id
  | .cancelOrderRejected id reason => Reducer.cancelOrderRejected current event id reason
  | .cancelOrderOutcomeUnknown id reason =>
      Reducer.cancelOrderOutcomeUnknown current event id reason
  | .cancelOrderAbsenceConfirmed id => Reducer.cancelOrderAbsenceConfirmed current event id
  | .cancelOrderStillOpenConfirmed id => Reducer.cancelOrderStillOpenConfirmed current event id
  | .reconciliationMatched _ => Reducer.reconciliationMatched current event
  | .budgetSettled => Reducer.budgetSettled current event
  | .reviewRecorded reviewId => Reducer.reviewRecorded current event reviewId
  | .reviewRevised reviewId supersedesReviewId =>
      Reducer.reviewRevised current event reviewId supersedesReviewId

/-- The reduction of one event. -/
def reduceEvent (current : Option TradeAggregate) (event : TradeEvent) : Reduced Reduction :=
  match current with
  | none => issueTicket event
  | some current => do
      let event ← requireEventIdentityAndSequence current event
      reduceFact current event event.fact

/-! ### What an accepted event is -/

/-- An event is accepted without a Ticket exactly when it issues one. -/
theorem reduceEvent_none_eq_ok {event : TradeEvent} {result : Reduction} :
    reduceEvent none event = .ok result ↔ ∃ header ticket, event = .ticketIssued header ticket ∧
      header.sequence = 1 ∧ result = ⟨issuedAggregate ticket 1, issuedEffects ticket⟩ := by
  cases event with
  | ticketEvent event => simp [reduceEvent, issueTicket]
  | ticketIssued header ticket =>
    simp only [reduceEvent, issueTicket, refuse_bind_eq_ok, pure_eq_ok, ne_eq, not_not]
    constructor
    · rintro ⟨first, rfl⟩
      exact ⟨header, ticket, rfl, first, by rw [first]⟩
    · rintro ⟨_, _, same, first, rfl⟩
      obtain ⟨rfl, rfl⟩ := TradeEvent.ticketIssued.inj same
      exact ⟨first, by rw [first]⟩

/-- An event is accepted on a lifecycle exactly when it is the Ticket's next and its branch accepts
its fact. -/
theorem reduceEvent_some_eq_ok {current : TradeAggregate} {event : TradeEvent}
    {result : Reduction} :
    reduceEvent (some current) event = .ok result ↔ ∃ next : TicketEvent,
      event = .ticketEvent next ∧ next.ticketId = current.identity.ticketId ∧
        next.sequence = current.lastEventSequence + 1 ∧
        reduceFact current next next.fact = .ok result := by
  cases event with
  | ticketIssued header ticket =>
    simp [reduceEvent, requireEventIdentityAndSequence, bind_eq_ok]
  | ticketEvent next =>
    rw [reduceEvent, bind_eq_ok]
    simp only [requireEventIdentityAndSequence, refuse_bind_eq_ok, pure_eq_ok, ne_eq, not_not]
    constructor
    · rintro ⟨_, ⟨same, order, rfl⟩, reduced⟩
      exact ⟨_, rfl, same, order, reduced⟩
    · rintro ⟨other, equal, same, order, reduced⟩
      obtain rfl := TradeEvent.ticketEvent.inj equal
      exact ⟨_, ⟨same, order, rfl⟩, reduced⟩

end TradingKernel
