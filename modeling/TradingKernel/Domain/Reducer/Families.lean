/-
**The shapes that several branches of the reducer share.**

* `reported`: a refusal or an unknown outcome with its reason. The aggregate keeps everything but
  its status, and an incident opens.
* `orderAccepted`: an order identity is recorded, and the incident of an unknown outcome resolves.
* `absenceConfirmed`: a command is found absent after an unknown outcome.
* `closedUnfilled`: the ticket ends without a position, and gives back its budget and the lane.

Each member is the shape applied to the member's own statuses, texts and incident kinds.
-/

import TradingKernel.Domain.Reducer.Transition

namespace TradingKernel.Reducer

open Text Guard

variable {current : TradeAggregate} {event : TicketEvent} {result : Reduction}

/-! ### Reported outcomes -/

/-- After the guard, the reason has to be given; the status changes and an incident opens. -/
def reported (current : TradeAggregate) (event : TicketEvent) (guard : Reduced Unit)
    (reason reasonRequired : String) (status : AggregateStatus) (incidentKind : String) :
    Reduced Reduction := do
  guard
  refuse (Blank reason) ⟨reasonRequired⟩
  return transition current event status unchanged [current.openIncident incidentKind]

theorem reported_eq_ok {guard : Reduced Unit} {reason reasonRequired incidentKind : String}
    {status : AggregateStatus} :
    reported current event guard reason reasonRequired status incidentKind = .ok result ↔
      guard = .ok () ∧ ¬ Blank reason ∧
        result = transition current event status unchanged [current.openIncident incidentKind] := by
  rw [reported, bind_eq_ok]
  simp only [refuse_bind_eq_ok, pure_eq_ok]
  exact ⟨fun ⟨_, passed, rest⟩ => ⟨passed, rest⟩, fun ⟨passed, rest⟩ => ⟨(), passed, rest⟩⟩

/-! ### Accepted orders -/

/-- From one of the expected statuses, with an order identity that is stripped and recorded. -/
def orderAccepted (current : TradeAggregate) (event : TicketEvent) (expected : List AggregateStatus)
    (exchangeOrderId identityRequired : String) (status : AggregateStatus)
    (record : String → TradeAggregate → TradeAggregate) (unknown : AggregateStatus)
    (incidentKind : String) : Reduced Reduction := do
  requireStatusIn current expected
  refuse (strip exchangeOrderId = "") ⟨identityRequired⟩
  return transition current event status (record (strip exchangeOrderId))
    (current.resolveFrom unknown incidentKind)

theorem orderAccepted_eq_ok {expected : List AggregateStatus}
    {exchangeOrderId identityRequired incidentKind : String} {status unknown : AggregateStatus}
    {record : String → TradeAggregate → TradeAggregate} :
    orderAccepted current event expected exchangeOrderId identityRequired status record unknown
        incidentKind = .ok result ↔
      current.status ∈ expected ∧ ¬ Blank exchangeOrderId ∧
        result = transition current event status (record (strip exchangeOrderId))
          (current.resolveFrom unknown incidentKind) := by
  simp only [orderAccepted, requireStatusIn_bind_eq_ok, refuse_bind_eq_ok, pure_eq_ok, Blank]

/-! ### Confirmed absence -/

/-- From the unknown outcome, with the command's identity: the incident resolves, and what the
branch does about the absence follows. -/
def absenceConfirmed (current : TradeAggregate) (unknown : AggregateStatus)
    (commandId identityRequired : String) (outcome : Reduced Reduction) : Reduced Reduction := do
  requireStatus current unknown
  refuse (Blank commandId) ⟨identityRequired⟩
  outcome

theorem absenceConfirmed_eq_ok {unknown : AggregateStatus} {commandId identityRequired : String}
    {outcome : Reduced Reduction} :
    absenceConfirmed current unknown commandId identityRequired outcome = .ok result ↔
      current.status = unknown ∧ ¬ Blank commandId ∧ outcome = .ok result := by
  simp only [absenceConfirmed, requireStatus_bind_eq_ok, refuse_bind_eq_ok]

/-! ### Closing without a position -/

/-- The budget, the lane and the Owner's view are given back. -/
def releaseEntry (current : TradeAggregate) : List KernelEffect :=
  [.releaseBudget current.ticketId, .releaseEntryLane current.ticketId,
    .projectTerminalOwnerState current.ticketId]

def closedUnfilled (current : TradeAggregate) (event : TicketEvent) (status : AggregateStatus)
    (updates : TradeAggregate → TradeAggregate) (first : List KernelEffect) : Reduction :=
  transition current event status (fun current => { updates current with entryLaneHeld := false })
    (first ++ releaseEntry current)

end TradingKernel.Reducer
