/-
**The side effects a reduction asks for.**
-/

import TradingKernel.Domain.Ticket

namespace TradingKernel

inductive OrderNamespace where
  | regular
  | conditional
  deriving DecidableEq, Repr

inductive CancelPurpose where
  | entryRemainder
  | selectionVacuumEntry
  | reconciliationCleanup
  | runnerOldStop
  deriving DecidableEq, Repr

inductive KernelEffect where
  | prepareEntryCommand (ticket : TradeTicket) (leverageVerificationDigest : Option String)
  | prepareSetLeverageCommand (ticket : TradeTicket)
  | prepareInitialStopCommand (ticketId : String) (quantity stopPrice : ℚ)
  | prepareTakeProfitCommand (ticketId : String) (quantity limitPrice : ℚ)
  | prepareProtectionReplacementCommand (ticketId : String) (quantity stopPrice : ℚ)
      (replacesExchangeOrderId : String) (sourceWatermarkMs : ℤ)
  | prepareExitCommand (ticketId : String) (quantity : ℚ) (reason : String)
  | cancelEntryRemainder (ticketId : String)
  | cancelVacuumEntryOrder (ticketId exchangeOrderId entryVacuumId : String)
  | requestControlledFlatten (ticketId : String) (quantity : ℚ)
  | prepareControlledFlattenCommand (ticketId : String) (quantity : ℚ)
  | cancelProtectionOrders (ticketId exchangeOrderId : String) (orderNamespace : OrderNamespace)
      (purpose : CancelPurpose)
  | markCancelCommandReconciledAbsent (ticketId exchangeOrderId : String)
  | openIncident (ticketId incidentKind : String)
  | resolveIncident (ticketId incidentKind : String)
  | resolveTicketIncidentsAtClosure (ticketId : String)
  | releaseEntryLane (ticketId : String)
  | releaseCapitalAuthorities (ticketId accountCapacityDomainKey nettingDomainKey : String)
      (notional riskAtStop reservedMargin : ℚ) (releasedAtMs : ℤ)
  | releaseBudget (ticketId : String)
  | projectTerminalOwnerState (ticketId : String)

end TradingKernel
