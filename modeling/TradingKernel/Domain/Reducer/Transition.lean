/-
**What every branch of the reducer is made of: status requirements, the transition, the cleanup
list.**

A branch is a chain of refusals that ends in `transition`. The lemmas named `_bind_eq_ok` open such
a chain from the front, and `transition` shows each field of the aggregate it leaves
(`transition_aggregate_status` and its siblings).
-/

import Mathlib.Tactic.Simps.Basic
import TradingKernel.Domain.Events
import TradingKernel.Lib.Guard

namespace TradingKernel

open Text Guard

/-! ### Refusals -/

/-- An event contradicts the Ticket's lifecycle truth. -/
structure InvalidLifecycleTransition where
  message : String
  deriving DecidableEq, Repr

/-- The aggregate after an event, and the effects it asks for. -/
structure Reduction where
  aggregate : TradeAggregate
  effects : List KernelEffect

/-- The result of one event. -/
abbrev Reduced (α : Type) := Except InvalidLifecycleTransition α

def requireStatus (current : TradeAggregate) (expected : AggregateStatus) : Reduced Unit :=
  refuse (current.status ≠ expected)
    ⟨"event requires " ++ expected.value ++ ", current is " ++ current.status.value⟩

def requireStatusIn (current : TradeAggregate) (expected : List AggregateStatus) : Reduced Unit :=
  let allowed := ", ".intercalate ((expected.map AggregateStatus.value).mergeSort fun x y => x ≤ y)
  refuse (current.status ∉ expected)
    ⟨"event requires one of " ++ allowed ++ ", current is " ++ current.status.value⟩

/-- The event is about another order than the one the aggregate holds. -/
def requireSameOrder (exchangeOrderId : String) (held : Option String) (message : String) :
    Reduced Unit :=
  refuse (some exchangeOrderId ≠ held) ⟨message⟩

section Opening

variable {α : Type} {current : TradeAggregate} {next : Unit → Reduced α} {value : α}

theorem requireStatus_bind_eq_ok {expected : AggregateStatus} :
    (requireStatus current expected >>= next) = .ok value ↔
      current.status = expected ∧ next () = .ok value := by
  rw [requireStatus, refuse_bind_eq_ok, not_not]

theorem requireStatus_eq_ok {expected : AggregateStatus} {done : Unit} :
    requireStatus current expected = .ok done ↔ current.status = expected := by
  rw [requireStatus, refuse_eq_ok, not_not]

theorem requireStatusIn_eq_ok {expected : List AggregateStatus} {done : Unit} :
    requireStatusIn current expected = .ok done ↔ current.status ∈ expected := by
  rw [requireStatusIn, refuse_eq_ok, not_not]

theorem requireStatusIn_bind_eq_ok {expected : List AggregateStatus} :
    (requireStatusIn current expected >>= next) = .ok value ↔
      current.status ∈ expected ∧ next () = .ok value := by
  rw [requireStatusIn, refuse_bind_eq_ok, not_not]

theorem requireSameOrder_bind_eq_ok {exchangeOrderId message : String} {held : Option String} :
    (requireSameOrder exchangeOrderId held message >>= next) = .ok value ↔
      held = some exchangeOrderId ∧ next () = .ok value := by
  rw [requireSameOrder, refuse_bind_eq_ok, not_not, eq_comm (a := held)]

end Opening

/-! ### The transition -/

/-- The next aggregate: the updates, with the new status, version and sequence. -/
@[simps] def transition (current : TradeAggregate) (event : TicketEvent) (status : AggregateStatus)
    (updates : TradeAggregate → TradeAggregate) (effects : List KernelEffect) : Reduction where
  aggregate := { updates current with
    status := status
    version := current.version + 1
    lastEventSequence := event.sequence }
  effects := effects

/-- No field but the status, the version and the sequence changes. -/
def unchanged (current : TradeAggregate) : TradeAggregate := current

namespace TradeAggregate

variable (current : TradeAggregate)

def ticketId : String := current.identity.ticketId

def openIncident (incidentKind : String) : KernelEffect :=
  .openIncident current.ticketId incidentKind

def resolveIncident (incidentKind : String) : KernelEffect :=
  .resolveIncident current.ticketId incidentKind

/-- The incident of an unknown outcome is resolved when the event comes out of that status. -/
def resolveFrom (unknown : AggregateStatus) (incidentKind : String) : List KernelEffect :=
  if current.status = unknown then [current.resolveIncident incidentKind] else []

/-- The same for the unknown outcome of a cancel, whose command is found absent as well. -/
def resolveCancelFrom (unknown : AggregateStatus) (exchangeOrderId incidentKind : String) :
    List KernelEffect :=
  if current.status = unknown then
    [.markCancelCommandReconciledAbsent current.ticketId exchangeOrderId,
      current.resolveIncident incidentKind]
  else []

end TradeAggregate

/-! ### The order ids to clean up -/

/-- The distinct order ids that may still be open at the venue: TP1, active stop, initial stop. -/
def knownCleanupOrderIds (current : TradeAggregate) : List String :=
  ([current.tp1ExchangeOrderId, current.activeStopExchangeOrderId,
    current.initialStopExchangeOrderId].filterMap id).eraseDups

def nextCleanupOrderId (current : TradeAggregate) : Option String :=
  (knownCleanupOrderIds current).head?

/-- An order id that is no longer held once that order is accounted for. -/
def forget (exchangeOrderId : String) (held : Option String) : Option String :=
  if held = some exchangeOrderId then none else held

/-- The order is gone: no cancel is pending, and no field holds its id; without an active stop
nothing is protected. -/
def clearCleanupOrder (exchangeOrderId : String) (current : TradeAggregate) : TradeAggregate :=
  { current with
    pendingCancelExchangeOrderId := none
    tp1ExchangeOrderId := forget exchangeOrderId current.tp1ExchangeOrderId
    activeStopExchangeOrderId := forget exchangeOrderId current.activeStopExchangeOrderId
    activeStopPrice :=
      if current.activeStopExchangeOrderId = some exchangeOrderId then none
      else current.activeStopPrice
    protectedQty :=
      if current.activeStopExchangeOrderId = some exchangeOrderId then 0 else current.protectedQty
    initialStopExchangeOrderId := forget exchangeOrderId current.initialStopExchangeOrderId }

section Cleanup

variable {current : TradeAggregate} {exchangeOrderId : String}

theorem mem_knownCleanupOrderIds : exchangeOrderId ∈ knownCleanupOrderIds current ↔
    current.tp1ExchangeOrderId = some exchangeOrderId ∨
      current.activeStopExchangeOrderId = some exchangeOrderId ∨
      current.initialStopExchangeOrderId = some exchangeOrderId := by
  simp [knownCleanupOrderIds, eq_comm]

/-- Nothing is left to clean up exactly when none of the three ids is held. -/
theorem knownCleanupOrderIds_eq_nil : knownCleanupOrderIds current = [] ↔
    current.tp1ExchangeOrderId = none ∧ current.activeStopExchangeOrderId = none ∧
      current.initialStopExchangeOrderId = none := by
  simp only [List.eq_nil_iff_forall_not_mem, mem_knownCleanupOrderIds, not_or,
    Option.eq_none_iff_forall_ne_some, ne_eq]
  exact ⟨fun none => ⟨fun id => (none id).1, fun id => (none id).2.1, fun id => (none id).2.2⟩,
    fun none id => ⟨none.1 id, none.2.1 id, none.2.2 id⟩⟩

theorem nextCleanupOrderId_mem (next : nextCleanupOrderId current = some exchangeOrderId) :
    exchangeOrderId ∈ knownCleanupOrderIds current :=
  List.mem_of_mem_head? next

theorem nextCleanupOrderId_eq_none : nextCleanupOrderId current = none ↔
    knownCleanupOrderIds current = [] := by
  rw [nextCleanupOrderId, List.head?_eq_none_iff]

theorem forget_eq_some {held : Option String} {other : String} :
    forget exchangeOrderId held = some other ↔ held = some other ∧ other ≠ exchangeOrderId := by
  unfold forget
  split_ifs with same
  · rw [same]
    simp [eq_comm]
  · constructor
    · intro kept
      exact ⟨kept, fun equal => same (equal ▸ kept)⟩
    · exact fun kept => kept.1

end Cleanup

end TradingKernel
