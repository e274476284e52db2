/-
**The review of a closed Ticket, as the reconciliation worker prepares it.**

For a Ticket in REVIEW_PENDING the worker rebuilds, from the stored events, when the exposure began and
ended and what was entered (`reviewWindow`), and collects the accepted orders of the Ticket from its
commands. Then it either has something to hand to the review, or tries again later (`planReview`).
-/

import Mathlib.Algebra.Order.Ring.Rat
import TradingKernel.Application.NextEvent
import TradingKernel.Domain.Moves

namespace TradingKernel

open Guard

/-! ### The window -/

/-- `_ReviewWindow`. -/
structure ReviewWindow where
  entryTimeMs : ℤ
  exitTimeMs : ℤ
  executedEntryQuantity : ℚ
  externalFlat : Bool

/-- The quantity of a fill that the window looks for. -/
def TicketFact.windowFill : TicketFact → Option ℚ
  | .entryFilled fact => some fact.filledQty
  | .entryPartiallyFilled filledQty _ _ => some filledQty
  | _ => none

/-- The fact is a flat position that no exit of ours explains. -/
def TicketFact.isExternalFlat : TicketFact → Bool
  | .externalFlatDetected => true
  | _ => false

/-- The event on a Ticket, where it is one. -/
def TradeEvent.onTicket : TradeEvent → Option TicketEvent
  | .ticketIssued _ _ => none
  | .ticketEvent event => some event

/-- The window of one fill: the exposure ends with the first flat event that is not before it. -/
def windowOf (entry : TicketEvent) (flatEvents : List TicketEvent) (exposureStartedAtMs : ℤ) :
    Option ReviewWindow := do
  let executed ← entry.fact.windowFill
  let exit ← (flatEvents.filter fun flat => entry.occurredAtMs ≤ flat.occurredAtMs).minOn?
    fun flat => flat.occurredAtMs
  return {
    entryTimeMs := exposureStartedAtMs
    exitTimeMs := exit.occurredAtMs
    executedEntryQuantity := executed
    externalFlat := exit.fact.isExternalFlat }

/-- `_review_window`. -/
def reviewWindow (events : List TradeEvent) (exposureStartedAtMs : ℤ) :
    Except Raised (Option ReviewWindow) := do
  refuse (exposureStartedAtMs ≤ 0) (.valueError "review exposure start time must be positive")
  let onTicket := events.filterMap TradeEvent.onTicket
  match onTicket.filter fun event => event.fact.windowFill.isSome with
  | [entry] =>
      return windowOf entry (onTicket.filter fun event => event.fact.findsFlat) exposureStartedAtMs
  | _ => return none

/-! ### The step of the worker -/

/-- What the worker does about a review. -/
inductive ReviewStep where
  /-- Nothing to review yet: the Ticket is looked at again later. -/
  | factsUnavailable (detail : String)
  /-- The exit was external and its fills do not show up: the review is recorded without them. -/
  | externalExitUnavailable (window : ReviewWindow)
  | readReviewEconomics (window : ReviewWindow) (entry : ExchangeCommand)
      (exits : List ExchangeCommand)

/-- `list_order_references`: the accepted orders of a Ticket. -/
def orderReferences (commands : List ExchangeCommand) : List ExchangeCommand :=
  commands.filter fun command => command.status ∈ [.accepted, .reconciledAccepted] ∧
    command.kind ∉ [.cancelOrder, .setLeverage]

/-- `_external_review_fallback_due`. -/
def externalReviewFallbackDue (window : ReviewWindow) (nowMs visibilityGraceMs : ℤ) : Prop :=
  window.externalFlat = true ∧ window.exitTimeMs + visibilityGraceMs ≤ nowMs

instance (window : ReviewWindow) (nowMs visibilityGraceMs : ℤ) :
    Decidable (externalReviewFallbackDue window nowMs visibilityGraceMs) :=
  inferInstanceAs (Decidable (_ ∧ _))

/-- The step of the worker for a Ticket in REVIEW_PENDING, up to what it hands to the review. -/
def planReview (ticket : TradeTicket) (events : List TradeEvent) (commands : List ExchangeCommand)
    (nowMs visibilityGraceMs : ℤ) : Except Raised ReviewStep := do
  let window ← reviewWindow events ticket.createdAtMs
  match window with
  | none => return .factsUnavailable "review_lineage:incomplete"
  | some window =>
      let references := orderReferences commands
      match references.filter fun command => command.kind = .entry with
      | [entry] =>
          let exits := references.filter fun command => command.kind ≠ .entry
          if exits ≠ [] then return .readReviewEconomics window entry exits
          else if externalReviewFallbackDue window nowMs visibilityGraceMs then
            return .externalExitUnavailable window
          else return .factsUnavailable "review_lineage:incomplete"
      | _ => return .factsUnavailable "review_entry_command:missing"

/-! ### What the window takes -/

section Window

variable {events : List TradeEvent} {exposureStartedAtMs : ℤ} {window : ReviewWindow}

theorem windowOf_eq_some {entry : TicketEvent} {flatEvents : List TicketEvent}
    (found : windowOf entry flatEvents exposureStartedAtMs = some window) :
    entry.fact.windowFill = some window.executedEntryQuantity ∧
      ∃ flat ∈ flatEvents, entry.occurredAtMs ≤ flat.occurredAtMs := by
  obtain ⟨executed, filled, found⟩ := Option.bind_eq_some_iff.1 found
  obtain ⟨exit, least, found⟩ := Option.bind_eq_some_iff.1 found
  obtain rfl := Option.some.inj found
  obtain ⟨member, later⟩ := List.mem_filter.1 (List.minOn?_mem least)
  exact ⟨filled, exit, member, of_decide_eq_true later⟩

/-- A fill and a flat event that is not before it have a window. -/
theorem exists_windowOf {entry flat : TicketEvent} {flatEvents : List TicketEvent} {quantity : ℚ}
    (filled : entry.fact.windowFill = some quantity) (member : flat ∈ flatEvents)
    (later : entry.occurredAtMs ≤ flat.occurredAtMs) :
    ∃ window, windowOf entry flatEvents exposureStartedAtMs = some window ∧
      window.executedEntryQuantity = quantity := by
  have listed : flat ∈ flatEvents.filter fun flat => entry.occurredAtMs ≤ flat.occurredAtMs :=
    List.mem_filter.2 ⟨member, decide_eq_true later⟩
  have found : ((flatEvents.filter fun flat => entry.occurredAtMs ≤ flat.occurredAtMs).minOn?
      fun flat => flat.occurredAtMs).isSome := by
    rw [List.isSome_minOn?_iff]
    exact List.ne_nil_of_mem listed
  obtain ⟨exit, least⟩ := Option.isSome_iff_exists.1 found
  refine ⟨⟨exposureStartedAtMs, exit.occurredAtMs, quantity, exit.fact.isExternalFlat⟩, ?_, rfl⟩
  unfold windowOf
  rw [filled, least]
  rfl

/-- The window is one of a single fill. -/
theorem reviewWindow_eq_some (returned : reviewWindow events exposureStartedAtMs = .ok (some window)) :
    0 < exposureStartedAtMs ∧ ∃ entry,
      (events.filterMap TradeEvent.onTicket).filter (fun event => event.fact.windowFill.isSome) =
        [entry] ∧
      windowOf entry ((events.filterMap TradeEvent.onTicket).filter fun event =>
        event.fact.findsFlat) exposureStartedAtMs = some window := by
  obtain ⟨started, returned⟩ := refuse_bind_eq_ok.1 returned
  refine ⟨not_le.1 started, ?_⟩
  dsimp only at returned
  split at returned
  · rename_i entry single
    exact ⟨entry, single, (pure_eq_ok.1 returned).symm⟩
  · exact absurd (pure_eq_ok.1 returned) (by simp)

theorem reviewWindow_of_single {entry : TicketEvent} (started : 0 < exposureStartedAtMs)
    (single : (events.filterMap TradeEvent.onTicket).filter
      (fun event => event.fact.windowFill.isSome) = [entry]) :
    reviewWindow events exposureStartedAtMs = .ok (windowOf entry
      ((events.filterMap TradeEvent.onTicket).filter fun event => event.fact.findsFlat)
      exposureStartedAtMs) := by
  refine refuse_bind_eq_ok.2 ⟨not_le.2 started, ?_⟩
  dsimp only
  rw [single]
  rfl

/-- Without a window the worker has nothing to hand to the review, whatever the commands and the time
are. -/
theorem planReview_of_no_window {ticket : TradeTicket} (commands : List ExchangeCommand)
    (nowMs visibilityGraceMs : ℤ) (none_ : reviewWindow events ticket.createdAtMs = .ok none) :
    planReview ticket events commands nowMs visibilityGraceMs =
      .ok (.factsUnavailable "review_lineage:incomplete") :=
  bind_eq_ok.2 ⟨none, none_, rfl⟩

/-- With one the quantity handed over is that of the window. -/
theorem planReview_of_window {ticket : TradeTicket} {commands : List ExchangeCommand}
    {nowMs visibilityGraceMs : ℤ} {entry : ExchangeCommand}
    (found : reviewWindow events ticket.createdAtMs = .ok (some window))
    (entered : (orderReferences commands).filter (fun command => command.kind = .entry) = [entry])
    (exited : (orderReferences commands).filter (fun command => command.kind ≠ .entry) ≠ []) :
    planReview ticket events commands nowMs visibilityGraceMs = .ok (.readReviewEconomics window entry
      ((orderReferences commands).filter fun command => command.kind ≠ .entry)) := by
  refine bind_eq_ok.2 ⟨some window, found, ?_⟩
  dsimp only
  rw [entered]
  exact if_pos exited

end Window

end TradingKernel
