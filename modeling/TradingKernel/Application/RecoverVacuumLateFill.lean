/-
**`recover_vacuum_late_fill`: a fill found after its ENTRY was cancelled.**

The use case reads the position and the original order, decides whether they prove a fill or its
absence (`decideVacuumLateFillAttribution`), and commits the proof where the Ticket is still what it
was and the position is newer than the stored one.
-/

import TradingKernel.Application.DispatchCommand
import TradingKernel.Domain.Position
import TradingKernel.Domain.VacuumLateFill
import TradingKernel.Domain.VenueTruth

namespace TradingKernel

open Text Guard

/-! ### The attribution -/

/-- The facts of a lookup with the fills of the order. -/
structure FillTruthSnapshot extends VenueTruthSnapshot where
  matchingFillAveragePrice : Option ℚ
  matchingFillComplete : Bool
  pricePositive : ∀ price ∈ matchingFillAveragePrice, 0 < price
  zeroUnpriced : matchingFillQuantity = 0 → matchingFillAveragePrice = none

structure VacuumLateFillFacts where
  ticket : TradeTicket
  entryCommand : ExchangeCommand
  entryExchangeOrderId : String
  position : PositionSnapshot
  venueTruth : FillTruthSnapshot
  contradictionObservedAtMs : ℤ

inductive VacuumLateFillDecision where
  | attributed (filledQty averageFillPrice : ℚ) (proof : VacuumAttribution)
  | noFillVerified (proof : VacuumAttribution)
  | unverified (reasonCode : String)

/-- The order at the venue is not the one that the ENTRY command placed. -/
def VenueOrderTruth.DiffersFromEntry (order : VenueOrderTruth) (facts : VacuumLateFillFacts)
    (payload : OrderCommandPayload) : Prop :=
  order.exchangeOrderId.text ≠ facts.entryExchangeOrderId ∨
    some order.venueClientOrderId ≠ facts.entryCommand.venueClientOrderId ∨
    order.exchangeInstrumentId ≠ facts.ticket.identity.nettingDomain.exchangeInstrumentId ∨
    order.positionSide ≠ facts.ticket.identity.nettingDomain.positionSide ∨
    order.orderSide ≠ payload.side ∨ order.quantity ≠ payload.quantity ∨ order.reduceOnly = true ∨
    order.orderNamespace ≠ .regular

instance (order : VenueOrderTruth) (facts : VacuumLateFillFacts) (payload : OrderCommandPayload) :
    Decidable (order.DiffersFromEntry facts payload) := inferInstanceAs (Decidable (_ ∨ _))

/-- The decision on an order that is the one of the ENTRY. -/
def decideEntryFill (facts : VacuumLateFillFacts) (order : VenueOrderTruth) :
    Except Raised VacuumLateFillDecision :=
  let position := facts.position
  let truth := facts.venueTruth
  let proof : VacuumAttribution :=
    { ticketId := facts.ticket.identity.ticketId.text
      entryCommandId := facts.entryCommand.commandId.text
      exchangeOrderId := order.exchangeOrderId.text
      venueClientOrderId := order.venueClientOrderId.text
      nettingDomainKey := facts.ticket.identity.nettingDomain.key
      positionObservedAtMs := position.observedAtMs
      venueObservedAtMs := truth.observedAtMs }
  if order.isOpen ∨ ∃ id ∈ facts.entryCommand.venueClientOrderId,
      id.text ∈ truth.regularOpenClientOrderIds ++ truth.conditionalOpenClientOrderIds then
    return .unverified "entry_order_still_open"
  else if truth.observedAtMs < position.observedAtMs ∨ truth.positionQuantity ≠ position.quantity ∨
      truth.matchingFillQuantity ≠ position.quantity ∨ truth.matchingFillComplete = false then
    return .unverified "entry_fill_or_position_truth_mismatch"
  else if position.quantity = 0 then
    if truth.matchingFillAveragePrice ≠ none then return .unverified "zero_fill_price_contradiction"
    else return .noFillVerified proof
  else do
    let price ← demand position.averageEntryPrice (.runtimeError "open position has no entry price")
    if truth.matchingFillAveragePrice ≠ some price then
      return .unverified "entry_fill_price_mismatch"
    else return .attributed position.quantity price proof

/-- `decide_vacuum_late_fill_attribution`. -/
def decideVacuumLateFillAttribution (facts : VacuumLateFillFacts) :
    Except Raised VacuumLateFillDecision :=
  let ticket := facts.ticket
  let command := facts.entryCommand
  let position := facts.position
  if command.ticketIdentity ≠ ticket.identity ∨ command.kind ≠ .entry then
    return .unverified "entry_command_identity_mismatch"
  else if command.status ∉ [.accepted, .reconciledAccepted] then
    return .unverified "entry_command_not_authoritatively_accepted"
  else match command.payload with
    | .order payload =>
        if command.venueClientOrderId = none then
          return .unverified "entry_command_payload_invalid"
        else if payload.quantity ≠ ticket.quantity ∨ payload.reduceOnly = true then
          return .unverified "entry_command_quantity_or_side_invalid"
        else if position.nettingDomain ≠ ticket.identity.nettingDomain then
          return .unverified "position_netting_domain_mismatch"
        else if position.quantity < 0 ∨ ticket.quantity < position.quantity then
          return .unverified "position_quantity_outside_ticket"
        else if position.openOrders ≠ [] then return .unverified "position_has_residual_order"
        else if position.observedAtMs ≤ facts.contradictionObservedAtMs then
          return .unverified "position_observation_not_newer"
        else match facts.venueTruth.lookup with
          | .visible order =>
              if order.DiffersFromEntry facts payload then
                return .unverified "entry_order_identity_mismatch"
              else decideEntryFill facts order
          | _ => return .unverified "entry_order_not_exactly_visible"
    | _ => return .unverified "entry_command_payload_invalid"

/-! ### The use case -/

/-- What the use case reads: the Ticket before it looked at the venue, what it saw there, and the
fences it reads elsewhere. -/
structure LateFillReading where
  seen : Kernel
  identified : seen.aggregate.identity = seen.aggregate.ticket.identity
  position : PositionSnapshot
  venueTruth : FillTruthSnapshot
  contradictionObservedAtMs : ℤ
  /-- The same contradiction is open, its vacuum drains, and the writer is certified in its window. -/
  fencesOpen : Bool
  nowMs : ℤ
  latestTruthMs : ℤ

/-- A Ticket whose ENTRY was cancelled unfilled, and contradicted since. -/
def Kernel.Recoverable (kernel : Kernel) : Prop :=
  kernel.aggregate.status = .entryVacuumCancelled ∧ kernel.aggregate.positionQty = 0 ∧
    kernel.aggregate.entryVacuumId ≠ none ∧ kernel.aggregate.entryExchangeOrderId ≠ none ∧
    "vacuum_post_absence_contradiction" ∈ kernel.openIncidents

instance (kernel : Kernel) : Decidable kernel.Recoverable := inferInstanceAs (Decidable (_ ∧ _))

/-- The only ENTRY command, where no command of the Ticket is unsettled. -/
def Kernel.settledEntry (kernel : Kernel) : Option ExchangeCommand :=
  let commands := kernel.commands.listForTicket
  if commands.any fun command => command.status ∈ [.prepared, .claimed, .outcomeUnknown] then none
  else match commands.filter fun command => command.kind = .entry with
    | [command] => if command.venueClientOrderId = none then none else some command
    | _ => none

/-- The event of a decision that proves something. -/
def lateFillFact (aggregate : TradeAggregate) (position : PositionSnapshot) :
    VacuumLateFillDecision → Except Raised (Option TicketFact)
  | .unverified _ => return none
  | .noFillVerified proof =>
      let entryVacuumId := aggregate.entryVacuumId.getD ""
      let exchangeOrderId := aggregate.entryExchangeOrderId.getD ""
      if given : (¬ Blank entryVacuumId ∧ ¬ Blank proof.entryCommandId ∧ ¬ Blank exchangeOrderId ∧
          ¬ Blank proof.venueClientOrderId) ∧
          (0 < position.observedAtMs ∧ position.observedAtMs ≤ proof.venueObservedAtMs) then
        return some (.vacuumPostAbsenceNoFillVerified {
          entryVacuumId := entryVacuumId
          entryCommandId := proof.entryCommandId
          exchangeOrderId := exchangeOrderId
          venueClientOrderId := proof.venueClientOrderId
          positionObservedAtMs := position.observedAtMs
          venueObservedAtMs := proof.venueObservedAtMs
          proofDigest := vacuumNoFillProofDigest proof
          identities := given.1
          observedInOrder := given.2
          digestShape := CanonicalJson.isSha256Digest_canonicalDigest _ })
      else .error (.valueError "Vacuum no-fill verification requires exact identities")
  | .attributed filledQty averageFillPrice proof =>
      let entryVacuumId := aggregate.entryVacuumId.getD ""
      let exchangeOrderId := aggregate.entryExchangeOrderId.getD ""
      if given : (¬ Blank entryVacuumId ∧ ¬ Blank proof.entryCommandId ∧ ¬ Blank exchangeOrderId ∧
          ¬ Blank proof.venueClientOrderId) ∧
          (0 < position.observedAtMs ∧ position.observedAtMs ≤ proof.venueObservedAtMs) ∧
          (0 < filledQty ∧ 0 < averageFillPrice) then
        return some (.vacuumLateFillAttributed {
          entryVacuumId := entryVacuumId
          entryCommandId := proof.entryCommandId
          exchangeOrderId := exchangeOrderId
          venueClientOrderId := proof.venueClientOrderId
          filledQty := filledQty
          averageFillPrice := averageFillPrice
          positionObservedAtMs := position.observedAtMs
          venueObservedAtMs := proof.venueObservedAtMs
          attributionDigest := vacuumLateFillProofDigest proof filledQty averageFillPrice
          identities := given.1
          positive := given.2.2
          observedInOrder := given.2.1
          digestShape := CanonicalJson.isSha256Digest_canonicalDigest _ })
      else .error (.valueError "late fill attribution requires exact identities")

/-- The fact, as the next event, committed. -/
def Kernel.commitLateFill (kernel : Kernel) (fact : TicketFact) (occurredAtMs : ℤ) :
    Except Raised Kernel :=
  if given : (0 < kernel.aggregate.lastEventSequence + 1 ∧ 0 < occurredAtMs) ∧
      ∀ observed ∈ fact.venueObservedAtMs, observed ≤ occurredAtMs then
    match reduceEvent (some kernel.aggregate) (.ticketEvent
      { eventId := eventId kernel.aggregate
        sequence := kernel.aggregate.lastEventSequence + 1
        occurredAtMs := occurredAtMs
        positive := given.1
        ticketId := kernel.aggregate.identity.ticketId
        fact := fact
        observedBefore := given.2 }) with
    | .ok reduction => kernel.commitReduction occurredAtMs reduction
    | .error refusal => .error (.invalidLifecycleTransition refusal)
  else .error (.valueError "event sequence and time must be positive")

/-- `recover_vacuum_late_fill`: the kernel it commits, where it commits one. -/
def Kernel.recoverVacuumLateFill (kernel : Kernel) (priorObservedAtMs : Option ℤ)
    (reading : LateFillReading) : Except Raised (Option Kernel) :=
  if ¬ reading.seen.Recoverable then return none
  else match reading.seen.settledEntry with
  | none => return none
  | some command => do
      let decision ← decideVacuumLateFillAttribution {
        ticket := reading.seen.aggregate.ticket
        entryCommand := command
        entryExchangeOrderId := reading.seen.aggregate.entryExchangeOrderId.getD ""
        position := reading.position
        venueTruth := reading.venueTruth
        contradictionObservedAtMs := reading.contradictionObservedAtMs }
      if ¬ kernel.Recoverable ∨ reading.fencesOpen = false ∨
          kernel.aggregate.version ≠ reading.seen.aggregate.version ∨
          kernel.aggregate.entryVacuumId ≠ reading.seen.aggregate.entryVacuumId ∨
          (kernel.row ⟨command.kind, command.generation⟩).map (·.status) ≠ some command.status then
        return none
      else if (∀ prior ∈ priorObservedAtMs, reading.position.observedAtMs ≤ prior) ∨
          reading.position.observedAtMs < reading.nowMs ∨
          reading.latestTruthMs < reading.venueTruth.observedAtMs then
        return none
      else do
        let fact ← lateFillFact kernel.aggregate reading.position decision
        match fact with
        | none => return none
        | some fact => do
            let next ← kernel.commitLateFill fact reading.venueTruth.observedAtMs
            return some next

/-- A proof is about a position of the Ticket's netting domain. -/
theorem domain_of_decided {facts : VacuumLateFillFacts} {decision : VacuumLateFillDecision}
    (decided : decideVacuumLateFillAttribution facts = .ok decision)
    (proves : ∀ reasonCode, decision ≠ .unverified reasonCode) :
    facts.position.nettingDomain = facts.ticket.identity.nettingDomain := by
  by_contra other
  have refused : ∀ {reasonCode : String},
      (return .unverified reasonCode : Except Raised VacuumLateFillDecision) = .ok decision → False :=
    fun same => proves _ (pure_eq_ok.1 same)
  unfold decideVacuumLateFillAttribution at decided
  dsimp only at decided
  by_cases foreign : facts.entryCommand.ticketIdentity ≠ facts.ticket.identity ∨
      facts.entryCommand.kind ≠ .entry
  · rw [if_pos foreign] at decided
    exact refused decided
  rw [if_neg foreign] at decided
  split at decided
  · exact refused decided
  · split at decided
    · split at decided
      · exact refused decided
      · split at decided
        · exact refused decided
        · exact refused decided
    · exact refused decided

/-- What is committed rests on a position of the Ticket's domain that is newer than the stored one. -/
theorem Kernel.newer_of_recoverVacuumLateFill {kernel next : Kernel} {priorObservedAtMs : Option ℤ}
    {reading : LateFillReading}
    (returned : kernel.recoverVacuumLateFill priorObservedAtMs reading = .ok (some next)) :
    reading.position.nettingDomain = reading.seen.aggregate.identity.nettingDomain ∧
      ∃ prior ∈ priorObservedAtMs, prior < reading.position.observedAtMs := by
  unfold recoverVacuumLateFill at returned
  by_cases gone : ¬ reading.seen.Recoverable
  · rw [if_pos gone] at returned
    simp [pure, Except.pure] at returned
  rw [if_neg gone] at returned
  split at returned
  · simp [pure, Except.pure] at returned
  · obtain ⟨decision, decided, returned⟩ := bind_eq_ok.1 returned
    split_ifs at returned with moved stale
    · simp [pure, Except.pure] at returned
    · simp [pure, Except.pure] at returned
    · obtain ⟨fact, hFact, returned⟩ := bind_eq_ok.1 returned
      have proves : ∀ reasonCode, decision ≠ .unverified reasonCode := by
        rintro reasonCode rfl
        obtain rfl := pure_eq_ok.1 hFact
        simp [pure, Except.pure] at returned
      rw [not_or] at stale
      have newer := stale.1
      push Not at newer
      rw [reading.identified]
      exact ⟨domain_of_decided decided proves, newer⟩

end TradingKernel
