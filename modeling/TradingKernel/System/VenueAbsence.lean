/-
**Absence is declared only of orders that are not there.**

`Venue` is what the venue holds on the instrument of a command, and `Truthful` what a lookup tells of
it: from the visibility deadline on, an open order is found in the namespace it was placed in, and
the fills and the open client order ids are the true ones. A command that places an order is then
declared absent only if no order of its was opened or filled. A cancel is looked up in the namespace
that it names, so what is said of its target is right exactly when the target was placed there
(`unknown_recovery_sound_iff`). The cleanup of a closed position names `conditional` for every known
order, and TP1, a limit order, is placed in the other namespace (`open_target_declared_absent`).
-/

import TradingKernel.Domain.VenueTruth
import TradingKernel.System.Steps

namespace TradingKernel

open Text Guard

/-! ### The venue and its lookups -/

/-- An order at the venue, with what it has filled. -/
structure VenueOrder extends VenueOrderTruth where
  filledQty : ℚ

/-- The orders of the account on an instrument, and its position there. -/
structure Venue where
  orders : List VenueOrder
  positionQuantity : ℚ

/-- The namespace that a command is looked up in. -/
def lookupNamespace (command : ExchangeCommand) : OrderNamespace :=
  match command.payload with
  | .cancel payload => payload.orderNamespace
  | _ => .regular

/-- The order is the one that a lookup of the command is about: the target of a cancel in the
namespace it names, and for any other command the order with its client order id. -/
def LooksUp (command : ExchangeCommand) (order : VenueOrder) : Prop :=
  match command.payload with
  | .cancel payload => order.exchangeOrderId = payload.exchangeOrderId ∧
      order.orderNamespace = payload.orderNamespace
  | _ => some order.venueClientOrderId = command.venueClientOrderId

/-- A snapshot tells the truth about the venue. -/
structure Truthful (venue : Venue) (command : ExchangeCommand) (visibilityDeadlineMs : ℤ)
    (truth : VenueTruthSnapshot) : Prop where
  found : visibilityDeadlineMs ≤ truth.observedAtMs → ∀ order ∈ venue.orders,
    order.isOpen = true → order.orderNamespace = lookupNamespace command →
    LooksUp command order → truth.lookup = .visible order.toVenueOrderTruth ∨
      ∃ reason given, truth.lookup = .lookupFailed reason given
  state : ∀ seen, truth.lookup = .visible seen → ∀ order ∈ venue.orders,
    order.exchangeOrderId = seen.exchangeOrderId →
    order.orderNamespace = seen.orderNamespace → order.isOpen = seen.isOpen
  position : truth.positionQuantity = venue.positionQuantity
  fills : ∀ order ∈ venue.orders, LooksUp command order →
    truth.matchingFillQuantity = order.filledQty
  regular : ∀ client, client ∈ truth.regularOpenClientOrderIds ↔ ∃ order ∈ venue.orders,
    order.isOpen = true ∧ order.orderNamespace = .regular ∧
      order.venueClientOrderId.text = client
  conditional : ∀ client, client ∈ truth.conditionalOpenClientOrderIds ↔ ∃ order ∈ venue.orders,
    order.isOpen = true ∧ order.orderNamespace = .conditional ∧
      order.venueClientOrderId.text = client

/-- A decision says nothing false of the venue. The target of a cancel is the order with its id in
the namespace `placedIn`. -/
structure RecoverySound (placedIn : OrderNamespace) (venue : Venue) (command : ExchangeCommand)
    (truth : VenueTruthSnapshot) (decided : UnknownRecoveryDecision) : Prop where
  order : decided.status = .reconciledAbsent → command.kind ≠ .cancelOrder →
    ∀ order ∈ venue.orders, some order.venueClientOrderId = command.venueClientOrderId →
      order.isOpen = false ∧ order.filledQty = 0
  target : decided.status = .reconciledAbsent → ∀ payload, command.payload = .cancel payload →
    ∀ order ∈ venue.orders, order.exchangeOrderId = payload.exchangeOrderId →
      order.orderNamespace = placedIn → order.isOpen = false
  submitted : decided.status = .reconciledSubmitted → ∃ order, truth.lookup = .visible order ∧
    decided.exchangeOrderId = some order.exchangeOrderId ∧ Carries command order

/-- A cancel names the namespace its target was placed in. -/
def CancelsIn (placedIn : OrderNamespace) (command : ExchangeCommand) : Prop :=
  ∀ payload, command.payload = .cancel payload → payload.orderNamespace = placedIn

/-! ### Sound decisions -/

section Sound

variable {placedIn : OrderNamespace} {venue : Venue} {command : ExchangeCommand}
  {visibilityDeadlineMs : ℤ} {truth : VenueTruthSnapshot} {decided : UnknownRecoveryDecision}

/-- Only a cancel carries a cancel's payload. -/
theorem kind_of_cancel {payload : CancelCommandPayload}
    (carried : command.payload = .cancel payload) : command.kind = .cancelOrder := by
  have valid := command.valid
  simp only [CommandTerms.check, CommandTerms.checkPayload, carried, refuse_bind_eq_ok] at valid
  obtain ⟨-, -, -, -, shape⟩ := valid
  by_contra other
  split_ifs at shape
  · simp [refuse_bind_eq_ok] at shape
  · simp [refuse_bind_eq_ok] at shape

theorem createdAtMs_pos (command : ExchangeCommand) : 0 < command.createdAtMs := by
  have valid := command.valid
  simp only [CommandTerms.check, refuse_bind_eq_ok, not_or, not_le] at valid
  exact valid.1.2.1

/-- For a command that places an order, the lookup is about its client order id. -/
theorem looksUp_of_places (places : command.kind ≠ .cancelOrder) {order : VenueOrder}
    (client : some order.venueClientOrderId = command.venueClientOrderId) :
    LooksUp command order := by
  unfold LooksUp
  split
  · rename_i payload carried
    exact absurd (kind_of_cancel carried) places
  · exact client

/-- Without evidence of a submission nothing of the command is open or filled. -/
theorem untouched_of_unsubmitted (truthful : Truthful venue command visibilityDeadlineMs truth)
    (places : command.kind ≠ .cancelOrder) (unsubmitted : ¬ submissionEvidence command truth)
    {order : VenueOrder} (there : order ∈ venue.orders)
    (client : some order.venueClientOrderId = command.venueClientOrderId) :
    order.isOpen = false ∧ order.filledQty = 0 := by
  simp only [submissionEvidence, not_or, not_exists, not_and, not_lt] at unsubmitted
  obtain ⟨-, unfilled, regular, conditional⟩ := unsubmitted
  constructor
  · by_contra isOpen
    have isOpen : order.isOpen = true := by simpa using isOpen
    cases placed : order.orderNamespace with
    | regular =>
      exact regular _ client.symm ((truthful.regular _).mpr ⟨order, there, isOpen, placed, rfl⟩)
    | conditional =>
      exact conditional _ client.symm
        ((truthful.conditional _).mpr ⟨order, there, isOpen, placed, rfl⟩)
  · rw [← truthful.fills order there (looksUp_of_places places client)]
    exact le_antisymm unfilled truth.nonnegative.2

/-- Every decision about a command is sound, where a cancel names the namespace of its target. -/
theorem recoverySound (names : CancelsIn placedIn command)
    (truthful : Truthful venue command visibilityDeadlineMs truth)
    (returned : decideUnknownRecovery command truth visibilityDeadlineMs = .ok decided) :
    RecoverySound placedIn venue command truth decided where
  order isAbsent places order there client := by
    cases Decided.of_decide returned with
    | absent _ _ _ unsubmitted _ =>
      exact untouched_of_unsubmitted truthful places unsubmitted there client
    | targetClosed _ _ _ cancels => exact absurd cancels places
    | targetAbsent _ _ cancels => exact absurd cancels places
    | lookupFailed failed => simp [isAbsent] at failed
    | pending waits => simp [isAbsent] at waits
    | contradiction differs => simp [isAbsent] at differs
    | submitted _ isSubmitted => simp [isSubmitted, submittedAs] at isAbsent
    | targetOpen _ stillOpen => simp [isAbsent] at stillOpen
  target isAbsent payload carried order there same placed := by
    have named := names payload carried
    cases Decided.of_decide returned with
    | targetClosed other seen _ _ otherCarried found target closed =>
      -- the order that was found is the target, and it is closed
      obtain rfl : other = payload := by simpa [carried, eq_comm] using otherCarried
      rw [truthful.state seen found order there (same.trans target.1.symm)
        (placed.trans (named.symm.trans target.2.symm))]
      exact closed
    | targetAbsent other _ _ otherCarried none due =>
      by_contra isOpen
      have looked : lookupNamespace command = payload.orderNamespace := by
        simp [lookupNamespace, carried]
      have about : LooksUp command order := by
        simp only [LooksUp, carried]
        exact ⟨same, placed.trans named.symm⟩
      rcases truthful.found due order there (by simpa using isOpen)
        (placed.trans (named.symm.trans looked.symm)) about with visible | ⟨_, _, failed⟩
      · simp [none] at visible
      · simp [none] at failed
    | absent _ places => exact absurd (kind_of_cancel carried) places
    | lookupFailed failed => simp [isAbsent] at failed
    | pending waits => simp [isAbsent] at waits
    | contradiction differs => simp [isAbsent] at differs
    | submitted _ isSubmitted => simp [isSubmitted, submittedAs] at isAbsent
    | targetOpen _ stillOpen => simp [isAbsent] at stillOpen
  submitted isSubmitted := by
    cases Decided.of_decide returned with
    | submitted order same _ found carries => exact ⟨order, found, by rw [same]; rfl, carries⟩
    | absent isAbsent => simp [isSubmitted] at isAbsent
    | targetClosed _ _ isAbsent => simp [isSubmitted] at isAbsent
    | targetAbsent _ isAbsent => simp [isSubmitted] at isAbsent
    | lookupFailed failed => simp [isSubmitted] at failed
    | pending waits => simp [isSubmitted] at waits
    | contradiction differs => simp [isSubmitted] at differs
    | targetOpen _ stillOpen => simp [isSubmitted] at stillOpen

end Sound

/-! ### A target in the other namespace -/

section Hidden

variable {command : ExchangeCommand} {payload : CancelCommandPayload}

/-- An open order with the id of a cancel's target. -/
def openTarget (command : ExchangeCommand) (payload : CancelCommandPayload)
    (placedIn : OrderNamespace) : VenueOrder where
  exchangeOrderId := payload.exchangeOrderId
  venueClientOrderId := payload.exchangeOrderId
  exchangeInstrumentId := command.ticketIdentity.nettingDomain.exchangeInstrumentId
  positionSide := command.ticketIdentity.nettingDomain.positionSide
  orderSide := .sell
  quantity := 1
  reduceOnly := true
  orderNamespace := placedIn
  isOpen := true
  positive := one_pos
  filledQty := 0

theorem nothing_nonneg : (0 : ℚ) ≤ 0 ∧ (0 : ℚ) ≤ 0 := ⟨le_rfl, le_rfl⟩

/-- What a lookup that finds nothing tells of a venue with one open order. -/
def absentTruth (order : VenueOrder) (observedAtMs : ℤ) (observed : 0 < observedAtMs) :
    VenueTruthSnapshot where
  lookup := .absent
  positionQuantity := 0
  matchingFillQuantity := 0
  regularOpenClientOrderIds :=
    if order.orderNamespace = .regular then [order.venueClientOrderId.text] else []
  conditionalOpenClientOrderIds :=
    if order.orderNamespace = .conditional then [order.venueClientOrderId.text] else []
  observedAtMs := observedAtMs
  nonnegative := nothing_nonneg
  observed := observed

/-- The open client order ids of a namespace, where one order is open. -/
theorem mem_openClients (order : VenueOrder) (isOpen : order.isOpen = true)
    (listed : OrderNamespace) (client : String) :
    client ∈ (if order.orderNamespace = listed then [order.venueClientOrderId.text] else []) ↔
      ∃ other ∈ [order], other.isOpen = true ∧ other.orderNamespace = listed ∧
        other.venueClientOrderId.text = client := by
  simp only [List.mem_singleton, exists_eq_left, isOpen, true_and]
  split_ifs with placed
  · simp [placed, eq_comm]
  · simp [placed]

/-- A lookup in another namespace that finds nothing tells the truth. -/
theorem truthful_absent (carried : command.payload = .cancel payload) (order : VenueOrder)
    (isOpen : order.isOpen = true) (elsewhere : order.orderNamespace ≠ payload.orderNamespace)
    (visibilityDeadlineMs : ℤ) {observedAtMs : ℤ} (observed : 0 < observedAtMs) :
    Truthful ⟨[order], 0⟩ command visibilityDeadlineMs
      (absentTruth order observedAtMs observed) where
  found _ other there _ here := by
    obtain rfl := List.mem_singleton.mp there
    simp only [lookupNamespace, carried] at here
    exact absurd here elsewhere
  state seen visible := by simp [absentTruth] at visible
  position := rfl
  fills other there about := by
    obtain rfl := List.mem_singleton.mp there
    simp only [LooksUp, carried] at about
    exact absurd about.2 elsewhere
  regular client := mem_openClients order isOpen .regular client
  conditional client := mem_openClients order isOpen .conditional client

/-- Nothing found of a cancel's target after the deadline is an absence. -/
theorem decide_absent (carried : command.payload = .cancel payload)
    (unknown : command.status = .outcomeUnknown) {visibilityDeadlineMs observedAtMs : ℤ}
    (follows : command.createdAtMs < visibilityDeadlineMs) (order : VenueOrder)
    (due : visibilityDeadlineMs ≤ observedAtMs) (observed : 0 < observedAtMs) :
    ∃ decided, decideUnknownRecovery command (absentTruth order observedAtMs observed)
      visibilityDeadlineMs = .ok decided ∧ decided.status = .reconciledAbsent := by
  have cancels := kind_of_cancel carried
  refine ⟨decision .reconciledAbsent (absentTruth order observedAtMs observed)
    "cancel_target_absent_after_visibility_window", ?_, rfl⟩
  simp only [decideUnknownRecovery, refuse_bind_eq_ok, unknown, not_true_eq_false,
    not_false_eq_true, ne_eq, not_le, follows, true_and, absentTruth, cancels, if_true, carried,
    decideCancelRecovery, not_lt.mpr due, if_false, pure_eq_ok]

end Hidden

/-! ### The law -/

section Law

variable {placedIn : OrderNamespace} {command : ExchangeCommand} {visibilityDeadlineMs : ℤ}

/-- **Absence is declared only of orders that are not there**, exactly when a cancel names the
namespace its target was placed in. -/
theorem unknown_recovery_sound_iff (unknown : command.status = .outcomeUnknown)
    (follows : command.createdAtMs < visibilityDeadlineMs) :
    (∀ venue truth decided, Truthful venue command visibilityDeadlineMs truth →
      decideUnknownRecovery command truth visibilityDeadlineMs = .ok decided →
      RecoverySound placedIn venue command truth decided) ↔ CancelsIn placedIn command := by
  constructor
  · intro sound payload carried
    by_contra elsewhere
    let order := openTarget command payload placedIn
    have observed : 0 < visibilityDeadlineMs := (createdAtMs_pos command).trans follows
    have truthful := truthful_absent carried order rfl (Ne.symm elsewhere) visibilityDeadlineMs
      observed
    obtain ⟨decided, returned, isAbsent⟩ :=
      decide_absent carried unknown follows order le_rfl observed
    have closed : order.isOpen = false :=
      (sound _ _ _ truthful returned).target isAbsent payload carried order
        (List.mem_singleton.mpr rfl) rfl rfl
    exact Bool.false_ne_true closed.symm
  · intro names venue truth decided truthful returned
    exact recoverySound names truthful returned

/-- A cancel of the remainder of the sample ENTRY whose venue call timed out. -/
def sampleCancel : ExchangeCommand where
  commandId := named "command:1"
  ticketIdentity := sampleTicket.identity
  kind := .cancelOrder
  generation := 1
  idempotencyKey := named "command:1"
  venueClientOrderId := some (named "brc-1")
  payload := .cancel ⟨⟨named "entry-1", .regular, .entryRemainder, none⟩, by decide⟩
  createdAtMs := 1000
  deadlineAtMs := 31000
  valid := by decide +kernel
  status := .outcomeUnknown

/-- The law on a cancel of an ENTRY, which is placed in the regular namespace. -/
theorem unknown_recovery_sound_of_entry_cancel : CancelsIn .regular sampleCancel ∧
    ((∀ venue truth decided, Truthful venue sampleCancel 61000 truth →
        decideUnknownRecovery sampleCancel truth 61000 = .ok decided →
        RecoverySound .regular venue sampleCancel truth decided) ↔
      CancelsIn .regular sampleCancel) := by
  refine ⟨fun payload carried => ?_, unknown_recovery_sound_iff rfl (by decide)⟩
  obtain rfl := CommandPayload.cancel.inj carried
  rfl

/-- The order that an accepted command has open at the venue. -/
def placedOrder (command : ExchangeCommand) (terms : OrderCommandPayload)
    (client exchangeOrderId : NonBlankText) : VenueOrder where
  exchangeOrderId := exchangeOrderId
  venueClientOrderId := client
  exchangeInstrumentId := command.ticketIdentity.nettingDomain.exchangeInstrumentId
  positionSide := command.ticketIdentity.nettingDomain.positionSide
  orderSide := terms.side
  quantity := terms.quantity
  reduceOnly := terms.reduceOnly
  orderNamespace := terms.orderType.orderNamespace
  isOpen := true
  positive := by
    have valid := terms.valid
    simp only [OrderTerms.check, refuse_bind_eq_ok] at valid
    exact not_le.mp valid.1
  filledQty := 0

/-- The protected position is exited, and the cancel of what it leaves open times out. -/
def exitedActions : List Action :=
  protectedActions ++ [.advance ⟨.exitRequested "owner", rfl⟩ 1000] ++
    dispatched .exit (acceptedAs "exit-1") ++ [.reconcile none none emptySnapshot] ++
    dispatched .cancelOrder timedOut

/-- The row is an accepted limit order. -/
def isAcceptedLimit (row : CommandRow) : Bool :=
  match row.command.payload, row.command.venueClientOrderId with
  | .order terms, some _ => row.kind = .takeProfit ∧ row.status = .accepted ∧
      terms.orderType = .limit
  | _, _ => false

/-- The row is a cancel with an unknown outcome of a conditional order. -/
def isUnknownConditionalCancel (exchangeOrderId : String) (row : CommandRow) : Bool :=
  match row.command.payload with
  | .cancel payload => row.status = .outcomeUnknown ∧ payload.orderNamespace = .conditional ∧
      payload.exchangeOrderId.text = exchangeOrderId
  | _ => false

/-- An open TP1 is declared absent: its cleanup cancel names the other namespace. -/
theorem open_target_declared_absent : ∃ start actions kernel,
    KernelRun (fun _ _ => True) start actions kernel ∧
    ∃ placing ∈ kernel.commands, ∃ terms client, placing.kind = .takeProfit ∧
      placing.status = .accepted ∧ placing.command.payload = .order terms ∧
      placing.command.venueClientOrderId = some client ∧
    ∃ cancel ∈ kernel.commands, ∃ payload, cancel.status = .outcomeUnknown ∧
      cancel.command.payload = .cancel payload ∧
      kernel.aggregate.tp1ExchangeOrderId = some payload.exchangeOrderId.text ∧
    ∃ order visibilityDeadlineMs truth decided,
      order = placedOrder placing.command terms client payload.exchangeOrderId ∧
      Truthful ⟨[order], 0⟩ cancel.command visibilityDeadlineMs truth ∧
      decideUnknownRecovery cancel.command truth visibilityDeadlineMs = .ok decided ∧
      decided.status = .reconciledAbsent ∧
      ¬ RecoverySound order.orderNamespace ⟨[order], 0⟩ cancel.command truth decided := by
  obtain ⟨start, kernel, run, tested⟩ := exists_kernelRun (fun _ _ => True) exitedActions
    (fun kernel => kernel.commands.rows.any isAcceptedLimit ∧
      kernel.commands.rows.any (isUnknownConditionalCancel "tp-1") ∧
      kernel.aggregate.tp1ExchangeOrderId = some "tp-1") (by decide +kernel)
  simp only [Bool.decide_and, Bool.and_eq_true, decide_eq_true_eq, List.any_eq_true] at tested
  obtain ⟨⟨placing, placingThere, limit⟩, ⟨cancel, cancelThere, unknown⟩, target⟩ := tested
  unfold isAcceptedLimit at limit
  split at limit
  · rename_i terms client isOrder isClient
    unfold isUnknownConditionalCancel at unknown
    split at unknown
    · rename_i payload carried
      simp only [decide_eq_true_eq] at limit unknown
      obtain ⟨kind, accepted, isLimit⟩ := limit
      obtain ⟨isUnknown, conditional, named⟩ := unknown
      let order := placedOrder placing.command terms client payload.exchangeOrderId
      have elsewhere : order.orderNamespace ≠ payload.orderNamespace := by
        rw [conditional]
        show terms.orderType.orderNamespace ≠ .conditional
        rw [isLimit]
        decide
      let deadline := cancel.command.createdAtMs + 1
      have follows : cancel.command.createdAtMs < deadline := lt_add_one _
      have observed : 0 < deadline := (createdAtMs_pos cancel.command).trans follows
      have truthful := truthful_absent carried order rfl elsewhere deadline observed
      obtain ⟨decided, returned, isAbsent⟩ :=
        decide_absent carried isUnknown follows order le_rfl observed
      refine ⟨start, exitedActions, kernel, run, placing, placingThere, terms, client, kind,
        accepted, isOrder, isClient, cancel, cancelThere, payload, isUnknown, carried,
        named ▸ target, order, deadline, _, decided, rfl, truthful, returned, isAbsent, ?_⟩
      intro sound
      have closed : order.isOpen = false := sound.target isAbsent payload carried order
        (List.mem_singleton.mpr rfl) rfl rfl
      exact Bool.false_ne_true closed.symm
    · simp at unknown
  · simp at limit

end Law

end TradingKernel
