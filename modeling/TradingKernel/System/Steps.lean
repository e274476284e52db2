/-
**The transactions on one Ticket, and the runs they make up.**

`Kernel.issue` is the first transaction. Every other one is an `Action`: a worker claims a command,
records the venue's answer to it, or records an expired claim; `reconcile_ticket` runs on a
snapshot; a lifecycle worker records a fact of its own. `Kernel.apply` is what the action leaves, or
what it raises, and a run is a sequence of actions that did not raise. Each action is one database
transaction, so any order of them is a run.
-/

import TradingKernel.Application.DispatchCommand
import TradingKernel.Application.ReconcileTicket
import TradingKernel.Infrastructure.Materialised
import TradingKernel.Lifecycle.Replay

namespace TradingKernel

open Text Guard

/-! ### Actions -/

inductive Action where
  | claim (key : CommandKey) (workerId : NonBlankText) (nowMs leaseUntilMs : ℤ)
      (blockingVacuum : Option NonBlankText)
  | record (key : CommandKey) (workerId : NonBlankText) (answer : DispatchResult)
  | expire (key : CommandKey) (nowMs : ℤ)
  | reconcile (latestObservedAtMs : Option ℤ) (openIncidentKind : Option String)
      (snapshot : PositionSnapshot)
  | advance (fact : PlainFact) (occurredAtMs : ℤ)

/-- The facts that the lifecycle workers record: the stress assessment, the fill of TP1, a move of
the runner stop, an exit, the settlement and the reviews. -/
def TicketFact.advances : TicketFact → Bool
  | .postFillStressAssessed _ | .takeProfitFilled _ | .runnerStopRequested _ _
  | .exitRequested _ | .budgetSettled | .reviewRecorded _ | .reviewRevised _ _ => true
  | _ => false

namespace Kernel

variable (kernel : Kernel)

/-- A new Ticket, committed with its first command. -/
def issue (claim : Option CapacityClaim) (header : EventHeader) (ticket : TradeTicket) :
    Except Raised Kernel :=
  match reduceEvent none (.ticketIssued header ticket) with
  | .error refusal => .error (.invalidLifecycleTransition refusal)
  | .ok reduction =>
      Kernel.commitReduction ⟨reduction.aggregate, Table.empty, [], claim⟩ header.occurredAtMs
        reduction

/-- What the use case reads of the kernel, with what it reads elsewhere. -/
def view (latestObservedAtMs : Option ℤ) (openIncidentKind : Option String) : ReconcileView :=
  ⟨latestObservedAtMs, openIncidentKind, kernel.commands.listForTicket⟩

/-- `reconcile_ticket` with its event committed. -/
def reconcile (latestObservedAtMs : Option ℤ) (openIncidentKind : Option String)
    (snapshot : PositionSnapshot) : Except Raised Kernel := do
  let outcome ← reconcileTicket (kernel.view latestObservedAtMs openIncidentKind)
    kernel.aggregate snapshot
  match outcome.recorded with
  | none => return kernel
  | some (event, reduction) => kernel.commitReduction event.occurredAtMs reduction

/-- A fact of a lifecycle worker, committed as the next event. -/
def advance (fact : PlainFact) (occurredAtMs : ℤ) : Except Raised Kernel := do
  refuse (¬ fact.val.advances) (.valueError "not a fact of a lifecycle worker")
  kernel.commitResult fact occurredAtMs kernel.commands

/-- What an action leaves. The times of a dispatch request are positive, and its lease ends after
it. -/
def apply : Action → Except Raised Kernel
  | .claim key workerId nowMs leaseUntilMs blockingVacuum => do
      refuse (¬ (0 < nowMs ∧ nowMs < leaseUntilMs))
        (.valueError "command lease must end after claim time")
      kernel.claimCommand key workerId nowMs leaseUntilMs blockingVacuum
  | .record key workerId answer => kernel.recordDispatchResult key workerId answer
  | .expire key nowMs =>
      if timed : 0 < nowMs then kernel.recordExpiredClaim key nowMs timed
      else .error (.valueError "dispatcher times must be positive")
  | .reconcile latestObservedAtMs openIncidentKind snapshot =>
      kernel.reconcile latestObservedAtMs openIncidentKind snapshot
  | .advance fact occurredAtMs => kernel.advance fact occurredAtMs

end Kernel

/-! ### Runs -/

/-- An action that meets a condition on the kernel it arrives at, and does not raise. -/
def KernelStep (allowed : Kernel → Action → Prop) (kernel : Kernel) (action : Action)
    (next : Kernel) : Prop :=
  kernel.apply action = .ok next ∧ allowed kernel action

/-- The runs from the issue of a Ticket whose actions all meet the condition. -/
structure KernelRun (allowed : Kernel → Action → Prop) (start : Kernel) (actions : List Action)
    (kernel : Kernel) : Prop where
  issued : ∃ claim header ticket, Kernel.issue claim header ticket = .ok start
  steps : Run (KernelStep allowed) start actions kernel

/-- **The rule for kernels.** What holds of a kernel that has just been issued, and is kept by every
action that meets the condition, holds along every run. -/
theorem KernelRun.invariant {allowed : Kernel → Action → Prop} {start kernel : Kernel}
    {actions : List Action} (run : KernelRun allowed start actions kernel) (Inv : Kernel → Prop)
    (issued : ∀ {claim header ticket next}, Kernel.issue claim header ticket = .ok next → Inv next)
    (kept : ∀ {kernel action next}, Inv kernel → kernel.apply action = .ok next →
      allowed kernel action → Inv next) : Inv kernel := by
  obtain ⟨claim, header, ticket, begun⟩ := run.issued
  exact run.steps.invariant Inv (issued begun) fun inv step => kept inv step.1 step.2

/-! ### What an action does -/

section Opening

variable {kernel next : Kernel}

/-- A commit of the next event: the reducer accepted it, and its effects were materialised. -/
structure Committed (kernel : Kernel) (commands : CommandTable) (event : TicketEvent)
    (reduction : Reduction) (occurredAtMs : ℤ) (next : Kernel) : Prop where
  accepted : AcceptedOn kernel.aggregate event reduction
  materialised : Materialised occurredAtMs reduction.effects
    { kernel with commands := commands, aggregate := reduction.aggregate } next

/-- What a ticket event accepted on a lifecycle has passed. -/
theorem AcceptedOn.of_reduceEvent {current : TradeAggregate} {event : TicketEvent}
    {reduction : Reduction}
    (reduced : reduceEvent (some current) (.ticketEvent event) = .ok reduction) :
    AcceptedOn current event reduction := by
  obtain ⟨other, same, ticket, sequence, accepted⟩ := reduceEvent_some_eq_ok.mp reduced
  obtain rfl := TradeEvent.ticketEvent.inj same
  exact ⟨ticket, sequence, accepted⟩

theorem Committed.of_commitResult {fact : PlainFact} {occurredAtMs : ℤ} {commands : CommandTable}
    (returned : kernel.commitResult fact occurredAtMs commands = .ok next) :
    ∃ event reduction, event.fact = fact.val ∧ event.occurredAtMs = occurredAtMs ∧
      Committed kernel commands event reduction occurredAtMs next := by
  obtain ⟨⟨event, reduction⟩, reduced, committed⟩ := bind_eq_ok.mp returned
  obtain ⟨reports, occurred, accepted⟩ := reduceNext_eq_ok reduced
  exact ⟨event, reduction, reports, occurred, .of_reduceEvent accepted,
    .of_commitReduction committed⟩

/-- An issued kernel: the aggregate of the Ticket, and the command it asks for. -/
theorem issue_eq_ok {claim : Option CapacityClaim} {header : EventHeader} {ticket : TradeTicket}
    (issued : Kernel.issue claim header ticket = .ok next) :
    Materialised header.occurredAtMs (issuedEffects ticket)
      ⟨issuedAggregate ticket 1, Table.empty, [], claim⟩ next := by
  unfold Kernel.issue at issued
  split at issued
  · simp at issued
  · rename_i reduction reduced
    obtain ⟨_, _, same, -, rfl⟩ := reduceEvent_none_eq_ok.mp reduced
    obtain ⟨rfl, rfl⟩ := TradeEvent.ticketIssued.inj same
    exact .of_commitReduction issued

/-- The row of a key is the row of that key. -/
theorem row_eq_some {key : CommandKey} {row : CommandRow} (found : kernel.row key = some row) :
    row ∈ kernel.commands ∧ row.key = key := by
  refine ⟨List.mem_of_find?_eq_some found, ?_⟩
  simpa using List.find?_some found

theorem row_of_mem {row : CommandRow} (member : row ∈ kernel.commands) :
    kernel.row row.key = some row := by
  cases found : kernel.row row.key with
  | none =>
    have absent := List.find?_eq_none.mp found row member
    simp at absent
  | some other =>
    obtain ⟨there, same⟩ := row_eq_some found
    rw [Table.eq_of_key there member same]

end Opening

/-! ### A first command at the market -/

/-- The Ticket enters at the market on the leverage that is there, under its claim and before it
expires. -/
structure EntersAtMarket (claim : CapacityClaim) (header : EventHeader) (ticket : TradeTicket) :
    Prop where
  market : ticket.entryOrderType = .market
  unpriced : ticket.entryLimitPrice = none
  levered : ticket.leverageChangeRequired = false ∧ 0 < ticket.selectedLeverage
  claimed : initialCommandClaim (some claim) ticket = .ok claim
  first : header.sequence = 1
  early : header.occurredAtMs < ticket.expiresAtMs

section Entering

variable {claim : CapacityClaim} {header : EventHeader} {ticket : TradeTicket}

/-- The order of the entry. -/
def marketEntryPayload (enters : EntersAtMarket claim header ticket) : OrderCommandPayload where
  toOrderTerms := entryTerms ticket (initialLeverageFactDigest claim)
  valid := by
    have shaped : IsSha256Digest (initialLeverageFactDigest claim) :=
      CanonicalJson.isSha256Digest_canonicalDigest _
    unfold OrderTerms.check OrderTerms.checkLimit OrderTerms.checkStop OrderTerms.checkReplacement
      OrderTerms.checkLeverage OrderTerms.hasReplacementMetadata
    simp [entryTerms, OrderType.conditional, enters.market, enters.unpriced, shaped, refuse,
      not_le.mpr enters.levered.2, not_le.mpr ticket.quantity_pos]
    rfl

/-- The command of the entry. -/
def marketEntry (enters : EntersAtMarket claim header ticket) : ExchangeCommand where
  commandId := buildCommandId ticket.identity.ticketId .entry 1
  ticketIdentity := ticket.identity
  kind := .entry
  generation := 1
  idempotencyKey := buildCommandId ticket.identity.ticketId .entry 1
  venueClientOrderId :=
    some (buildVenueClientOrderId (buildCommandId ticket.identity.ticketId .entry 1))
  payload := .order (marketEntryPayload enters)
  createdAtMs := header.occurredAtMs
  deadlineAtMs := ticket.expiresAtMs
  valid := by
    have timed := header.positive.2
    have later := timed.trans enters.early
    unfold CommandTerms.check CommandTerms.checkPayload CommandTerms.checkOrder
      OrderTerms.hasReplacementMetadata
    simp [marketEntryPayload, entryTerms, refuse, not_le.mpr timed, not_le.mpr later,
      not_le.mpr enters.early, buildVenueClientOrderId_length]
    rfl
  status := .prepared

/-- The Ticket as it was issued. -/
def issuedKernel (enters : EntersAtMarket claim header ticket) : Kernel where
  aggregate := issuedAggregate ticket 1
  commands := ⟨[⟨marketEntry enters, none, none, none⟩], List.nodup_singleton _⟩
  openIncidents := []
  claim := some claim

/-- Such a Ticket is issued, with its entry as the first command. -/
theorem EntersAtMarket.issue (enters : EntersAtMarket claim header ticket) :
    Kernel.issue (some claim) header ticket = .ok (issuedKernel enters) := by
  have validates : (entryTerms ticket (initialLeverageFactDigest claim)).validate =
      .ok (marketEntryPayload enters) := OrderTerms.validate_eq_ok.mpr rfl
  have entered : entryCommand ticket (initialLeverageFactDigest claim) header.occurredAtMs =
      .ok (marketEntry enters) := by
    refine bind_eq_ok.mpr ⟨_, validated_eq_ok.mpr validates, ?_⟩
    exact validated_eq_ok.mpr (CommandTerms.prepare_eq_ok.mpr ⟨rfl, rfl⟩)
  have materialised : Kernel.materialise header.occurredAtMs
      ⟨issuedAggregate ticket 1, Table.empty, [], some claim⟩
      (.prepareEntryCommand ticket none) = .ok (issuedKernel enters) :=
    bind_eq_ok.mpr ⟨claim, enters.claimed, bind_eq_ok.mpr ⟨_, entered, rfl⟩⟩
  have reduced : reduceEvent none (.ticketIssued header ticket) =
      .ok ⟨issuedAggregate ticket 1, [.prepareEntryCommand ticket none]⟩ := by
    simp [reduceEvent, issueTicket, issuedEffects, enters.first, enters.levered.1, refuse]
  unfold Kernel.issue
  rw [reduced]
  exact bind_eq_ok.mpr ⟨_, materialised, rfl⟩

end Entering

/-! ### A concrete Ticket -/

/-- The claim the sample Ticket was issued under. -/
def sampleClaim : CapacityClaim where
  capacityClaimId := sampleTicket.capacityClaimId
  ticketIdentity := sampleTicket.identity
  ownerPolicyId := sampleTicket.ownerPolicyId
  ownerPolicyVersion := 1
  runtimeScopeId := sampleTicket.runtimeScopeId
  runtimeScopeVersion := 1
  entryAdmissionSnapshotDigest := sampleDigest
  markPriceAtClaim := 100
  selectedLeverage := 5
  configuredLeverageAtClaim := 5
  leverageChangeRequired := false
  digestShape := sampleRequest.bracketsDigestShape

/-- The venue accepts a command under an order id. -/
def acceptedAs (exchangeOrderId : String) (given : ¬ Blank exchangeOrderId := by decide) :
    DispatchResult :=
  .order {
    status := .accepted
    observedAtMs := 1000
    exchangeOrderId := some exchangeOrderId
    valid := by simp [CommandResultTerms.check, refuse_bind_eq_ok, refuse_eq_ok, given] }

/-- The ENTRY, accepted. -/
def entryAnswer : DispatchResult := acceptedAs "entry-1"

/-- A venue call that timed out. -/
def timedOut : DispatchResult := .order (unknownResult "venue_timeout" 1000 (by decide))

/-- The first command of a kind, claimed and answered. -/
def dispatched (kind : ExchangeCommandKind) (answer : DispatchResult) : List Action :=
  [.claim ⟨kind, 1⟩ (named "worker-1") 1000 2000 none, .record ⟨kind, 1⟩ (named "worker-1") answer]

/-- The position of the sample fill. -/
def filledSnapshot : PositionSnapshot where
  nettingDomain := sampleTicket.identity.nettingDomain
  quantity := 4
  averageEntryPrice := some 100
  venueReportedLiquidationPrice := none
  openOrders := []
  observedAtMs := 1000
  quantityNonneg := by decide +kernel
  observed := by decide
  openPriced _ := ⟨100, rfl, by decide +kernel⟩
  flatUnpriced := by decide +kernel
  liquidationNonneg := PositionSnapshot.unliquidated

/-- No position. -/
def emptySnapshot : PositionSnapshot :=
  .flat sampleTicket.identity.nettingDomain 1000 (by decide)

/-- The sample Ticket filled, stopped, assessed and protected by TP1. -/
def protectedActions : List Action :=
  dispatched .entry entryAnswer ++ [.reconcile none none filledSnapshot] ++
    dispatched .initialStop (acceptedAs "stop-1") ++
    [.advance stressAssessedFact 1000] ++
    dispatched .takeProfit (acceptedAs "tp-1")

theorem sample_entersAtMarket : EntersAtMarket sampleClaim sampleIssue sampleTicket where
  market := rfl
  unpriced := rfl
  levered := ⟨rfl, by decide⟩
  claimed := by
    have same : ¬ differsFromTicket sampleClaim sampleTicket := by decide
    exact bind_eq_ok.mpr ⟨sampleClaim, rfl, refuse_bind_eq_ok.mpr ⟨same, rfl⟩⟩
  first := rfl
  early := by decide

/-- Actions on the sample Ticket, each of them allowed, that reach a kernel with a tested property
exhibit a run with it. -/
theorem exists_kernelRun (allowed : Kernel → Action → Prop)
    [∀ kernel action, Decidable (allowed kernel action)] (actions : List Action)
    (test : Kernel → Bool)
    (reaches : ((Run.evaluate (fun kernel action =>
        if allowed kernel action then (kernel.apply action).toOption else none)
      (issuedKernel sample_entersAtMarket) actions).any test) = true) :
    ∃ start kernel, KernelRun allowed start actions kernel ∧ test kernel = true := by
  obtain ⟨kernel, reached, tested⟩ := (Option.any_eq_true _ _).mp reaches
  exact ⟨_, kernel, ⟨⟨_, _, _, sample_entersAtMarket.issue⟩, Run.of_evaluate_ok reached⟩, tested⟩

end TradingKernel
