/-
**The namespace an order is cancelled in.**

The venue keeps stop orders apart from limit orders, and cancels an order only in the namespace it was
placed in. A cancel of the reducer takes its order from the stops and TP1 of the aggregate, but writes
`conditional` whichever it took (`cancelsOf_of_reduceFact`). So the cancels of a run name the right
namespace exactly where no TP1 is held when a flat position, or an orphan that reconciliation knows, has
an order cancelled (`cancelled_where_placed_iff`).
-/

import TradingKernel.Application.ReconcileTicket
import TradingKernel.Domain.Sources
import TradingKernel.Infrastructure.Materialised
import TradingKernel.Lifecycle.OrderNames
import TradingKernel.Lifecycle.Replay

namespace TradingKernel

open Text Guard Reducer

/-! ### Where orders are placed -/

/-- The namespace of the protective orders: stops are conditional, and the take-profit is a limit
order. -/
def ExchangeCommandKind.protectiveNamespace : ExchangeCommandKind → Option OrderNamespace
  | .initialStop | .replaceProtection => some .conditional
  | .takeProfit => some .regular
  | _ => none

/-- The commands that the unit of work prepares are of these types. -/
theorem orderNamespace_of_carriedOut {aggregate : TradeAggregate} {effect : KernelEffect}
    {command : ExchangeCommand} {payload : OrderCommandPayload}
    (carriedOut : effect.CarriedOutBy aggregate command) (order : command.payload = .order payload) :
    ∀ placed ∈ command.kind.protectiveNamespace, payload.orderType.orderNamespace = placed := by
  have typed {kind : ExchangeCommandKind} {terms : OrderTerms} (isOrder : IsOrder command kind terms)
      (typed : ∀ placed ∈ kind.protectiveNamespace, terms.orderType.orderNamespace = placed) :
      ∀ placed ∈ command.kind.protectiveNamespace, payload.orderType.orderNamespace = placed := by
    obtain ⟨rfl, other, isPayload, rfl⟩ := isOrder
    obtain rfl := CommandPayload.order.inj (order.symm.trans isPayload)
    exact typed
  cases effect with
  | prepareEntryCommand ticket digest =>
    obtain ⟨digest, isOrder⟩ := carriedOut
    exact typed isOrder (by simp [ExchangeCommandKind.protectiveNamespace])
  | prepareInitialStopCommand ticketId quantity stopPrice =>
    exact typed carriedOut (by rintro _ ⟨⟩; rfl)
  | prepareTakeProfitCommand ticketId quantity limitPrice =>
    exact typed carriedOut (by rintro _ ⟨⟩; rfl)
  | prepareProtectionReplacementCommand ticketId quantity stopPrice replaces watermarkMs =>
    exact typed carriedOut (by rintro _ ⟨⟩; rfl)
  | prepareExitCommand ticketId quantity reason =>
    exact typed carriedOut (by simp [ExchangeCommandKind.protectiveNamespace])
  | prepareControlledFlattenCommand ticketId quantity =>
    exact typed carriedOut (by simp [ExchangeCommandKind.protectiveNamespace])
  | prepareSetLeverageCommand ticket =>
    rw [carriedOut.1]
    simp [ExchangeCommandKind.protectiveNamespace]
  | cancelEntryRemainder ticketId =>
    obtain ⟨id, -, isCancel⟩ := carriedOut
    rw [isCancel.1]
    simp [ExchangeCommandKind.protectiveNamespace]
  | cancelVacuumEntryOrder ticketId id vacuumId =>
    rw [carriedOut.1]
    simp [ExchangeCommandKind.protectiveNamespace]
  | cancelProtectionOrders ticketId id orderNamespace purpose =>
    rw [carriedOut.1]
    simp [ExchangeCommandKind.protectiveNamespace]
  | _ => exact absurd carriedOut not_false

/-- The command a fact is the accepted result of, with the order id it returned. -/
def TicketFact.placed : TicketFact → Option (ExchangeCommandKind × String)
  | .entryAccepted id => some (.entry, strip id)
  | .initialStopConfirmed id _ => some (.initialStop, strip id)
  | .takeProfitConfirmed id _ => some (.takeProfit, strip id)
  | .protectionReplacementConfirmed fact => some (.replaceProtection, strip fact.exchangeOrderId)
  | .exitAccepted id => some (.exit, strip id)
  | .controlledFlattenAccepted id => some (.controlledFlatten, strip id)
  | _ => none

/-- The orders placed along a history, each with the kind of its command. -/
def placedOrders (history : List AcceptedEvent) : List (ExchangeCommandKind × String) :=
  history.filterMap fun entry => entry.fact?.bind TicketFact.placed

section Placed

variable {history later : List AcceptedEvent} {event : TicketEvent} {result : Reduction}

theorem placedOrders_append :
    placedOrders (history ++ later) = placedOrders history ++ placedOrders later :=
  List.filterMap_append ..

theorem placedOrders_accepted :
    placedOrders [accepted event result] = event.fact.placed.toList := by
  simp only [placedOrders, List.filterMap_cons, accepted_fact?, Option.bind_some,
    List.filterMap_nil]
  cases event.fact.placed <;> rfl

/-- Of distinct orders, an id belongs to one command. -/
theorem kind_unique (distinct : ((placedOrders history).map Prod.snd).Nodup)
    {first second : ExchangeCommandKind} {id : String} (one : (first, id) ∈ placedOrders history)
    (other : (second, id) ∈ placedOrders history) : first = second :=
  congrArg Prod.fst (List.inj_on_of_nodup_map distinct one other rfl)

end Placed

/-! ### What the aggregate holds was placed -/

/-- The order ids of an aggregate were returned for its protective orders. -/
structure OrdersPlaced (history : List AcceptedEvent) (current : TradeAggregate) : Prop where
  tp1 : ∀ id ∈ current.tp1ExchangeOrderId, (.takeProfit, id) ∈ placedOrders history
  active : ∀ id ∈ current.activeStopExchangeOrderId,
    ∃ kind ∈ ([.initialStop, .replaceProtection] : List ExchangeCommandKind),
      (kind, id) ∈ placedOrders history
  initial : ∀ id ∈ current.initialStopExchangeOrderId, (.initialStop, id) ∈ placedOrders history

namespace OrdersPlaced

variable {past : List AcceptedEvent} {current next : TradeAggregate} {event : TicketEvent}
  {result : Reduction}

/-- What was placed stays placed. -/
theorem extend (placed : OrdersPlaced past current) (later : List AcceptedEvent) :
    OrdersPlaced (past ++ later) current := by
  have more {order : ExchangeCommandKind × String} (member : order ∈ placedOrders past) :
      order ∈ placedOrders (past ++ later) := by
    rw [placedOrders_append]
    exact List.mem_append_left _ member
  refine ⟨fun id held => more (placed.tp1 id held), fun id held => ?_,
    fun id held => more (placed.initial id held)⟩
  obtain ⟨kind, stop, member⟩ := placed.active id held
  exact ⟨kind, stop, more member⟩

/-- Ids that are dropped or kept were placed. -/
theorem drop (placed : OrdersPlaced past current)
    (tp1 : ∀ id ∈ next.tp1ExchangeOrderId, current.tp1ExchangeOrderId = some id)
    (active : ∀ id ∈ next.activeStopExchangeOrderId, current.activeStopExchangeOrderId = some id)
    (initial : ∀ id ∈ next.initialStopExchangeOrderId,
      current.initialStopExchangeOrderId = some id) : OrdersPlaced past next :=
  ⟨fun id held => placed.tp1 id (tp1 id held), fun id held => placed.active id (active id held),
    fun id held => placed.initial id (initial id held)⟩

theorem placed_last {order : ExchangeCommandKind × String} (places : event.fact.placed = some order) :
    order ∈ placedOrders (past ++ [accepted event result]) := by
  rw [placedOrders_append, placedOrders_accepted, places]
  exact List.mem_append_right _ (List.mem_singleton.mpr rfl)

/-- **Every move keeps it.** -/
theorem moved (placed : OrdersPlaced past current) (move : Move current event event.fact result) :
    OrdersPlaced (past ++ [accepted event result]) result.aggregate := by
  have kept := placed.extend [accepted event result]
  have newly {order : ExchangeCommandKind × String} (places : event.fact.placed = some order) :
      order ∈ placedOrders (past ++ [accepted event result]) := placed_last places
  generalize reports : event.fact = fact at move
  have same (tp1 : result.aggregate.tp1ExchangeOrderId = current.tp1ExchangeOrderId)
      (active : result.aggregate.activeStopExchangeOrderId = current.activeStopExchangeOrderId)
      (initial : result.aggregate.initialStopExchangeOrderId = current.initialStopExchangeOrderId) :
      OrdersPlaced (past ++ [accepted event result]) result.aggregate :=
    kept.drop (fun _ held => tp1 ▸ held) (fun _ held => active ▸ held) (fun _ held => initial ▸ held)
  cases move with
  | initialStopConfirmed member target covers named silent =>
    have stop := newly (congrArg TicketFact.placed reports)
    exact ⟨kept.tp1, by rintro _ ⟨⟩; exact ⟨_, by simp, stop⟩, by rintro _ ⟨⟩; exact stop⟩
  | takeProfitConfirmed member named silent =>
    have order := newly (congrArg TicketFact.placed reports)
    exact ⟨by rintro _ ⟨⟩; exact order, kept.active, kept.initial⟩
  | takeProfitFilled status target active runner floor =>
    exact kept.drop (by rintro _ ⟨⟩) (fun _ => id) (fun _ => id)
  | protectionReplacementConfirmed member named covers replaces silent =>
    have stop := newly (congrArg TicketFact.placed reports)
    exact ⟨kept.tp1, by rintro _ ⟨⟩; exact ⟨_, by simp, stop⟩, kept.initial⟩
  | cleared clears member silent =>
    exact kept.drop (fun _ held => (forget_eq_some.mp held).1)
      (fun _ held => (forget_eq_some.mp held).1) (fun _ held => (forget_eq_some.mp held).1)
  | oldStopGone gone member pending silent =>
    exact kept.drop (fun _ => id) (fun _ => id) (fun _ held => (forget_eq_some.mp held).1)
  | _ => exact same rfl rfl rfl

theorem of_run {history : List AcceptedEvent} (run : LifecycleRun history current) :
    OrdersPlaced history current := by
  refine run.induct OrdersPlaced (fun header ticket => ⟨?_, ?_, ?_⟩)
    fun placed on => placed.moved on.move
  · rintro _ ⟨⟩
  · rintro _ ⟨⟩
  · rintro _ ⟨⟩

/-- Without a TP1, the next order to clean up is a stop. -/
theorem stop_of_next {history : List AcceptedEvent} (placed : OrdersPlaced history current)
    (untaken : current.tp1ExchangeOrderId = none) {id : String}
    (next : nextCleanupOrderId current = some id) :
    ∃ kind ∈ ([.initialStop, .replaceProtection] : List ExchangeCommandKind),
      (kind, id) ∈ placedOrders history := by
  rcases mem_knownCleanupOrderIds.mp (nextCleanupOrderId_mem next) with tp1 | active | initial
  · rw [untaken] at tp1
    simp at tp1
  · exact placed.active id active
  · exact ⟨.initialStop, by simp, placed.initial id initial⟩

/-- A held TP1 is the next order to clean up. -/
theorem next_of_taken {id : String} (taken : current.tp1ExchangeOrderId = some id) :
    nextCleanupOrderId current = some id := by
  simp [nextCleanupOrderId, knownCleanupOrderIds, taken, List.eraseDups_cons]

end OrdersPlaced

/-! ### What an event has cancelled -/

/-- The orders that an effect has cancelled, with the namespace it names. -/
def KernelEffect.cancel? : KernelEffect → Option (String × OrderNamespace)
  | .cancelProtectionOrders _ id orderNamespace _ => some (id, orderNamespace)
  | _ => none

def cancelsOf (effects : List KernelEffect) : List (String × OrderNamespace) :=
  effects.filterMap KernelEffect.cancel?

/-- The cancels of a fact: the first order to clean up and a replaced stop are taken for conditional
orders, and an orphan for what the fact says. -/
def TicketFact.cancels (current : TradeAggregate) : TicketFact → List (String × OrderNamespace)
  | .positionFlatConfirmed | .externalFlatDetected =>
      (nextCleanupOrderId current).toList.map fun id => (id, .conditional)
  | .ownedOrphanOrderDetected id orderNamespace => [(strip id, orderNamespace)]
  | .protectionReplacementConfirmed fact => [(fact.replacesExchangeOrderId, .conditional)]
  | _ => []

section Cancels

variable {current : TradeAggregate} {event : TicketEvent} {fact : TicketFact} {result : Reduction}
  {effects : List KernelEffect}

/-- Cancels are requests. -/
theorem cancelsOf_requests : cancelsOf (requests effects) = cancelsOf effects := by
  unfold cancelsOf requests
  rw [List.filterMap_filter]
  refine List.filterMap_congr fun effect _ => ?_
  cases effect <;> rfl

/-- The statuses that wait for the cancel of a protective order. -/
def cancellingStatuses : List AggregateStatus := [.runnerOldStopCancelPending, .reconciliationPending]

/-- An aggregate that waits for no cancel of a protective order has asked for none. -/
theorem cancelsOf_of_elsewhere (asks : Asks result)
    (elsewhere : result.aggregate.status ∉ cancellingStatuses) :
    cancelsOf result.effects = [] := by
  rw [← cancelsOf_requests]
  cases asks with
  | nothing none idle => rw [none]; rfl
  | one effect only awaited =>
    rw [only]
    cases effect with
    | cancelProtectionOrders ticketId id orderNamespace purpose =>
      refine absurd ?_ elsewhere
      rcases awaited with ⟨-, waits, -⟩ | ⟨-, waits, -⟩
      · rw [waits]
        decide
      · rw [waits]
        decide
    | _ => rfl

theorem cancelsOf_resolveCancelFrom {unknown : AggregateStatus} {id kind : String} :
    cancelsOf (current.resolveCancelFrom unknown id kind) = [] := by
  unfold TradeAggregate.resolveCancelFrom
  split_ifs <;> rfl

/-- **What an accepted fact has cancelled.** -/
theorem cancelsOf_of_reduceFact (reduced : reduceFact current event fact = .ok result) :
    cancelsOf result.effects = fact.cancels current := by
  have asks := Asks.of_reduceFact reduced
  have source := source_mem reduced
  cases Move.of_reduceFact reduced with
  | @kept fact status effects quiet edge silent cancelling =>
    have calm : fact.cancels current = [] := by
      cases fact <;> first | rfl | simp [TicketFact.quiet] at quiet
    rw [calm]
    by_cases cancels : status ∈ cancellingStatuses
    · -- of the quiet facts, only those of a reconciliation keep to these statuses
      have reconciling : current.status = .reconciliationPending :=
        (by decide : ∀ pair ∈ keptEdges, pair.2 ∈ cancellingStatuses →
          pair.1 = .reconciliationPending) _ edge cancels
      rw [reconciling] at source
      cases fact with
      | unownedOrderDetected id | cancelOrderRejected id reason
      | cancelOrderOutcomeUnknown id reason =>
        obtain ⟨-, -, same⟩ := reported_eq_ok.mp reduced
        rw [same]
        rfl
      | _ => simp [TicketFact.sources, TicketFact.quiet] at source quiet
    · exact cancelsOf_of_elsewhere asks cancels
  | @closedUnfilled fact status vacuumId first unfilled edge empty silent =>
    have calm : fact.cancels current = [] := by
      cases fact <;> first | rfl | simp [TicketFact.endsUnfilled] at unfilled
    rw [calm]
    exact cancelsOf_of_elsewhere asks
      ((by decide : ∀ pair ∈ unfilledEdges, pair.2 ∉ cancellingStatuses) _ edge)
  | @entryFilled fact member full =>
    exact cancelsOf_of_elsewhere asks ((by decide : ∀ status ∈ ([.controlledFlattenPending,
      .protectionPending] : List AggregateStatus), status ∉ cancellingStatuses) _
        (entryFilledTarget_mem fact))
  | initialStopConfirmed member target covers named silent =>
    exact cancelsOf_of_elsewhere asks ((by decide : ∀ status ∈ ([.controlledFlattenPending,
      .postFillRiskPending] : List AggregateStatus), status ∉ cancellingStatuses) _ target)
  | protectionReplacementConfirmed member named covers replaces silent =>
    obtain ⟨-, -, -, -, -, same⟩ := protectionReplacementConfirmed_eq_ok.mp reduced
    rw [same, transition_effects]
    unfold TradeAggregate.resolveFrom
    split_ifs <;> rfl
  | exitOrderAccepted loud edge silent =>
    have elsewhere := (by decide : ∀ pair ∈ exitEdges, pair.2 ∉ cancellingStatuses) _ edge
    rcases loud with rfl | rfl
    · exact cancelsOf_of_elsewhere asks elsewhere
    · exact cancelsOf_of_elsewhere asks elsewhere
  | positionFlatConfirmed member =>
    rw [flattened, transition_effects, TicketFact.cancels]
    cases nextCleanupOrderId current <;> cases current.entryLaneHeld <;> rfl
  | externalFlatDetected member next =>
    rw [TicketFact.cancels, next]
    rfl
  | ownedOrphanOrderDetected member named silent =>
    obtain ⟨-, -, same⟩ := ownedOrphanOrderDetected_eq_ok.mp reduced
    rw [same]
    rfl
  | cleared clears member silent =>
    rcases clears with rfl | rfl | rfl | rfl
    · obtain ⟨-, -, -, same⟩ := ownedOrderAbsenceConfirmed_eq_ok.mp reduced
      rw [same]
      rfl
    · obtain ⟨-, -, same⟩ | ⟨-, -, -, same⟩ := protectionCancelConfirmed_eq_ok.mp reduced
      · rw [same]
        rfl
      · rw [same]
        rfl
    · obtain ⟨-, -, -, same⟩ := ownedOrphanCancelConfirmed_eq_ok.mp reduced
      rw [same]
      rfl
    · obtain ⟨-, -, same⟩ := cancelOrderAbsenceConfirmed_eq_ok.mp reduced
      rw [same]
      exact cancelsOf_resolveCancelFrom
  | oldStopGone gone member pending silent =>
    rcases gone with rfl | rfl
    · exact cancelsOf_of_elsewhere asks (of_decide_eq_false rfl)
    · exact cancelsOf_of_elsewhere asks (of_decide_eq_false rfl)
  | @reviewed fact reviewId review member =>
    have calm : fact.cancels current = [] := by
      cases fact <;> first | rfl | simp [TicketFact.isReview] at review
    rw [calm]
    exact cancelsOf_of_elsewhere asks (of_decide_eq_false rfl)
  | _ => exact cancelsOf_of_elsewhere asks (of_decide_eq_false rfl)

end Cancels

/-! ### Orphans -/

section Orphans

variable {view : ReconcileView} {current : TradeAggregate} {snapshot : PositionSnapshot}
  {plan : ReconcilePlan} {fact : PlainFact} {id : String} {orderNamespace : OrderNamespace}

/-- The snapshot lists the order, in the namespace. -/
def Lists (snapshot : PositionSnapshot) (id : String) (orderNamespace : OrderNamespace) : Prop :=
  ∃ order ∈ snapshot.openOrders, order.exchangeOrderId.text = id ∧
    order.orderNamespace = orderNamespace

theorem Lists.strip_eq (listed : Lists snapshot id orderNamespace) : strip id = id := by
  obtain ⟨order, -, rfl, -⟩ := listed
  exact order.exchangeOrderId.stripped

theorem orphan_of_planOrphan {other : String} {listed : OrderNamespace}
    (records : (planOrphan view other listed).fact = some fact)
    (orphan : fact.val = .ownedOrphanOrderDetected id orderNamespace) :
    other = id ∧ listed = orderNamespace := by
  unfold planOrphan at records
  split_ifs at records
  obtain rfl := Option.some.inj records
  obtain ⟨rfl, rfl⟩ := TicketFact.ownedOrphanOrderDetected.inj orphan
  exact ⟨rfl, rfl⟩

/-- **The orphans of a reconciliation**: a known order, taken for a conditional one, or an order as the
venue lists it. -/
theorem orphan_of_planReconcile (planned : planReconcile view current snapshot = .ok plan)
    (records : plan.fact = some fact)
    (orphan : fact.val = .ownedOrphanOrderDetected id orderNamespace) :
    (current.status = .reconciliationPending ∧ nextCleanupOrderId current = some id ∧
        orderNamespace = .conditional) ∨
      (current.status = .reconciliationPending ∧ nextCleanupOrderId current = none ∧
        Lists snapshot id orderNamespace) ∨
      (current.status = .cancelRejected ∧ Lists snapshot id orderNamespace) := by
  have recorded : Reconciles current snapshot fact.val := .of_planReconcile planned records
  rw [orphan] at recorded
  unfold planReconcile at planned
  cases recorded with
  | orphan _ _ status idle =>
    simp only [status, reduceCtorEq, if_false, exitStatuses, plannedExternalFlatStatuses,
      List.mem_cons, List.not_mem_nil, or_self, false_and, if_true] at planned
    obtain rfl := pure_eq_ok.mp planned
    unfold planCleanup at records
    rw [if_neg (not_not.mpr idle)] at records
    split at records
    · split_ifs at records
      obtain rfl := Option.some.inj records
      simp at orphan
    · split at records
      · rename_i known next
        split_ifs at records
        · obtain ⟨rfl, rfl⟩ := orphan_of_planOrphan records orphan
          exact .inl ⟨status, next, rfl⟩
        · obtain rfl := Option.some.inj records
          simp at orphan
      · rename_i owned rest next listed
        obtain ⟨same, rfl⟩ := orphan_of_planOrphan records orphan
        refine .inr (.inl ⟨status, next, owned, ?_, same, rfl⟩)
        rw [listed]
        exact List.mem_cons_self
      · split_ifs at records
        obtain rfl := Option.some.inj records
        simp at orphan
  | retried _ _ status pending =>
    simp only [status, reduceCtorEq, if_false, exitStatuses, plannedExternalFlatStatuses,
      List.mem_cons, List.not_mem_nil, or_self, false_and, cancelStatuses, true_or,
      if_true] at planned
    obtain ⟨target, -, planned⟩ := demand_bind_eq_ok.mp planned
    obtain rfl := pure_eq_ok.mp planned
    unfold planFailedCancel at records
    split at records
    · rename_i order found
      split_ifs at records
      obtain rfl := Option.some.inj records
      obtain ⟨rfl, rfl⟩ := TicketFact.ownedOrphanOrderDetected.inj orphan
      exact .inr (.inr ⟨status, order, List.mem_of_find?_eq_some found, by simpa using List.find?_some found, rfl⟩)
    · obtain rfl := Option.some.inj records
      simp at orphan

end Orphans

/-! ### The law and its exception -/

/-- Every protective order is cancelled in the namespace it was placed in. -/
def CancelsWherePlaced (history : List AcceptedEvent) (effects : List KernelEffect) : Prop :=
  ∀ {ticketId id orderNamespace purpose},
    .cancelProtectionOrders ticketId id orderNamespace purpose ∈ effects →
    ∀ kind, (kind, id) ∈ placedOrders history → ∀ placed ∈ kind.protectiveNamespace,
      orderNamespace = placed

/-- The venue lists every protective order in the namespace it was placed in. -/
def ListsWherePlaced (history : List AcceptedEvent) (snapshot : PositionSnapshot) : Prop :=
  ∀ {id orderNamespace}, Lists snapshot id orderNamespace →
    ∀ kind, (kind, id) ∈ placedOrders history → ∀ placed ∈ kind.protectiveNamespace,
      orderNamespace = placed

/-- An orphan is one that the reconciliation found in a snapshot. -/
def OrphanFound (history : List AcceptedEvent) (current : TradeAggregate) (event : TicketEvent) :
    Prop :=
  ∀ {id orderNamespace}, event.fact = .ownedOrphanOrderDetected id orderNamespace →
    ∃ view snapshot plan fact, planReconcile view current snapshot = .ok plan ∧
      plan.fact = some fact ∧ fact.val = event.fact ∧ ListsWherePlaced history snapshot

/-- What has a known order cancelled finds no TP1: a flat position, and an orphan of a Ticket whose
cancels did not fail. -/
def CleansStop (current : TradeAggregate) (event : TicketEvent) : Prop :=
  match event.fact with
  | .positionFlatConfirmed | .externalFlatDetected => current.tp1ExchangeOrderId = none
  | .ownedOrphanOrderDetected _ _ =>
      current.status = .reconciliationPending → current.tp1ExchangeOrderId = none
  | _ => True

def cleansStop (current : TradeAggregate) (event : TicketEvent) : Bool :=
  match event.fact with
  | .positionFlatConfirmed | .externalFlatDetected => current.tp1ExchangeOrderId = none
  | .ownedOrphanOrderDetected _ _ =>
      current.status = .reconciliationPending → current.tp1ExchangeOrderId = none
  | _ => true

theorem cleansStop_iff (current : TradeAggregate) (event : TicketEvent) :
    cleansStop current event = true ↔ CleansStop current event := by
  unfold cleansStop CleansStop
  split <;> simp [imp_iff_not_or]

instance (current : TradeAggregate) (event : TicketEvent) : Decidable (CleansStop current event) :=
  decidable_of_iff _ (cleansStop_iff current event)

section Law

variable {history past : List AcceptedEvent} {aggregate current : TradeAggregate}
  {event : TicketEvent} {result : Reduction}

theorem cancelsWherePlaced_iff {effects : List KernelEffect} : CancelsWherePlaced past effects ↔
    ∀ cancel ∈ cancelsOf effects, ∀ kind, (kind, cancel.1) ∈ placedOrders past →
      ∀ placed ∈ kind.protectiveNamespace, cancel.2 = placed := by
  constructor
  · intro cancels cancel member
    obtain ⟨effect, asked, isCancel⟩ := List.mem_filterMap.mp member
    cases effect with
    | cancelProtectionOrders ticketId id orderNamespace purpose =>
      obtain rfl := Option.some.inj isCancel
      exact cancels asked
    | _ => simp [KernelEffect.cancel?] at isCancel
  · intro cancels ticketId id orderNamespace purpose asked
    exact cancels (id, orderNamespace) (List.mem_filterMap.mpr ⟨_, asked, rfl⟩)

/-- A stop may be cancelled as a conditional order. -/
theorem conditional_of_stop (distinct : ((placedOrders past).map Prod.snd).Nodup) {id : String}
    (stop : ∃ kind ∈ ([.initialStop, .replaceProtection] : List ExchangeCommandKind),
      (kind, id) ∈ placedOrders past) :
    ∀ kind, (kind, id) ∈ placedOrders past → ∀ placed ∈ kind.protectiveNamespace,
      OrderNamespace.conditional = placed := by
  intro kind order placed isPlaced
  obtain ⟨stopKind, isStop, member⟩ := stop
  obtain rfl := kind_unique distinct member order
  simp only [List.mem_cons, List.not_mem_nil, or_false] at isStop
  rcases isStop with rfl | rfl
  · exact Option.some.inj isPlaced
  · exact Option.some.inj isPlaced

/-- TP1 may not. -/
theorem not_conditional_of_taken (placed : OrdersPlaced past current) {id : String}
    (taken : current.tp1ExchangeOrderId = some id) :
    ¬ ∀ kind, (kind, id) ∈ placedOrders past → ∀ placed ∈ kind.protectiveNamespace,
      OrderNamespace.conditional = placed :=
  fun conditional => OrderNamespace.noConfusion
    (conditional .takeProfit (placed.tp1 id taken) .regular rfl)

/-- The first order to clean up is cancelled where it was placed exactly when it is not TP1. -/
theorem next_where_placed_iff (placed : OrdersPlaced past current)
    (distinct : ((placedOrders past).map Prod.snd).Nodup) :
    (∀ id ∈ nextCleanupOrderId current, ∀ kind, (kind, id) ∈ placedOrders past →
        ∀ placed ∈ kind.protectiveNamespace, OrderNamespace.conditional = placed) ↔
      current.tp1ExchangeOrderId = none := by
  constructor
  · intro conditional
    cases taken : current.tp1ExchangeOrderId with
    | none => rfl
    | some id =>
      exact absurd (conditional id (OrdersPlaced.next_of_taken taken))
        (not_conditional_of_taken placed taken)
  · intro untaken id next
    exact conditional_of_stop distinct (placed.stop_of_next untaken next)

/-- **One event cancels where orders were placed exactly when it cleans up a stop.** -/
theorem cancels_where_placed_iff (run : LifecycleRun past current)
    (distinct : ((placedOrders past).map Prod.snd).Nodup) (on : AcceptedOn current event result)
    (found : OrphanFound past current event) :
    CancelsWherePlaced past result.effects ↔ CleansStop current event := by
  have placed := OrdersPlaced.of_run run
  rw [cancelsWherePlaced_iff, cancelsOf_of_reduceFact on.reduced]
  unfold CleansStop
  cases reports : event.fact with
  | positionFlatConfirmed =>
    rw [← next_where_placed_iff placed distinct]
    simp [TicketFact.cancels]
  | externalFlatDetected =>
    rw [← next_where_placed_iff placed distinct]
    simp [TicketFact.cancels]
  | protectionReplacementConfirmed fact =>
    have reduced := on.reduced
    rw [reports] at reduced
    obtain ⟨-, -, -, active, -, -⟩ := protectionReplacementConfirmed_eq_ok.mp reduced
    simpa [TicketFact.cancels] using conditional_of_stop distinct (placed.active _ active)
  | ownedOrphanOrderDetected id orderNamespace =>
    obtain ⟨view, snapshot, plan, fact, planned, records, same, lists⟩ := found reports
    simp only [TicketFact.cancels, List.mem_singleton, forall_eq]
    rcases orphan_of_planReconcile planned records (same.trans reports) with
      ⟨status, next, rfl⟩ | ⟨status, next, listed⟩ | ⟨status, listed⟩
    · have isNamed := ((identified run).cleanup (nextCleanupOrderId_mem next) id rfl).1
      rw [isNamed, ← next_where_placed_iff placed distinct, next]
      simp [status]
    · have untaken := (knownCleanupOrderIds_eq_nil.mp (nextCleanupOrderId_eq_none.mp next)).1
      rw [listed.strip_eq]
      exact ⟨fun _ _ => untaken, fun _ => lists listed⟩
    · rw [listed.strip_eq]
      refine ⟨fun _ reconciling => ?_, fun _ => lists listed⟩
      rw [status] at reconciling
      exact AggregateStatus.noConfusion reconciling
  | _ => simp [TicketFact.cancels]

/-- What holds of each event of a history, at the aggregate it arrived at. -/
def EachEvent (history : List AcceptedEvent)
    (P : List AcceptedEvent → TradeAggregate → TicketEvent → Reduction → Prop) : Prop :=
  ∀ before event result later current, history = before ++ [accepted event result] ++ later →
    LifecycleRun before current → AcceptedOn current event result → P before current event result

/-- Issuing a Ticket cancels nothing. -/
theorem cancelsOf_issuedEffects (ticket : TradeTicket) : cancelsOf (issuedEffects ticket) = [] := by
  unfold issuedEffects
  split_ifs <;> rfl

/-- **Along every run whose orders have distinct ids, and whose orphans were found by the
reconciliation, every protective order is cancelled where it was placed exactly when every event
cleans up a stop.** -/
theorem cancelled_where_placed_iff (run : LifecycleRun history aggregate)
    (distinct : ((placedOrders history).map Prod.snd).Nodup)
    (found : EachEvent history fun before current event _ => OrphanFound before current event) :
    (∀ before entry later, history = before ++ [entry] ++ later →
        CancelsWherePlaced before entry.effects) ↔
      EachEvent history fun _ current event _ => CleansStop current event := by
  have at_event {before later : List AcceptedEvent} {event : TicketEvent} {result : Reduction}
      {current : TradeAggregate} (split : history = before ++ [accepted event result] ++ later)
      (begun : LifecycleRun before current) (on : AcceptedOn current event result) :
      CancelsWherePlaced before result.effects ↔ CleansStop current event := by
    refine cancels_where_placed_iff begun ?_ on (found _ _ _ _ _ split begun on)
    rw [split, List.append_assoc, placedOrders_append, List.map_append] at distinct
    exact distinct.of_append_left
  constructor
  · intro cancels before event result later current split begun on
    exact (at_event split begun on).mp (cancels before _ later split)
  · intro cleans before entry later split
    rcases run.at_entry split with ⟨header, ticket, rfl⟩ | ⟨current, event, result, begun, rfl, on⟩
    · rw [cancelsWherePlaced_iff, cancelsOf_issuedEffects]
      simp
    · exact (at_event split begun on).mpr (cleans _ _ _ _ _ split begun on)

/-- The entry reports no orphan. -/
def AcceptedEvent.withoutOrphan (entry : AcceptedEvent) : Bool :=
  match entry.fact? with
  | some (.ownedOrphanOrderDetected _ _) => false
  | _ => true

theorem found_of_withoutOrphan (none : history.all AcceptedEvent.withoutOrphan = true) :
    EachEvent history fun before current event _ => OrphanFound before current event := by
  intro before event result later current split _ _ id orderNamespace reports
  have member : accepted event result ∈ history := by
    rw [split]
    simp
  have free := List.all_eq_true.mp none _ member
  simp [AcceptedEvent.withoutOrphan, reports] at free

/-- The law on a position behind its stop whose TP1 was refused, and that is found flat. -/
theorem cancelled_where_placed_iff_when_untaken : ∃ history aggregate,
    LifecycleRun history aggregate ∧
      ("stop-1", .conditional) ∈ history.flatMap (fun entry => cancelsOf entry.effects) ∧
      ((∀ before entry later, history = before ++ [entry] ++ later →
          CancelsWherePlaced before entry.effects) ↔
        EachEvent history fun _ current event _ => CleansStop current event) := by
  obtain ⟨history, aggregate, run, reached⟩ := exists_run (fun _ _ => True)
    [⟨.entryAccepted "entry-1", rfl⟩, ⟨.entryFilled sampleFill, rfl⟩,
      ⟨.initialStopConfirmed "stop-1" 4, rfl⟩, ⟨.postFillStressAssessed sampleAssessment, rfl⟩,
      ⟨.takeProfitRejected "margin", rfl⟩, ⟨.externalFlatDetected, rfl⟩]
    (fun history _ =>
      ("stop-1", .conditional) ∈ history.flatMap (fun entry => cancelsOf entry.effects) ∧
        ((placedOrders history).map Prod.snd).Nodup ∧
        history.all AcceptedEvent.withoutOrphan = true) (by decide)
  simp only [decide_eq_true_eq] at reached
  exact ⟨history, aggregate, run.run, reached.1,
    cancelled_where_placed_iff run.run reached.2.1 (found_of_withoutOrphan reached.2.2)⟩

/-- **TP1 cancelled as a stop.** A protected position is found flat, and its take-profit limit order is
cancelled in the conditional namespace. -/
theorem take_profit_cancelled_as_conditional : ¬ ∀ history aggregate,
    LifecycleRun history aggregate → ((placedOrders history).map Prod.snd).Nodup →
      (EachEvent history fun before current event _ => OrphanFound before current event) →
      ∀ before entry later, history = before ++ [entry] ++ later →
        CancelsWherePlaced before entry.effects := by
  intro law
  obtain ⟨history, aggregate, run, reached⟩ := exists_run (fun _ _ => True)
    (protectedFacts ++ [⟨.externalFlatDetected, rfl⟩])
    (fun history _ => ((placedOrders history).map Prod.snd).Nodup ∧
      history.all AcceptedEvent.withoutOrphan = true ∧
      (.takeProfit, "tp-1") ∈ placedOrders history.dropLast ∧
      ∃ entry ∈ history.getLast?, ("tp-1", .conditional) ∈ cancelsOf entry.effects)
    (by decide)
  simp only [decide_eq_true_eq] at reached
  obtain ⟨distinct, free, placed, entry, last, cancels⟩ := reached
  have split : history = history.dropLast ++ [entry] ++ [] := by
    rw [List.append_nil]
    exact (List.dropLast_append_getLast? entry last).symm
  have right := cancelsWherePlaced_iff.mp (law history aggregate run.run distinct
    (found_of_withoutOrphan free) _ _ _ split) _ cancels .takeProfit placed .regular rfl
  exact OrderNamespace.noConfusion right

end Law

end TradingKernel
