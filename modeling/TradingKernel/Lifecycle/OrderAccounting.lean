/-
**What becomes of the stop and TP1 orders until a Ticket closes.**

Four fields of the aggregate hold the ids of protective orders: TP1, active stop, initial stop and
the stop that a runner stop has replaced. An id leaves them only by an event that accounts for it: a
TP1 fill, or a confirmed cancel or absence that carries it (`holds_moved`). The closing guard looks
at three of the fields. As long as no external flat arrives while a replaced stop is still to be
cancelled, the fourth is empty by then, and a closed Ticket has accounted for every order it ever
held (`closing_accounts_for_orders`). An external flat in that moment leaves the replaced stop
behind, and the Ticket closes without it (`closing_forgets_replaced_stop`).
-/

import TradingKernel.Lifecycle.Replay

namespace TradingKernel

open Text Reducer

/-! ### Orders held and accounted for -/

/-- The aggregate holds the order: as TP1, as a stop, or as a stop still to be cancelled. -/
def HoldsOrder (current : TradeAggregate) (id : String) : Prop :=
  current.tp1ExchangeOrderId = some id ∨ current.activeStopExchangeOrderId = some id ∨
    current.initialStopExchangeOrderId = some id ∨
    current.pendingReplacedStopExchangeOrderId = some id

/-- The fact accounts for the order: it is TP1's fill, or a fill, a confirmed cancel or a confirmed
absence that carries the order's id. -/
def Accounts (current : TradeAggregate) (fact : TicketFact) (id : String) : Prop :=
  match fact with
  | .takeProfitFilled _ => current.tp1ExchangeOrderId = some id
  | .vacuumLateFillAttributed fact => fact.exchangeOrderId = id
  | .entryVacuumOrderAbsenceConfirmed fact => fact.exchangeOrderId = id
  | .entryRemainderCancelConfirmed other | .entryVacuumCancelConfirmed other
  | .protectionCancelConfirmed other | .ownedOrphanCancelConfirmed other
  | .protectionCancelAbsenceConfirmed other | .ownedOrderAbsenceConfirmed other
  | .cancelOrderAbsenceConfirmed other => other = id
  | _ => False

/-- At some point of the history the order was TP1, the active stop or the initial stop. -/
def EverHeld (history : List AcceptedEvent) (id : String) : Prop :=
  ∃ earlier later current, history = earlier ++ later ∧ LifecycleRun earlier current ∧
    id ∈ knownCleanupOrderIds current

/-- Some event of the history accounts for the order. -/
def AccountedFor (history : List AcceptedEvent) (id : String) : Prop :=
  ∃ earlier entry later current fact, history = earlier ++ [entry] ++ later ∧
    LifecycleRun earlier current ∧ entry.fact? = some fact ∧ Accounts current fact id

/-- The event closes the Ticket. -/
def AcceptedEvent.closes (entry : AcceptedEvent) : Bool :=
  match entry.fact? with
  | some (.reconciliationMatched _) => true
  | _ => false

/-- When a Ticket closes, every order it ever held is accounted for, and no replaced stop is left
to be cancelled. -/
def ClosesAccounted (history : List AcceptedEvent) : Prop :=
  ∀ before entry later, history = before ++ [entry] ++ later → entry.closes = true →
    (∀ id, EverHeld before id → AccountedFor before id) ∧
      ∀ current, LifecycleRun before current → current.pendingReplacedStopExchangeOrderId = none

/-- An external flat arrives only when no replaced stop is still to be cancelled. -/
def FlatAfterCancel (current : TradeAggregate) (event : TicketEvent) : Prop :=
  match event.fact with
  | .externalFlatDetected => current.pendingReplacedStopExchangeOrderId = none
  | _ => True

def flatAfterCancel (current : TradeAggregate) (event : TicketEvent) : Bool :=
  match event.fact with
  | .externalFlatDetected => current.pendingReplacedStopExchangeOrderId = none
  | _ => true

theorem flatAfterCancel_iff (current : TradeAggregate) (event : TicketEvent) :
    flatAfterCancel current event = true ↔ FlatAfterCancel current event := by
  unfold flatAfterCancel FlatAfterCancel
  split <;> simp

instance (current : TradeAggregate) (event : TicketEvent) :
    Decidable (FlatAfterCancel current event) :=
  decidable_of_iff _ (flatAfterCancel_iff current event)

/-! ### Where the ids are -/

/-- The statuses before any stop is confirmed. -/
def unstoppedStatuses : List AggregateStatus :=
  [.leveragePending, .leverageConfirmed, .leverageOutcomeUnknown, .entryPending, .entryAccepted,
    .entryOutcomeUnknown, .partialFillIncident, .partialFillCancelRejected,
    .partialFillCancelOutcomeUnknown, .entryVacuumCancelPending, .entryVacuumCancelRejected,
    .entryVacuumCancelOutcomeUnknown, .entryVacuumCancelled, .protectionPending,
    .initialStopOutcomeUnknown]

/-- The statuses before TP1 is confirmed. -/
def untakenStatuses : List AggregateStatus :=
  unstoppedStatuses ++ [.postFillRiskPending, .tp1Pending, .tp1Rejected, .tp1OutcomeUnknown]

/-- The statuses in which a replaced stop is being cancelled. -/
def oldStopStatuses : List AggregateStatus :=
  [.runnerOldStopCancelPending, .runnerOldStopCancelRejected, .runnerOldStopCancelOutcomeUnknown]

/-- The fields that hold order ids are empty before their orders exist, and no replaced stop is
held outside its cancel. -/
structure OrderPlaces (current : TradeAggregate) : Prop where
  unstopped : current.status ∈ unstoppedStatuses →
    current.activeStopExchangeOrderId = none ∧ current.initialStopExchangeOrderId = none
  untaken : current.status ∈ untakenStatuses → current.tp1ExchangeOrderId = none
  settled : current.status ∉ oldStopStatuses → current.pendingReplacedStopExchangeOrderId = none

/-- A change of status that goes back behind none of the orders. -/
def Advances (source target : AggregateStatus) : Prop :=
  (target ∈ unstoppedStatuses → source ∈ unstoppedStatuses) ∧
    (target ∈ untakenStatuses → source ∈ untakenStatuses) ∧
    (target ∉ oldStopStatuses → source ∉ oldStopStatuses)

instance (source target : AggregateStatus) : Decidable (Advances source target) :=
  inferInstanceAs (Decidable (_ ∧ _ ∧ _))

/-- The four fields are as before. -/
structure SameOrders (current next : TradeAggregate) : Prop where
  tp1 : next.tp1ExchangeOrderId = current.tp1ExchangeOrderId := by rfl
  active : next.activeStopExchangeOrderId = current.activeStopExchangeOrderId := by rfl
  initial : next.initialStopExchangeOrderId = current.initialStopExchangeOrderId := by rfl
  replaced : next.pendingReplacedStopExchangeOrderId =
    current.pendingReplacedStopExchangeOrderId := by rfl

theorem SameOrders.holds {current next : TradeAggregate} (same : SameOrders current next)
    {id : String} : HoldsOrder next id ↔ HoldsOrder current id := by
  unfold HoldsOrder
  rw [same.tp1, same.active, same.initial, same.replaced]

namespace OrderPlaces

variable {current : TradeAggregate} {event : TicketEvent} {status : AggregateStatus}
  {updates : TradeAggregate → TradeAggregate} {effects : List KernelEffect}

theorem issued (ticket : TradeTicket) : OrderPlaces (issuedAggregate ticket 1) :=
  ⟨fun _ => ⟨rfl, rfl⟩, fun _ => rfl, fun _ => rfl⟩

/-- A move that advances and leaves the ids alone. -/
theorem same (places : OrderPlaces current) {sources : List AggregateStatus}
    (member : current.status ∈ sources) (advances : ∀ source ∈ sources, Advances source status)
    (orders : SameOrders current (updates current)) :
    OrderPlaces (transition current event status updates effects).aggregate := by
  obtain ⟨unstopped, untaken, settled⟩ := advances _ member
  obtain ⟨tp1, active, initial, replaced⟩ := orders
  constructor
  · intro before
    simpa [active, initial] using places.unstopped (unstopped before)
  · intro before
    simpa [tp1] using places.untaken (untaken before)
  · intro outside
    simpa [replaced] using places.settled (settled outside)

/-- The same along an edge. -/
theorem alongEdge (places : OrderPlaces current) {edges : List (AggregateStatus × AggregateStatus)}
    (edge : (current.status, status) ∈ edges) (advances : ∀ pair ∈ edges, Advances pair.1 pair.2)
    (orders : SameOrders current (updates current)) :
    OrderPlaces (transition current event status updates effects).aggregate :=
  places.same (List.mem_singleton.mpr (Eq.refl current.status))
    (fun _ source => List.mem_singleton.mp source ▸ advances _ edge) orders

/-- A move behind all orders, that leaves no replaced stop. -/
theorem behind (target : status ∉ untakenStatuses)
    (settled : status ∉ oldStopStatuses →
      (updates current).pendingReplacedStopExchangeOrderId = none) :
    OrderPlaces (transition current event status updates effects).aggregate :=
  ⟨fun before => absurd (List.mem_append_left _ before) target, fun before => absurd before target,
    settled⟩

/-- **Every move keeps the ids in their places**, when no external flat overtakes the cancel of a
replaced stop. -/
theorem moved (places : OrderPlaces current) (inTime : FlatAfterCancel current event)
    {result : Reduction} (move : Move current event event.fact result) :
    OrderPlaces result.aggregate := by
  have outside {sources : List AggregateStatus} (member : current.status ∈ sources)
      (sides : ∀ source ∈ sources, source ∉ oldStopStatuses) :
      current.pendingReplacedStopExchangeOrderId = none := places.settled (sides _ member)
  unfold FlatAfterCancel at inTime
  generalize event.fact = fact at move inTime
  cases move with
  | kept quiet edge silent => exact places.alongEdge edge (by decide) {}
  | closedUnfilled unfilled edge empty silent => exact places.alongEdge edge (by decide) {}
  | entryAccepted member named => exact places.same member (by decide) {}
  | entryFilled member full =>
    have advances := (by decide : ∀ target ∈ ([.controlledFlattenPending, .protectionPending] :
      List AggregateStatus), ∀ source ∈ ([.entryPending, .leverageConfirmed, .entryAccepted,
        .entryVacuumCancelled] : List AggregateStatus), Advances source target)
    exact places.same member (advances _ (entryFilledTarget_mem _)) {}
  | entryPartiallyFilled member some_of whole silent => exact places.same member (by decide) {}
  | entryVacuumCancelRequested member unfinished silent => exact places.same member (by decide) {}
  | entryVacuumOrderAbsenceConfirmed member bounded silent =>
    exact places.same member (by decide) {}
  | vacuumLateFillAttributed status empty bounded =>
    exact places.same (List.mem_singleton.mpr status) (by decide) {}
  | vacuumPartialRetained status exposure silent =>
    exact places.same (List.mem_singleton.mpr status) (by decide) {}
  | initialStopConfirmed member target covers named silent =>
    have advances := (by decide : ∀ target ∈ ([.controlledFlattenPending, .postFillRiskPending] :
      List AggregateStatus), ∀ source ∈ ([.protectionPending, .initialStopOutcomeUnknown] :
        List AggregateStatus), Advances source target ∧ target ∉ unstoppedStatuses)
    obtain ⟨⟨-, untaken, -⟩, stopped⟩ := advances _ target _ member
    exact ⟨fun before => absurd before stopped, fun before => places.untaken (untaken before),
      fun _ => outside member (by decide)⟩
  | stressFailed status failed => exact places.same (List.mem_singleton.mpr status) (by decide) {}
  | stressPassed status passed legs runner =>
    exact places.same (List.mem_singleton.mpr status) (by decide) {}
  | takeProfitConfirmed member named silent =>
    exact behind (by decide) fun _ => outside member (by decide)
  | takeProfitFilled status target active runner floor =>
    exact behind (by decide) fun _ => outside (List.mem_singleton.mpr status) (by decide)
  | runnerStopRequested status => exact places.same (List.mem_singleton.mpr status) (by decide) {}
  | protectionReplacementConfirmed member named covers replaces silent =>
    exact behind (by decide) fun elsewhere => absurd elsewhere (by decide)
  | exitOrderAccepted loud edge silent => exact places.alongEdge edge (by decide) {}
  | positionFlatConfirmed member => exact places.same member (by decide) {}
  | externalFlatDetected member next => exact behind (by decide) fun _ => inTime
  | ownedOrphanOrderDetected member named silent => exact places.same member (by decide) {}
  | cleared clears member silent => exact behind (by decide) fun _ => outside member (by decide)
  | oldStopGone gone member pending silent => exact behind (by decide) fun _ => rfl
  | reconciliationMatched status clean unprotected settled =>
    exact places.same (List.mem_singleton.mpr status) (by decide) {}
  | reviewed review member => exact places.same member (by decide) {}

/-- **An id leaves the four fields only by an event that accounts for its order.** -/
theorem holds_moved (places : OrderPlaces current) {fact : TicketFact} {result : Reduction}
    (move : Move current event fact result) {order : String} (holds : HoldsOrder current order) :
    Accounts current fact order ∨ HoldsOrder result.aggregate order := by
  have stays (same : SameOrders current result.aggregate) :
      Accounts current fact order ∨ HoldsOrder result.aggregate order :=
    .inr (same.holds.mpr holds)
  cases move with
  | initialStopConfirmed member target covers named silent =>
    have before := (by decide : ∀ status ∈ ([.protectionPending, .initialStopOutcomeUnknown] :
      List AggregateStatus), status ∈ unstoppedStatuses) _ member
    obtain ⟨noActive, noInitial⟩ := places.unstopped before
    rcases holds with tp1 | active | initial | replaced
    · exact .inr (.inl tp1)
    · simp [noActive] at active
    · simp [noInitial] at initial
    · exact .inr (.inr (.inr (.inr replaced)))
  | takeProfitConfirmed member named silent =>
    have before := (by decide : ∀ status ∈ ([.tp1Pending, .postFillRiskPending,
      .tp1OutcomeUnknown] : List AggregateStatus), status ∈ untakenStatuses) _ member
    rcases holds with tp1 | stops
    · simp [places.untaken before] at tp1
    · exact .inr (.inr stops)
  | takeProfitFilled status target active runner floor =>
    rcases holds with tp1 | kept
    · exact .inl tp1
    · exact .inr (.inr kept)
  | protectionReplacementConfirmed member named covers replaces silent =>
    have elsewhere := (by decide : ∀ status ∈ ([.runnerReplacementPending,
      .runnerReplacementOutcomeUnknown] : List AggregateStatus), status ∉ oldStopStatuses) _ member
    rcases holds with tp1 | active | initial | replaced
    · exact .inr (.inl tp1)
    · exact .inr (.inr (.inr (.inr (replaces.symm.trans active))))
    · exact .inr (.inr (.inr (.inl initial)))
    · simp [places.settled elsewhere] at replaced
  | cleared clears member silent =>
    rename_i cleared effects
    by_cases same : cleared = order
    · left
      rcases clears with rfl | rfl | rfl | rfl <;> exact same
    · right
      have kept {held : Option String} (holds : held = some order) :
          forget cleared held = some order :=
        forget_eq_some.mpr ⟨holds, fun equal => same equal.symm⟩
      exact holds.imp kept (Or.imp kept (Or.imp kept id))
  | oldStopGone gone member pending silent =>
    rename_i replaced effects
    by_cases same : replaced = order
    · left
      rcases gone with rfl | rfl <;> exact same
    · right
      rcases holds with tp1 | active | initial | pendingToo
      · exact .inl tp1
      · exact .inr (.inl active)
      · exact .inr (.inr (.inl (forget_eq_some.mpr ⟨initial, fun equal => same equal.symm⟩)))
      · exact absurd (Option.some.inj (pending.symm.trans pendingToo)) same
  | _ => exact stays {}

end OrderPlaces

/-! ### The trace of every order -/

section Trace

variable {past : List AcceptedEvent} {current : TradeAggregate} {event : TicketEvent}
  {result : Reduction} {order : String}

/-- An order held along a history that goes one event further was held before, or is held now. -/
theorem everHeld_snoc (run : LifecycleRun past current) (on : AcceptedOn current event result)
    (held : EverHeld (past ++ [accepted event result]) order) :
    EverHeld past order ∨ HoldsOrder result.aggregate order := by
  obtain ⟨earlier, later, middle, split, begun, known⟩ := held
  rcases List.eq_nil_or_concat later with rfl | ⟨rest, last, rfl⟩
  · rw [List.append_nil] at split
    obtain rfl := LifecycleRun.unique (split ▸ begun) (Run.snoc run on.accepts)
    exact .inr (mem_knownCleanupOrderIds.mp known |>.imp_right (Or.imp_right .inl))
  · rw [List.concat_eq_append, ← List.append_assoc] at split
    obtain ⟨rfl, -⟩ := List.append_inj' split rfl
    exact .inl ⟨earlier, rest, middle, rfl, begun, known⟩

theorem accountedFor_snoc {entry : AcceptedEvent} (accounted : AccountedFor past order) :
    AccountedFor (past ++ [entry]) order := by
  obtain ⟨earlier, before, later, middle, fact, rfl, rest⟩ := accounted
  exact ⟨earlier, before, later ++ [entry], middle, fact, by simp, rest⟩

theorem accountedFor_last (run : LifecycleRun past current)
    (accounts : Accounts current event.fact order) :
    AccountedFor (past ++ [accepted event result]) order :=
  ⟨past, accepted event result, [], current, event.fact, by simp, run, rfl, accounts⟩

/-- No order is held right after the issue. -/
theorem not_everHeld_issued {header : EventHeader} {ticket : TradeTicket} :
    ¬ EverHeld (issuedHistory header ticket) order := by
  rintro ⟨earlier, later, middle, split, begun, known⟩
  rcases List.eq_nil_or_concat earlier with rfl | ⟨rest, last, rfl⟩
  · have start := Run.nil_iff.mp begun
    simp at start
  · rw [List.concat_eq_append] at split begun
    have alone : rest = [] ∧ later = [] := by
      have length := congrArg List.length split
      simp only [issuedHistory, List.length_append, List.length_singleton] at length
      exact ⟨List.length_eq_zero_iff.mp (by omega), List.length_eq_zero_iff.mp (by omega)⟩
    obtain ⟨rfl, rfl⟩ := alone
    obtain ⟨state, start, ⟨result, reduced, -, same⟩⟩ := Run.snoc_iff.mp begun
    obtain rfl := Run.nil_iff.mp start
    obtain ⟨_, issued, -, -, rfl⟩ := reduceEvent_none_eq_ok.mp reduced
    obtain rfl := Option.some.inj same
    simp [mem_knownCleanupOrderIds, issuedAggregate] at known

/-- Every order ever held is accounted for, or still held in its place. -/
structure Traced (past : List AcceptedEvent) (current : TradeAggregate) : Prop where
  places : OrderPlaces current
  traced : ∀ order, EverHeld past order → AccountedFor past order ∨ HoldsOrder current order

/-- The invariant holds along every run in which no external flat overtakes the cancel of a
replaced stop. -/
theorem traced {history : List AcceptedEvent} {aggregate : TradeAggregate}
    (run : LifecycleRunIf FlatAfterCancel history aggregate) : Traced history aggregate := by
  refine run.induct Traced (fun header ticket => ⟨.issued ticket, fun order held =>
    absurd held not_everHeld_issued⟩) ?_
  intro past current event result soFar traced on inTime
  refine ⟨traced.places.moved inTime on.move, fun order held => ?_⟩
  rcases everHeld_snoc soFar.run on held with before | now
  · rcases traced.traced order before with accounted | holds
    · exact .inl (accountedFor_snoc accounted)
    · rcases traced.places.holds_moved on.move holds with accounts | kept
      · exact .inl (accountedFor_last soFar.run accounts)
      · exact .inr kept
  · exact .inr now

end Trace

/-! ### The law and its exception -/

theorem AcceptedEvent.closes_eq_true {entry : AcceptedEvent} :
    entry.closes = true ↔ ∃ kind, entry.fact? = some (.reconciliationMatched kind) := by
  unfold AcceptedEvent.closes
  split
  · rename_i kind reports
    exact ⟨fun _ => ⟨kind, reports⟩, fun _ => rfl⟩
  · rename_i other
    exact ⟨fun closes => absurd closes (by decide), fun ⟨kind, reports⟩ => absurd reports (other kind)⟩

/-- The closing event, the aggregate it arrived at, and what it required. -/
theorem closing_event {allowed : TradeAggregate → TicketEvent → Prop}
    {before : List AcceptedEvent} {entry : AcceptedEvent} {since : TradeAggregate}
    (begun : LifecycleRunIf allowed (before ++ [entry]) since) (closes : entry.closes = true) :
    ∃ current event, LifecycleRunIf allowed before current ∧
      current.status = .reconciliationPending ∧ knownCleanupOrderIds current = [] ∧
      since = (transition current event .settlementPending unchanged
        (matchedEffects current event)).aggregate := by
  obtain ⟨kind, reports⟩ := AcceptedEvent.closes_eq_true.mp closes
  obtain ⟨current, event, result, soFar, rfl, on, -, rfl⟩ :=
    begun.snoc_ticketEvent (by simp [reports])
  rw [accepted_fact?, Option.some.injEq] at reports
  have reduced := on.reduced
  rw [reports] at reduced
  obtain ⟨status, clean, -, -, rfl⟩ := reconciliationMatched_eq_ok.mp reduced
  exact ⟨current, event, soFar, status, clean, rfl⟩

section Law

variable {history : List AcceptedEvent} {aggregate : TradeAggregate}

/-- **When a Ticket closes, every stop and TP1 order it ever held is accounted for**, if no external
flat arrived while a replaced stop was still to be cancelled. -/
theorem closing_accounts_for_orders (run : LifecycleRunIf FlatAfterCancel history aggregate) :
    ClosesAccounted history := by
  rintro before entry later rfl closes
  obtain ⟨since, begun, -⟩ := run.through
  obtain ⟨current, event, soFar, status, clean, -⟩ := closing_event begun closes
  obtain ⟨noTp1, noActive, noInitial⟩ := knownCleanupOrderIds_eq_nil.mp clean
  have traced := traced soFar
  have settled : current.pendingReplacedStopExchangeOrderId = none :=
    traced.places.settled (by rw [status]; decide)
  constructor
  · intro order held
    rcases traced.traced order held with accounted | holds
    · exact accounted
    · simp [HoldsOrder, noTp1, noActive, noInitial, settled] at holds
  · intro other run
    rw [run.unique soFar.run]
    exact settled

/-- The law on a position found flat behind TP1 and its stop. -/
theorem closing_accounts_for_orders_of_external_flat : ∃ history aggregate,
    LifecycleRunIf FlatAfterCancel history aggregate ∧ aggregate.status = .settlementPending ∧
      ClosesAccounted history := by
  obtain ⟨history, aggregate, run, reached⟩ := exists_run FlatAfterCancel
    (protectedFacts ++ [⟨.externalFlatDetected, rfl⟩, ⟨.protectionCancelConfirmed "tp-1", rfl⟩,
      ⟨.ownedOrderAbsenceConfirmed "stop-1", rfl⟩, ⟨.reconciliationMatched none, rfl⟩])
    (fun _ aggregate => aggregate.status = .settlementPending) (by decide)
  exact ⟨history, aggregate, run, by simpa using reached, closing_accounts_for_orders run⟩

/-- **The forgotten stop.** The position is found flat while `stop-2` is being cancelled; `stop-3`
is cleaned up, and the Ticket closes with `stop-2` unaccounted for. -/
theorem closing_forgets_replaced_stop : ¬ ∀ history aggregate, LifecycleRun history aggregate →
    ClosesAccounted history := by
  intro law
  obtain ⟨history, aggregate, run, reached⟩ := exists_run (fun _ _ => True)
    (runnerFacts ++ [⟨.externalFlatDetected, rfl⟩, ⟨.protectionCancelConfirmed "stop-3", rfl⟩,
      ⟨.reconciliationMatched none, rfl⟩])
    (fun history aggregate => aggregate.pendingReplacedStopExchangeOrderId = some "stop-2" ∧
      history.getLast?.map AcceptedEvent.closes = some true) (by decide +kernel)
  simp only [decide_eq_true_eq] at reached
  obtain ⟨pending, last⟩ := reached
  obtain ⟨entry, isLast, closes⟩ := Option.map_eq_some_iff.mp last
  obtain ⟨before, rfl⟩ := List.getLast?_eq_some_iff.mp isLast
  obtain ⟨current, event, soFar, -, -, rfl⟩ := closing_event run closes
  have settled := (law _ _ run.run before entry [] (by simp) closes).2 current soFar.run
  rw [transition_aggregate_pendingReplacedStopExchangeOrderId] at pending
  simp [unchanged, settled] at pending

end Law

end TradingKernel
