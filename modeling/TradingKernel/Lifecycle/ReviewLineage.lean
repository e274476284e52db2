/-
**Which closed Tickets can be reviewed.**

A run to REVIEW_PENDING recognises the ENTRY in exactly one event and finds the position flat in exactly
one later event (`entry_told_once`, `flat_told_once`). The review window looks for the first of the two
among full and partial fills only, so it exists, with the recognised quantity, exactly where no part of
an ENTRY withdrawn by a vacuum was retained or flattened, and the flat event is not stamped before the
fill (`review_window_iff_told_by_fill`). `flattened_part_has_no_window` is a run to REVIEW_PENDING whose
review can never be prepared.
-/

import TradingKernel.Interfaces.ReviewSettlement
import TradingKernel.Lib.Crossing
import TradingKernel.Lifecycle.ExitQuantities
import TradingKernel.Lifecycle.OutcomeIncidents

namespace TradingKernel

open Text Guard Reducer

/-! ### The events that settle the entry -/

/-- The fact settles a part of an ENTRY that a vacuum withdrew. -/
def TicketFact.settlesPart : TicketFact → Bool
  | .vacuumPartialRetained _ | .vacuumPartialFlattenRequired _ => true
  | _ => false

/-- The quantity of the ENTRY that a fact settles. A late fill is in the position of the withdrawn
ENTRY, and is settled with it. -/
def TicketFact.entryQuantity : TicketFact → Option ℚ
  | .entryFilled fact => some fact.filledQty
  | .entryPartiallyFilled filledQty _ _ => some filledQty
  | .vacuumPartialRetained fact => some fact.finalFilledQty
  | .vacuumPartialFlattenRequired fact => some fact.finalFilledQty
  | _ => none

/-- The statuses of a Ticket that has recognised no entry. -/
def unenteredStatuses : List AggregateStatus :=
  [.leveragePending, .leverageOutcomeUnknown, .leverageConfirmed, .leverageRejected, .entryPending,
    .entryAccepted, .entryOutcomeUnknown, .entryRejected, .entryReconciledAbsent,
    .entryVacuumCancelPending, .entryVacuumCancelRejected, .entryVacuumCancelOutcomeUnknown,
    .entryVacuumCancelled]

/-- The event on the Ticket that was accepted, where it is one. -/
def AcceptedEvent.onTicket (entry : AcceptedEvent) : Option TicketEvent := entry.event.onTicket

/-- The events on the Ticket. -/
def ticketEvents (history : List AcceptedEvent) : List TicketEvent :=
  history.filterMap AcceptedEvent.onTicket

/-- An accepted event on the Ticket with a kind of fact. -/
def AcceptedEvent.tells (kind : TicketFact → Bool) (entry : AcceptedEvent) : Bool :=
  entry.onTicket.any fun event => kind event.fact

/-- The entry of a run is of a quantity: the run opened the position once, and whenever it was in an
opening status the position was that. -/
structure RecognisesEntry (history : List AcceptedEvent) (quantity : ℚ) : Prop where
  opened : ∃ before later opened, history = before ++ later ∧ LifecycleRun before opened ∧
    opened.status ∈ openingStatuses
  position : ∀ before later opened, history = before ++ later → LifecycleRun before opened →
    opened.status ∈ openingStatuses → opened.positionQty = quantity

/-- The review of a closed Ticket can be prepared: there is a window, and it has the quantity that the
Ticket recognised. -/
def Reviewable (history : List AcceptedEvent) (aggregate : TradeAggregate) : Prop :=
  ∃ window, reviewWindow (history.map AcceptedEvent.event) aggregate.ticket.createdAtMs =
    .ok (some window) ∧ RecognisesEntry history window.executedEntryQuantity

/-- No part of a withdrawn ENTRY was retained or flattened, and the position was not found flat before
it was filled. -/
structure ToldByFill (history : List AcceptedEvent) : Prop where
  whole : ∀ event ∈ ticketEvents history, event.fact.settlesPart = false
  ordered : ∀ entry ∈ ticketEvents history, ∀ flat ∈ ticketEvents history,
    entry.fact.windowFill.isSome = true → flat.fact.findsFlat = true →
      entry.occurredAtMs ≤ flat.occurredAtMs

theorem windowFill_or_settlesPart (fact : TicketFact) : fact.entryQuantity.isSome = true ↔
    fact.windowFill.isSome = true ∨ fact.settlesPart = true := by
  cases fact <;> simp [TicketFact.entryQuantity, TicketFact.windowFill, TicketFact.settlesPart]

theorem entryQuantity_of_windowFill {fact : TicketFact} {quantity : ℚ}
    (filled : fact.windowFill = some quantity) : fact.entryQuantity = some quantity := by
  cases fact <;> simp_all [TicketFact.entryQuantity, TicketFact.windowFill]

theorem not_settlesPart_of_windowFill {fact : TicketFact} (filled : fact.windowFill.isSome = true) :
    fact.settlesPart = false := by
  cases fact <;> simp_all [TicketFact.settlesPart, TicketFact.windowFill]

/-! ### One event settles the entry, and one finds the position flat -/

section Move

variable {current : TradeAggregate} {event : TicketEvent} {result : Reduction}

/-- A settling fact arrives where no entry was recognised, and leaves the position it names in an
opening status. -/
theorem opened_of_settles {quantity : ℚ} (on : AcceptedOn current event result)
    (settles : event.fact.entryQuantity = some quantity) :
    current.status ∈ unenteredStatuses ∧ result.aggregate.status ∈ openingStatuses ∧
      result.aggregate.positionQty = quantity := by
  have reduced := on.reduced
  cases told : event.fact with
  | entryFilled fact =>
    rw [told] at reduced settles
    obtain ⟨member, -, -, -, rfl⟩ := entryFilled_eq_ok.mp reduced
    exact ⟨(by decide : ∀ status ∈ ([.entryPending, .leverageConfirmed, .entryAccepted,
        .entryVacuumCancelled] : List AggregateStatus), status ∈ unenteredStatuses) _ member,
      (by decide : ∀ status ∈ ([.controlledFlattenPending, .protectionPending] :
        List AggregateStatus), status ∈ openingStatuses) _ (entryFilledTarget_mem fact),
      Option.some.inj settles⟩
  | entryPartiallyFilled filledQty requestedQty price =>
    rw [told] at reduced settles
    obtain ⟨member, -, -, rfl⟩ := entryPartiallyFilled_eq_ok.mp reduced
    exact ⟨(by decide : ∀ status ∈ ([.entryPending, .leverageConfirmed, .entryAccepted] :
        List AggregateStatus), status ∈ unenteredStatuses) _ member,
      (by decide : AggregateStatus.partialFillIncident ∈ openingStatuses), Option.some.inj settles⟩
  | vacuumPartialRetained fact =>
    rw [told] at reduced settles
    obtain ⟨status, exposure, -, -, rfl⟩ := vacuumPartialRetained_eq_ok.mp reduced
    exact ⟨status ▸ by decide, (by decide : AggregateStatus.protectionPending ∈ openingStatuses),
      exposure.2.2.1.symm.trans (Option.some.inj settles)⟩
  | vacuumPartialFlattenRequired fact =>
    rw [told] at reduced settles
    obtain ⟨status, exposure, rfl⟩ := vacuumPartialFlattenRequired_eq_ok.mp reduced
    exact ⟨status ▸ by decide,
      (by decide : AggregateStatus.controlledFlattenPending ∈ openingStatuses),
      exposure.2.1.symm.trans (Option.some.inj settles)⟩
  | _ => simp [told, TicketFact.entryQuantity] at settles

/-- The only quiet fact about a withdrawn ENTRY settles a part of it. -/
theorem settles_of_quiet {fact : TicketFact} (source : .entryVacuumCancelled ∈ fact.sources)
    (quiet : fact.quiet = true) : fact.entryQuantity ≠ none := by
  cases fact <;> simp_all [TicketFact.sources, TicketFact.quiet, TicketFact.entryQuantity,
    externalFlatStatuses]

/-- Any other fact recognises no entry, and undoes none. -/
theorem unentered_iff_of_other (on : AcceptedOn current event result)
    (other : event.fact.entryQuantity = none) :
    (result.aggregate.status ∈ unenteredStatuses ↔ current.status ∈ unenteredStatuses) := by
  have source := source_mem on.reduced
  have move := on.move
  generalize event.fact = fact at other source move
  have side {sources : List AggregateStatus} (target : AggregateStatus)
      (member : current.status ∈ sources)
      (every : ∀ source ∈ sources, (target ∈ unenteredStatuses ↔ source ∈ unenteredStatuses)) :
      (target ∈ unenteredStatuses ↔ current.status ∈ unenteredStatuses) := every _ member
  cases move with
  | kept quiet edge silent =>
    have present : current.status ≠ .entryVacuumCancelled := by
      intro withdrawn
      rw [withdrawn] at source
      exact settles_of_quiet source quiet other
    exact (by decide : ∀ edge ∈ keptEdges, edge.1 ≠ .entryVacuumCancelled →
      (edge.2 ∈ unenteredStatuses ↔ edge.1 ∈ unenteredStatuses)) _ edge present
  | closedUnfilled unfilled edge empty silent =>
    exact (by decide : ∀ edge ∈ unfilledEdges,
      (edge.2 ∈ unenteredStatuses ↔ edge.1 ∈ unenteredStatuses)) _ edge
  | entryAccepted member named => exact side .entryAccepted member (by decide)
  | entryFilled member full => simp [TicketFact.entryQuantity] at other
  | entryPartiallyFilled member some_of whole silent => simp [TicketFact.entryQuantity] at other
  | entryVacuumCancelRequested member unfinished silent =>
    exact side .entryVacuumCancelPending member (by decide)
  | entryVacuumOrderAbsenceConfirmed member bounded silent =>
    exact side .entryVacuumCancelled member (by decide)
  | vacuumLateFillAttributed status empty bounded =>
    exact side .entryVacuumCancelled (List.mem_singleton.mpr status) (by decide)
  | vacuumPartialRetained status exposure silent => simp [TicketFact.entryQuantity] at other
  | initialStopConfirmed member target covers named silent =>
    have entered := (by decide : ∀ status ∈ ([.protectionPending, .initialStopOutcomeUnknown] :
      List AggregateStatus), status ∉ unenteredStatuses) _ member
    exact iff_of_false ((by decide : ∀ status ∈ ([.controlledFlattenPending, .postFillRiskPending] :
      List AggregateStatus), status ∉ unenteredStatuses) _ target) entered
  | stressFailed status failed =>
    exact side .controlledFlattenPending (List.mem_singleton.mpr status) (by decide)
  | stressPassed status passed legs runner =>
    exact side .tp1Pending (List.mem_singleton.mpr status) (by decide)
  | takeProfitConfirmed member named silent => exact side .positionProtected member (by decide)
  | takeProfitFilled status target active runner floor =>
    exact side .runnerReplacementPending (List.mem_singleton.mpr status) (by decide)
  | runnerStopRequested status =>
    exact side .runnerReplacementPending (List.mem_singleton.mpr status) (by decide)
  | protectionReplacementConfirmed member named covers replaces silent =>
    exact side .runnerOldStopCancelPending member (by decide)
  | exitOrderAccepted loud edge silent =>
    exact (by decide : ∀ edge ∈ exitEdges,
      (edge.2 ∈ unenteredStatuses ↔ edge.1 ∈ unenteredStatuses)) _ edge
  | positionFlatConfirmed member => exact side .reconciliationPending member (by decide)
  | externalFlatDetected member next => exact side .reconciliationPending member (by decide)
  | ownedOrphanOrderDetected member named silent =>
    exact side .reconciliationPending member (by decide)
  | cleared clears member silent => exact side .reconciliationPending member (by decide)
  | oldStopGone gone member pending silent => exact side .runnerProtected member (by decide)
  | reconciliationMatched status clean unprotected settled =>
    exact side .settlementPending (List.mem_singleton.mpr status) (by decide)
  | reviewed review member => exact side .terminal member (by decide)

/-- The position is found flat where it was not, and the Ticket is without it from then on. -/
theorem flat_of_findsFlat (on : AcceptedOn current event result)
    (flat : event.fact.findsFlat = true) :
    current.status ∉ flatStatuses ∧ result.aggregate.status ∈ flatStatuses := by
  have reduced := on.reduced
  cases told : event.fact with
  | positionFlatConfirmed =>
    rw [told] at reduced
    obtain ⟨member, rfl⟩ := positionFlatConfirmed_eq_ok.mp reduced
    exact ⟨(by decide : ∀ status ∈ ([.exitPending, .exitAccepted, .exitRejected,
        .exitOutcomeUnknown, .controlledFlattenPending, .controlledFlattenAccepted,
        .controlledFlattenRejected, .controlledFlattenOutcomeUnknown] : List AggregateStatus),
        status ∉ flatStatuses) _ member, (by decide : AggregateStatus.reconciliationPending ∈ _)⟩
  | externalFlatDetected =>
    rw [told] at reduced
    obtain ⟨member, _, -, rfl⟩ := externalFlatDetected_eq_ok.mp reduced
    exact ⟨(by decide : ∀ status ∈ externalFlatStatuses, status ∉ flatStatuses) _ member,
      (by decide : AggregateStatus.reconciliationPending ∈ _)⟩
  | _ => simp [told, TicketFact.findsFlat] at flat

/-- Any other fact finds no position flat. -/
theorem flat_iff_of_other (on : AcceptedOn current event result)
    (other : event.fact.findsFlat = false) :
    (result.aggregate.status ∈ flatStatuses ↔ current.status ∈ flatStatuses) := by
  have move := on.move
  generalize event.fact = fact at other move
  have side {sources : List AggregateStatus} (target : AggregateStatus)
      (member : current.status ∈ sources)
      (every : ∀ source ∈ sources, (target ∈ flatStatuses ↔ source ∈ flatStatuses)) :
      (target ∈ flatStatuses ↔ current.status ∈ flatStatuses) := every _ member
  cases move with
  | kept quiet edge silent =>
    exact (by decide : ∀ edge ∈ keptEdges, (edge.2 ∈ flatStatuses ↔ edge.1 ∈ flatStatuses)) _ edge
  | closedUnfilled unfilled edge empty silent =>
    exact (by decide : ∀ edge ∈ unfilledEdges,
      (edge.2 ∈ flatStatuses ↔ edge.1 ∈ flatStatuses)) _ edge
  | entryAccepted member named => exact side .entryAccepted member (by decide)
  | entryFilled member full =>
    exact iff_of_false
      ((by decide : ∀ status ∈ ([.controlledFlattenPending, .protectionPending] :
        List AggregateStatus), status ∉ flatStatuses) _ (entryFilledTarget_mem _))
      ((by decide : ∀ status ∈ ([.entryPending, .leverageConfirmed, .entryAccepted,
        .entryVacuumCancelled] : List AggregateStatus), status ∉ flatStatuses) _ member)
  | entryPartiallyFilled member some_of whole silent =>
    exact side .partialFillIncident member (by decide)
  | entryVacuumCancelRequested member unfinished silent =>
    exact side .entryVacuumCancelPending member (by decide)
  | entryVacuumOrderAbsenceConfirmed member bounded silent =>
    exact side .entryVacuumCancelled member (by decide)
  | vacuumLateFillAttributed status empty bounded =>
    exact side .entryVacuumCancelled (List.mem_singleton.mpr status) (by decide)
  | vacuumPartialRetained status exposure silent =>
    exact side .protectionPending (List.mem_singleton.mpr status) (by decide)
  | initialStopConfirmed member target covers named silent =>
    exact iff_of_false
      ((by decide : ∀ status ∈ ([.controlledFlattenPending, .postFillRiskPending] :
        List AggregateStatus), status ∉ flatStatuses) _ target)
      ((by decide : ∀ status ∈ ([.protectionPending, .initialStopOutcomeUnknown] :
        List AggregateStatus), status ∉ flatStatuses) _ member)
  | stressFailed status failed =>
    exact side .controlledFlattenPending (List.mem_singleton.mpr status) (by decide)
  | stressPassed status passed legs runner =>
    exact side .tp1Pending (List.mem_singleton.mpr status) (by decide)
  | takeProfitConfirmed member named silent => exact side .positionProtected member (by decide)
  | takeProfitFilled status target active runner floor =>
    exact side .runnerReplacementPending (List.mem_singleton.mpr status) (by decide)
  | runnerStopRequested status =>
    exact side .runnerReplacementPending (List.mem_singleton.mpr status) (by decide)
  | protectionReplacementConfirmed member named covers replaces silent =>
    exact side .runnerOldStopCancelPending member (by decide)
  | exitOrderAccepted loud edge silent =>
    exact (by decide : ∀ edge ∈ exitEdges, (edge.2 ∈ flatStatuses ↔ edge.1 ∈ flatStatuses)) _ edge
  | positionFlatConfirmed member => simp [TicketFact.findsFlat] at other
  | externalFlatDetected member next => simp [TicketFact.findsFlat] at other
  | ownedOrphanOrderDetected member named silent =>
    exact side .reconciliationPending member (by decide)
  | cleared clears member silent => exact side .reconciliationPending member (by decide)
  | oldStopGone gone member pending silent => exact side .runnerProtected member (by decide)
  | reconciliationMatched status clean unprotected settled =>
    exact side .settlementPending (List.mem_singleton.mpr status) (by decide)
  | reviewed review member => exact side .terminal member (by decide)

end Move

/-! ### The two lines a run crosses -/

/-- No entry has been recognised yet. -/
def Unentered (state : Option TradeAggregate) : Prop :=
  ∀ aggregate ∈ state, aggregate.status ∈ unenteredStatuses

/-- The position has not been found flat yet. -/
def Unflattened (state : Option TradeAggregate) : Prop :=
  ∀ aggregate ∈ state, aggregate.status ∉ flatStatuses

/-- An accepted event issues the Ticket, or arrives at it. -/
theorem accepts_cases {state next : Option TradeAggregate} {entry : AcceptedEvent}
    (accepts : Accepts state entry next) :
    (state = none ∧ entry.onTicket = none ∧ ∃ ticket, next = some (issuedAggregate ticket 1)) ∨
      ∃ current event result, state = some current ∧ entry.onTicket = some event ∧
        next = some result.aggregate ∧ AcceptedOn current event result := by
  obtain ⟨result, reduced, -, rfl⟩ := accepts
  cases state with
  | none =>
    obtain ⟨header, ticket, same, -, rfl⟩ := reduceEvent_none_eq_ok.mp reduced
    exact .inl ⟨rfl, congrArg TradeEvent.onTicket same, ticket, rfl⟩
  | some current =>
    obtain ⟨event, same, ticket, sequence, accepted⟩ := reduceEvent_some_eq_ok.mp reduced
    exact .inr ⟨current, event, result, rfl, congrArg TradeEvent.onTicket same, rfl, ticket,
      sequence, accepted⟩

theorem unentered_issued (ticket : TradeTicket) : Unentered (some (issuedAggregate ticket 1)) := by
  rintro _ ⟨⟩
  exact (by decide : ∀ status ∈ ([.leveragePending, .entryPending] : List AggregateStatus),
    status ∈ unenteredStatuses) _ (issued_status ticket 1)

theorem unflattened_issued (ticket : TradeTicket) :
    Unflattened (some (issuedAggregate ticket 1)) := by
  rintro _ ⟨⟩
  exact issued_not_mem ticket (by decide)

/-- The entry is recognised where a run leaves the statuses without one. -/
theorem entry_crossing :
    Crossing Accepts Unentered (AcceptedEvent.tells fun fact => fact.entryQuantity.isSome) where
  passes := by
    intro state entry next accepts tells
    unfold AcceptedEvent.tells at tells
    rcases accepts_cases accepts with ⟨rfl, issue, -⟩ | ⟨current, event, result, rfl, told, rfl, on⟩
    · rw [issue] at tells
      simp at tells
    · rw [told] at tells
      obtain ⟨quantity, settles⟩ := Option.isSome_iff_exists.1 (show _ = true from tells)
      obtain ⟨before, opens, -⟩ := opened_of_settles on settles
      refine ⟨fun _ same => Option.some.inj same ▸ before, fun unentered => ?_⟩
      exact (by decide : ∀ status ∈ openingStatuses, status ∉ unenteredStatuses) _ opens
        (unentered _ rfl)
  stays := by
    intro state entry next accepts other
    unfold AcceptedEvent.tells at other
    rcases accepts_cases accepts with ⟨rfl, -, ticket, rfl⟩ | ⟨current, event, result, rfl, told, rfl, on⟩
    · exact iff_of_true (unentered_issued ticket) (by simp [Unentered])
    · rw [told] at other
      have side := unentered_iff_of_other on (by simpa using other)
      unfold Unentered
      simpa using side

/-- The position is found flat where a run enters the statuses without it. -/
theorem flat_crossing : Crossing Accepts Unflattened (AcceptedEvent.tells TicketFact.findsFlat) where
  passes := by
    intro state entry next accepts tells
    unfold AcceptedEvent.tells at tells
    rcases accepts_cases accepts with ⟨rfl, issue, -⟩ | ⟨current, event, result, rfl, told, rfl, on⟩
    · rw [issue] at tells
      simp at tells
    · rw [told] at tells
      obtain ⟨before, flat⟩ := flat_of_findsFlat on (by simpa using tells)
      exact ⟨fun _ same => Option.some.inj same ▸ before, fun unflattened => unflattened _ rfl flat⟩
  stays := by
    intro state entry next accepts other
    unfold AcceptedEvent.tells at other
    rcases accepts_cases accepts with ⟨rfl, -, ticket, rfl⟩ | ⟨current, event, result, rfl, told, rfl, on⟩
    · exact iff_of_true (unflattened_issued ticket) (by simp [Unflattened])
    · rw [told] at other
      have side := flat_iff_of_other on (by simpa using other)
      unfold Unflattened
      simpa using not_congr side

section Law

variable {history : List AcceptedEvent} {aggregate : TradeAggregate}

theorem ticketEvents_filter (kind : TicketFact → Bool) :
    (ticketEvents history).filter (fun event => kind event.fact) =
      (history.filter (AcceptedEvent.tells kind)).filterMap AcceptedEvent.onTicket := by
  unfold ticketEvents
  induction history with
  | nil => rfl
  | cons entry rest ih =>
    cases onTicket : entry.onTicket with
    | none =>
      have silent : entry.tells kind = false := by
        unfold AcceptedEvent.tells
        rw [onTicket]
        rfl
      rw [List.filterMap_cons_none onTicket, List.filter_cons_of_neg (by simp [silent]), ih]
    | some event =>
      have tells : entry.tells kind = kind event.fact := by
        unfold AcceptedEvent.tells
        rw [onTicket]
        rfl
      rw [List.filterMap_cons_some onTicket]
      by_cases told : kind event.fact = true
      · rw [List.filter_cons, if_pos told, List.filter_cons_of_pos (tells.trans told),
          List.filterMap_cons_some onTicket, ih]
      · rw [List.filter_cons, if_neg told, List.filter_cons_of_neg (by rw [tells]; exact told), ih]

/-- A kind of fact that is told once is told by one event on the Ticket. -/
theorem exists_told {kind : TicketFact → Bool} {entry : AcceptedEvent}
    (once : history.filter (AcceptedEvent.tells kind) = [entry]) :
    ∃ event, entry.onTicket = some event ∧
      (ticketEvents history).filter (fun event => kind event.fact) = [event] := by
  have tells : entry.tells kind = true := by
    have member : entry ∈ history.filter (AcceptedEvent.tells kind) :=
      once ▸ List.mem_singleton.2 rfl
    exact (List.mem_filter.1 member).2
  unfold AcceptedEvent.tells at tells
  obtain ⟨event, onTicket, -⟩ := Option.any_eq_true _ _ |>.mp tells
  refine ⟨event, onTicket, ?_⟩
  rw [ticketEvents_filter, once, List.filterMap_cons_some onTicket]
  rfl

/-- **A run that has recognised an entry has done so in one event.** -/
theorem entry_told_once (run : LifecycleRun history aggregate)
    (entered : aggregate.status ∉ unenteredStatuses) :
    ∃ entry, history.filter (AcceptedEvent.tells fun fact => fact.entryQuantity.isSome) = [entry] :=
  entry_crossing.once_after (by simp [Unentered]) run fun unentered => entered (unentered _ rfl)

/-- **A run that has found the position flat has done so in one event.** -/
theorem flat_told_once (run : LifecycleRun history aggregate)
    (flat : aggregate.status ∈ flatStatuses) :
    ∃ entry, history.filter (AcceptedEvent.tells TicketFact.findsFlat) = [entry] :=
  flat_crossing.once_after (by simp [Unflattened]) run fun unflattened => unflattened _ rfl flat

/-- Before that it is never flat. -/
theorem neverFlat_of_unflattened (run : LifecycleRun history aggregate)
    (exposed : aggregate.status ∉ flatStatuses) : NeverFlat history := by
  have none_ := flat_crossing.none_before (by simp [Unflattened]) run (by
    rintro _ ⟨⟩
    exact exposed)
  intro entry member
  have silent := List.filter_eq_nil_iff.1 none_ entry member
  unfold AcceptedEvent.tells AcceptedEvent.onTicket at silent
  unfold AcceptedEvent.fact?
  cases told : entry.event with
  | ticketIssued header ticket => rfl
  | ticketEvent event =>
    rw [told] at silent
    simpa [TradeEvent.onTicket] using silent

/-- In an opening status the position is the entry that the run has recognised. -/
theorem position_of_opening (run : LifecycleRun history aggregate)
    (opens : aggregate.status ∈ openingStatuses) : ∃ event,
      (ticketEvents history).filter (fun event => event.fact.entryQuantity.isSome) = [event] ∧
        event.fact.entryQuantity = some aggregate.positionQty := by
  have sides := (by decide : ∀ status ∈ openingStatuses, status ∉ unenteredStatuses ∧
    status ∉ flatStatuses ∧ status ∈ unsoldStatuses) _ opens
  obtain ⟨entry, once⟩ := entry_told_once run sides.1
  obtain ⟨event, onTicket, told⟩ := exists_told once
  refine ⟨event, told, ?_⟩
  have member : entry ∈ history := (List.mem_filter.1 (once ▸ List.mem_singleton.2 rfl :
    entry ∈ history.filter _)).1
  obtain ⟨before, later, rfl⟩ := List.append_of_mem member
  rw [← List.singleton_append, ← List.append_assoc] at run once told
  have neverFlat : NeverFlat later := fun next there =>
    neverFlat_of_unflattened run sides.2.1 next (List.mem_append_right _ there)
  obtain ⟨state, begun, rest⟩ := Run.append_iff.1 run
  obtain ⟨earlier, soFar, accepts⟩ := Run.snoc_iff.1 begun
  rcases accepts_cases accepts with ⟨-, issue, -⟩ | ⟨current, found, result, rfl, same, rfl, on⟩
  · rw [issue] at onTicket
    simp at onTicket
  · obtain rfl := Option.some.inj (same.symm.trans onTicket)
    have settles : found.fact.entryQuantity.isSome = true := by
      have listed : found ∈ (ticketEvents _).filter fun event => event.fact.entryQuantity.isSome :=
        told ▸ List.mem_singleton.2 rfl
      exact (List.mem_filter.1 listed).2
    obtain ⟨quantity, recognised⟩ := Option.isSome_iff_exists.1 settles
    obtain ⟨-, opened, position⟩ := opened_of_settles on recognised
    obtain ⟨-, conserved⟩ := conserved_since begun rest opened neverFlat
    rw [(sized run).unsold sides.2.2, add_zero, position] at conserved
    rw [recognised, conserved]

/-- **What a run to a closed Ticket recognised.** -/
theorem recognisesEntry (run : LifecycleRun history aggregate)
    (entered : aggregate.status ∉ unenteredStatuses) : ∃ event quantity,
      (ticketEvents history).filter (fun event => event.fact.entryQuantity.isSome) = [event] ∧
        event.fact.entryQuantity = some quantity ∧ RecognisesEntry history quantity := by
  obtain ⟨entry, once⟩ := entry_told_once run entered
  obtain ⟨event, onTicket, told⟩ := exists_told once
  have settles : event.fact.entryQuantity.isSome = true := by
    have listed : event ∈ (ticketEvents history).filter
        fun event => event.fact.entryQuantity.isSome := told ▸ List.mem_singleton.2 rfl
    exact (List.mem_filter.1 listed).2
  obtain ⟨quantity, recognised⟩ := Option.isSome_iff_exists.1 settles
  refine ⟨event, quantity, told, recognised, ?_, ?_⟩
  · have member : entry ∈ history := (List.mem_filter.1 (once ▸ List.mem_singleton.2 rfl :
      entry ∈ history.filter _)).1
    obtain ⟨before, later, rfl⟩ := List.append_of_mem member
    rw [← List.singleton_append, ← List.append_assoc] at run
    obtain ⟨state, begun, -⟩ := Run.append_iff.1 run
    obtain ⟨earlier, soFar, accepts⟩ := Run.snoc_iff.1 begun
    rcases accepts_cases accepts with ⟨-, issue, -⟩ | ⟨current, found, result, rfl, same, rfl, on⟩
    · rw [issue] at onTicket
      simp at onTicket
    · obtain rfl := Option.some.inj (same.symm.trans onTicket)
      exact ⟨before ++ [entry], later, result.aggregate, by simp, begun,
        (opened_of_settles on recognised).2.1⟩
  · rintro before later opened rfl begun opens
    obtain ⟨first, single, position⟩ := position_of_opening begun opens
    have whole : (ticketEvents (before ++ later)).filter
        (fun event => event.fact.entryQuantity.isSome) =
          first :: (ticketEvents later).filter fun event => event.fact.entryQuantity.isSome := by
      unfold ticketEvents at single ⊢
      rw [List.filterMap_append, List.filter_append, single, List.singleton_append]
    obtain ⟨rfl, -⟩ := List.cons.inj (whole.symm.trans told)
    exact Option.some.inj (position.symm.trans recognised)

/-- The fills of the window are among the events that settle the entry. -/
theorem windowFills_filter (events : List TicketEvent) :
    events.filter (fun event => event.fact.windowFill.isSome) =
      (events.filter fun event => event.fact.entryQuantity.isSome).filter
        fun event => event.fact.windowFill.isSome := by
  rw [List.filter_filter]
  refine List.filter_congr fun event _ => ?_
  cases filled : event.fact.windowFill with
  | none => rfl
  | some quantity =>
    rw [entryQuantity_of_windowFill filled]
    rfl

theorem map_event_onTicket : (history.map AcceptedEvent.event).filterMap TradeEvent.onTicket =
    ticketEvents history := by
  rw [List.filterMap_map]
  rfl

/-- A Ticket whose part was settled by a vacuum is looked at again forever: whatever its commands and
the time are, the worker has nothing to hand to the review. -/
theorem planReview_of_settled_part (run : LifecycleRun history aggregate)
    (pending : aggregate.status = .reviewPending) (created : 0 < aggregate.ticket.createdAtMs)
    {part : TicketEvent} (member : part ∈ ticketEvents history)
    (settles : part.fact.settlesPart = true) (commands : List ExchangeCommand)
    (nowMs visibilityGraceMs : ℤ) :
    planReview aggregate.ticket (history.map AcceptedEvent.event) commands nowMs visibilityGraceMs =
      .ok (.factsUnavailable "review_lineage:incomplete") := by
  have entered : aggregate.status ∉ unenteredStatuses := by rw [pending]; decide
  obtain ⟨entry, quantity, told, -, -⟩ := recognisesEntry run entered
  obtain rfl : part = entry := List.mem_singleton.1
    (told ▸ List.mem_filter.2 ⟨member, (windowFill_or_settlesPart _).2 (.inr settles)⟩)
  have unfilled : ¬ part.fact.windowFill.isSome = true := fun filled => by
    rw [not_settlesPart_of_windowFill filled] at settles
    simp at settles
  refine planReview_of_no_window commands nowMs visibilityGraceMs
    (refuse_bind_eq_ok.2 ⟨not_le.2 created, ?_⟩)
  dsimp only
  rw [map_event_onTicket, windowFills_filter, told, List.filter_cons, if_neg unfilled]
  rfl

end Law

/-! ### Two closed Tickets -/

theorem positionFlatConfirmed_plain : TicketFact.positionFlatConfirmed.venueObservedAtMs = none := rfl

theorem reconciliationMatched_plain :
    (TicketFact.reconciliationMatched none).venueObservedAtMs = none := rfl

theorem flattenedPart_positive : (0 : ℚ) < 2 ∧ (0 : ℚ) < 100 := by decide

/-- A part of the sample ENTRY that a vacuum flattens. -/
def flattenedPart : VacuumPartialFlattenRequired :=
  ⟨"vacuum-1", 2, 100, "vacuum_partial_two_leg_unavailable", by decide, flattenedPart_positive⟩

/-- The flat position, matched and settled. -/
def closedFacts : List PlainFact :=
  [⟨.positionFlatConfirmed, positionFlatConfirmed_plain⟩,
    ⟨.reconciliationMatched none, reconciliationMatched_plain⟩, ⟨.budgetSettled, rfl⟩]

/-- The sample ENTRY withdrawn with two units of four filled; they are flattened, and the Ticket is
settled. -/
def flattenedPartFacts : List PlainFact :=
  [entryAcceptedFact,
    ⟨.entryVacuumOrderAbsenceConfirmed partialAbsence, rfl⟩,
    ⟨.vacuumPartialFlattenRequired flattenedPart, rfl⟩,
    ⟨.controlledFlattenAccepted "flatten-1", rfl⟩] ++ closedFacts

/-- The sample ENTRY with the same units filled and its remainder cancelled. -/
def flattenedFillFacts : List PlainFact :=
  [entryAcceptedFact, ⟨.entryPartiallyFilled 2 4 100, rfl⟩,
    ⟨.entryRemainderCancelConfirmed "entry-1", rfl⟩,
    ⟨.controlledFlattenAccepted "flatten-1", rfl⟩] ++ closedFacts

/-- The worker finds a review window. -/
def hasWindow (history : List AcceptedEvent) (aggregate : TradeAggregate) : Bool :=
  match reviewWindow (history.map AcceptedEvent.event) aggregate.ticket.createdAtMs with
  | .ok window => window.isSome
  | .error _ => false

theorem hasWindow_of_reviewable {history : List AcceptedEvent} {aggregate : TradeAggregate}
    (reviewable : Reviewable history aggregate) : hasWindow history aggregate = true := by
  obtain ⟨window, found, -⟩ := reviewable
  unfold hasWindow
  rw [found]
  rfl

end TradingKernel
