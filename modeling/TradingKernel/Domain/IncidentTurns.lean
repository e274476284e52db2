/-
**Incidents of unknown outcomes, one event at a time.**

A lifecycle that does not know what became of a request waits in a status of its own, with an incident
open (`outcomeIncident`). An accepted event opens the incident of the status it enters and resolves the
one of the status it leaves (`turn_of_reduceFact`). A flat position touches none of them, and the
closure resolves what is left.

Two events break the turn: a late confirmation of the initial stop of a position that is to be flattened
behind it, and the flatten of a vacuum partial whose reason is the name of such an incident.
-/

import TradingKernel.Domain.Addressed
import TradingKernel.Domain.Sources

namespace TradingKernel

open Text Reducer

/-! ### Marks -/

/-- An incident of a kind is opened or resolved, or all of them are resolved at closure. -/
inductive IncidentMark where
  | opened (kind : String)
  | resolved (kind : String)
  | closed
  deriving DecidableEq, Repr

def IncidentMark.kind? : IncidentMark → Option String
  | .opened kind | .resolved kind => some kind
  | .closed => none

/-- What an effect does to incidents. -/
def KernelEffect.incidentMark? : KernelEffect → Option IncidentMark
  | .openIncident _ kind => some (.opened kind)
  | .resolveIncident _ kind => some (.resolved kind)
  | .resolveTicketIncidentsAtClosure _ => some .closed
  | _ => none

/-- The marks of effects, in their order. -/
def incidentMarks (effects : List KernelEffect) : List IncidentMark :=
  effects.filterMap KernelEffect.incidentMark?

/-- The opens and the resolutions of one kind. -/
def marksOf (kind : String) (effects : List KernelEffect) : List IncidentMark :=
  (incidentMarks effects).filter fun mark => mark.kind? = some kind

/-- Opens and resolutions of a kind take turns, an open first. -/
def Alternating (kind : String) (marks : List IncidentMark) : Prop :=
  marks.IsChain (· ≠ ·) ∧ ∀ first ∈ marks.head?, first = .opened kind

/-- The kinds of a Ticket's open incidents, after one more mark. -/
def record (incidents : List String) : IncidentMark → List String
  | .opened kind => kind :: incidents
  | .resolved kind => incidents.erase kind
  | .closed => []

/-- The kinds of the incidents that effects leave open. -/
def openAfter (effects : List KernelEffect) : List String :=
  (incidentMarks effects).foldl record []

/-- The incident that is open while a Ticket waits in the status of an unknown outcome. -/
def outcomeIncident : AggregateStatus → Option String
  | .leverageOutcomeUnknown => some "leverage_outcome_unknown"
  | .entryOutcomeUnknown => some "entry_outcome_unknown"
  | .initialStopOutcomeUnknown => some "initial_stop_outcome_unknown"
  | .tp1OutcomeUnknown => some "take_profit_outcome_unknown"
  | .runnerReplacementOutcomeUnknown => some "protection_replacement_outcome_unknown"
  | .exitOutcomeUnknown => some "exit_outcome_unknown"
  | .controlledFlattenOutcomeUnknown => some "controlled_flatten_outcome_unknown"
  | .partialFillCancelOutcomeUnknown => some "entry_remainder_cancel_outcome_unknown"
  | .entryVacuumCancelOutcomeUnknown => some "selection_vacuum_entry_cancel_outcome_unknown"
  | .runnerOldStopCancelOutcomeUnknown => some "runner_old_stop_cancel_outcome_unknown"
  | .cancelOutcomeUnknown => some "cancel_order_outcome_unknown"
  | _ => none

/-- The statuses of unknown outcomes. -/
def outcomeStatuses : List AggregateStatus :=
  [.leverageOutcomeUnknown, .entryOutcomeUnknown, .initialStopOutcomeUnknown, .tp1OutcomeUnknown,
    .runnerReplacementOutcomeUnknown, .exitOutcomeUnknown, .controlledFlattenOutcomeUnknown,
    .partialFillCancelOutcomeUnknown, .entryVacuumCancelOutcomeUnknown,
    .runnerOldStopCancelOutcomeUnknown, .cancelOutcomeUnknown]

/-- The kinds of their incidents. -/
def outcomeKinds : List String := outcomeStatuses.filterMap outcomeIncident

section Kinds

variable {status unknown : AggregateStatus} {kind : String}

theorem mem_outcomeStatuses (incident : outcomeIncident status = some kind) :
    status ∈ outcomeStatuses := by
  cases status with
  | leverageOutcomeUnknown | entryOutcomeUnknown | initialStopOutcomeUnknown | tp1OutcomeUnknown
  | runnerReplacementOutcomeUnknown | exitOutcomeUnknown | controlledFlattenOutcomeUnknown
  | partialFillCancelOutcomeUnknown | entryVacuumCancelOutcomeUnknown
  | runnerOldStopCancelOutcomeUnknown | cancelOutcomeUnknown => decide
  | _ => simp [outcomeIncident] at incident

theorem mem_outcomeKinds (incident : outcomeIncident status = some kind) : kind ∈ outcomeKinds :=
  List.mem_filterMap.mpr ⟨status, mem_outcomeStatuses incident, incident⟩

/-- Each kind is the incident of one status. -/
theorem outcomeIncident_eq_some_iff (incident : outcomeIncident unknown = some kind) :
    outcomeIncident status = some kind ↔ status = unknown := by
  constructor
  · intro same
    exact (by decide : ∀ first ∈ outcomeStatuses, ∀ second ∈ outcomeStatuses,
      outcomeIncident first = outcomeIncident second → first = second) _ (mem_outcomeStatuses same) _
        (mem_outcomeStatuses incident) (same.trans incident.symm)
  · rintro rfl
    exact incident

end Kinds

/-! ### One event -/

/-- The marks that touch incidents of unknown outcomes. -/
def outcomeMarks (effects : List KernelEffect) : List IncidentMark :=
  (incidentMarks effects).filter fun mark => ∀ kind ∈ mark.kind?, kind ∈ outcomeKinds

/-- The incident of the status that is left is resolved, and the one of the status that is entered is
opened. -/
def IncidentTurn (source : AggregateStatus) (effects : List KernelEffect) (target : AggregateStatus) : Prop :=
  outcomeMarks effects = ((outcomeIncident source).map .resolved).toList ++
    ((outcomeIncident target).map .opened).toList

/-- The event resolves the unknown outcome it ends: a confirmed initial stop is not one that came late
for a position to be flattened behind it, and a vacuum flatten is not named after an unknown
outcome. -/
def SettlesOutcome (current : TradeAggregate) (event : TicketEvent) : Prop :=
  match event.fact with
  | .initialStopConfirmed _ _ => ¬ (current.status = .initialStopOutcomeUnknown ∧
      current.postFillDisposition = some .flattenAfterProtection)
  | .vacuumPartialFlattenRequired fact => fact.reason ∉ outcomeKinds
  | _ => True

instance (current : TradeAggregate) (event : TicketEvent) :
    Decidable (SettlesOutcome current event) := by
  delta SettlesOutcome
  split <;> exact inferInstance

/-- The facts that close a reconciliation. -/
def TicketFact.isMatch : TicketFact → Bool
  | .reconciliationMatched _ => true
  | _ => false

section Turns

variable {current : TradeAggregate} {source target unknown : AggregateStatus}
  {sources : List AggregateStatus} {effects first second : List KernelEffect} {kind id : String}

theorem outcomeMarks_append :
    outcomeMarks (first ++ second) = outcomeMarks first ++ outcomeMarks second := by
  simp [outcomeMarks, incidentMarks]

/-- From a status of a known outcome, nothing is resolved. -/
theorem turn_of_known (member : source ∈ sources)
    (known : ∀ status ∈ sources, outcomeIncident status = none)
    (marks : outcomeMarks effects = ((outcomeIncident target).map .opened).toList) :
    IncidentTurn source effects target := by
  rw [IncidentTurn, known source member, marks]
  rfl

/-- From the status of an unknown outcome, its incident is resolved first. -/
theorem turn_of_resolve (kind : String) (incident : outcomeIncident source = some kind)
    (marks : outcomeMarks effects = .resolved kind :: ((outcomeIncident target).map .opened).toList) :
    IncidentTurn source effects target := by
  rw [IncidentTurn, incident, marks]
  rfl

theorem outcomeMarks_resolveIncident (tracked : kind ∈ outcomeKinds) :
    outcomeMarks [current.resolveIncident kind] = [.resolved kind] := by
  simp [outcomeMarks, incidentMarks, TradeAggregate.resolveIncident, KernelEffect.incidentMark?,
    IncidentMark.kind?, tracked]

/-- An incident of another kind, before a request, is no mark. -/
theorem outcomeMarks_openIncident {opened : String} {request : KernelEffect}
    (other : opened ∉ outcomeKinds) (asks : request.incidentMark? = none) :
    outcomeMarks [current.openIncident opened, request] = [] := by
  rw [outcomeMarks, incidentMarks, List.filterMap_cons, List.filterMap_cons, asks]
  simp [TradeAggregate.openIncident, KernelEffect.incidentMark?, IncidentMark.kind?, other]

/-- From one of several statuses, of which one is unknown: its incident is resolved on the way out. -/
theorem turn_of_resolveFrom (member : current.status ∈ sources)
    (incident : outcomeIncident unknown = some kind)
    (known : ∀ status ∈ sources, status = unknown ∨ outcomeIncident status = none)
    (marks : outcomeMarks effects = ((outcomeIncident target).map .opened).toList) :
    IncidentTurn current.status (current.resolveFrom unknown kind ++ effects) target := by
  unfold TradeAggregate.resolveFrom
  split_ifs with at_unknown
  · refine turn_of_resolve kind (at_unknown ▸ incident) ?_
    rw [outcomeMarks_append, outcomeMarks_resolveIncident (mem_outcomeKinds incident), marks]
    rfl
  · have calm := (known _ member).resolve_left at_unknown
    rw [IncidentTurn, calm, List.nil_append, marks]
    rfl

/-- The same where the unknown outcome is that of a cancel. -/
theorem turn_of_resolveCancelFrom (member : current.status ∈ sources)
    (incident : outcomeIncident unknown = some kind)
    (known : ∀ status ∈ sources, status = unknown ∨ outcomeIncident status = none)
    (marks : outcomeMarks effects = ((outcomeIncident target).map .opened).toList) :
    IncidentTurn current.status (current.resolveCancelFrom unknown id kind ++ effects) target := by
  have turn := turn_of_resolveFrom member incident known marks
  unfold TradeAggregate.resolveFrom at turn
  unfold TradeAggregate.resolveCancelFrom
  split_ifs at turn ⊢
  · exact turn
  · exact turn

/-- Nothing but the incident, where the next status is of a known outcome. -/
theorem turn_of_resolveFrom_only (member : current.status ∈ sources)
    (incident : outcomeIncident unknown = some kind)
    (known : ∀ status ∈ sources, status = unknown ∨ outcomeIncident status = none)
    (calm : outcomeIncident target = none) :
    IncidentTurn current.status (current.resolveFrom unknown kind) target := by
  rw [← List.append_nil (current.resolveFrom unknown kind)]
  exact turn_of_resolveFrom member incident known (by rw [calm]; rfl)

theorem turn_of_resolveCancelFrom_only (member : current.status ∈ sources)
    (incident : outcomeIncident unknown = some kind)
    (known : ∀ status ∈ sources, status = unknown ∨ outcomeIncident status = none)
    (calm : outcomeIncident target = none) :
    IncidentTurn current.status (current.resolveCancelFrom unknown id kind) target := by
  rw [← List.append_nil (current.resolveCancelFrom unknown id kind)]
  exact turn_of_resolveCancelFrom member incident known (by rw [calm]; rfl)

end Turns

/-! ### The branches -/

section Branches

variable {current : TradeAggregate} {event : TicketEvent} {fact : TicketFact} {result : Reduction}

/-- A report opens one incident, which is that of the status it enters if it has one. -/
theorem turn_of_reported {guard : Reduced Unit} {reason required kind : String}
    {status : AggregateStatus} {sources : List AggregateStatus}
    (reduced : reported current event guard reason required status kind = .ok result)
    (member : current.status ∈ sources)
    (known : ∀ status ∈ sources, outcomeIncident status = none)
    (marks : outcomeMarks [current.openIncident kind] =
      ((outcomeIncident status).map .opened).toList) :
    IncidentTurn current.status result.effects result.aggregate.status := by
  obtain ⟨-, -, rfl⟩ := reported_eq_ok.mp reduced
  exact turn_of_known member known marks

/-- An accepted order resolves the unknown outcome of the request for it. -/
theorem turn_of_orderAccepted {expected : List AggregateStatus} {id required kind : String}
    {status unknown : AggregateStatus} {record : String → TradeAggregate → TradeAggregate}
    (reduced : orderAccepted current event expected id required status record unknown kind =
      .ok result) (incident : outcomeIncident unknown = some kind)
    (known : ∀ status ∈ expected, status = unknown ∨ outcomeIncident status = none)
    (calm : outcomeIncident status = none) :
    IncidentTurn current.status result.effects result.aggregate.status := by
  obtain ⟨member, -, rfl⟩ := orderAccepted_eq_ok.mp reduced
  exact turn_of_resolveFrom_only member incident known calm

/-- A missing initial stop opens an incident of its own, after the first effects. -/
theorem turn_of_initialStopMissing {source : AggregateStatus} {first : List KernelEffect}
    {partialKind kind : String}
    (resolves : outcomeMarks first = ((outcomeIncident source).map .resolved).toList)
    (untracked : partialKind ∉ outcomeKinds ∧ kind ∉ outcomeKinds) :
    IncidentTurn source (initialStopMissing current event first partialKind kind).effects
      (initialStopMissing current event first partialKind kind).aggregate.status := by
  unfold initialStopMissing
  split_ifs
  · rw [IncidentTurn, transition_effects, outcomeMarks_append, resolves,
      outcomeMarks_openIncident untracked.1 rfl]
    rfl
  · rw [IncidentTurn, transition_effects, outcomeMarks_append, resolves,
      outcomeMarks_openIncident untracked.2 rfl]
    rfl

/-- A full fill opens an incident of its risk, which is none of an unknown outcome. -/
theorem outcomeMarks_entryFilledEffects (fact : EntryFilled) :
    outcomeMarks (entryFilledEffects current fact) = [] := by
  unfold entryFilledEffects
  cases fact.postFillRisk.disposition <;> cases fact.postFillRisk.status <;> rfl

/-- **An accepted event turns the incidents**: it opens the one of the status it enters, and resolves
the one of the status it leaves. -/
theorem turn_of_reduceFact (reduced : reduceFact current event fact = .ok result)
    (reports : event.fact = fact) (settles : SettlesOutcome current event)
    (stays : fact.findsFlat = false) (unsettled : fact.isMatch = false) :
    IncidentTurn current.status result.effects result.aggregate.status := by
  unfold SettlesOutcome at settles
  cases fact with
  | leverageConfirmed fact =>
    obtain ⟨member, -, rfl⟩ := leverageConfirmed_eq_ok.mp reduced
    exact turn_of_resolveFrom member rfl (by decide) rfl
  | leverageRejected reason =>
    obtain ⟨member, rfl⟩ := leverageRejected_eq_ok.mp reduced
    exact turn_of_resolveFrom member rfl (by decide) rfl
  | leverageOutcomeUnknown reason =>
    exact turn_of_reported reduced (reported_source reduced) (by decide) rfl
  | entryAccepted id => exact turn_of_orderAccepted reduced rfl (by decide) rfl
  | entryRejected reason =>
    obtain ⟨member, rfl⟩ := entryRejected_eq_ok.mp reduced
    exact turn_of_known member (by decide) rfl
  | entryOutcomeUnknown reason =>
    exact turn_of_reported reduced (requireStatusIn_eq_ok.mp (reported_eq_ok.mp reduced).1)
      (by decide) rfl
  | entryAbsenceConfirmed commandId =>
    obtain ⟨status, -, returned⟩ := absenceConfirmed_eq_ok.mp reduced
    obtain rfl := Except.ok.inj returned
    exact turn_of_resolve "entry_outcome_unknown" (by rw [status]; rfl) rfl
  | entryFilled fact =>
    obtain ⟨member, -, -, -, rfl⟩ := entryFilled_eq_ok.mp reduced
    refine turn_of_known member (by decide) ?_
    have known := (by decide : ∀ status ∈ ([.controlledFlattenPending, .protectionPending] :
      List AggregateStatus), outcomeIncident status = none) _ (entryFilledTarget_mem fact)
    rw [transition_effects, transition_aggregate_status, outcomeMarks_entryFilledEffects, known]
    rfl
  | entryPartiallyFilled filled requested price =>
    obtain ⟨member, -, -, rfl⟩ := entryPartiallyFilled_eq_ok.mp reduced
    exact turn_of_known member (by decide) rfl
  | entryRemainderCancelConfirmed id =>
    obtain ⟨member, -, rfl⟩ := entryRemainderCancelConfirmed_eq_ok.mp reduced
    exact turn_of_resolveCancelFrom member rfl (by decide) rfl
  | entryRemainderCancelRejected id reason =>
    exact turn_of_reported reduced (reported_held reduced).1 (by decide) rfl
  | entryRemainderCancelOutcomeUnknown id reason =>
    exact turn_of_reported reduced (reported_held reduced).1 (by decide) rfl
  | entryVacuumSuperseded fact =>
    obtain ⟨member, rfl⟩ := entryVacuumSuperseded_eq_ok.mp reduced
    exact turn_of_known member (by decide) rfl
  | entryVacuumCancelRequested fact =>
    obtain ⟨member, -, -, rfl⟩ := entryVacuumCancelRequested_eq_ok.mp reduced
    refine turn_of_known member (by decide) ?_
    rw [transition_effects]
    unfold TradeAggregate.resolveFrom
    split_ifs <;> rfl
  | entryVacuumCancelConfirmed id =>
    obtain ⟨member, -, rfl⟩ := entryVacuumCancelConfirmed_eq_ok.mp reduced
    exact turn_of_resolveCancelFrom_only member rfl (by decide) rfl
  | entryVacuumCancelRejected id reason =>
    obtain ⟨member, -, rfl⟩ := entryVacuumCancelRejected_eq_ok.mp reduced
    exact turn_of_resolveFrom member rfl (by decide) rfl
  | entryVacuumCancelOutcomeUnknown id reason =>
    obtain ⟨status, -, rfl⟩ := entryVacuumCancelOutcomeUnknown_eq_ok.mp reduced
    exact turn_of_known (List.mem_singleton.mpr status) (by decide) rfl
  | entryVacuumOrderAbsenceConfirmed fact =>
    obtain ⟨member, -, -, -, rfl⟩ := entryVacuumOrderAbsenceConfirmed_eq_ok.mp reduced
    refine turn_of_known member (by decide) ?_
    rw [transition_effects]
    unfold TradeAggregate.resolveFrom
    split_ifs <;> rfl
  | vacuumLateFillAttributed fact =>
    obtain ⟨status, -, -, -, rfl⟩ := vacuumLateFillAttributed_eq_ok.mp reduced
    exact turn_of_known (List.mem_singleton.mpr status) (by decide) rfl
  | vacuumPostAbsenceNoFillVerified fact =>
    obtain ⟨status, -, -, rfl⟩ := vacuumPostAbsenceNoFillVerified_eq_ok.mp reduced
    exact turn_of_known (List.mem_singleton.mpr status) (by decide) rfl
  | entryVacuumAbsenceConfirmed vacuumId =>
    obtain ⟨status, -, -, rfl⟩ := entryVacuumAbsenceConfirmed_eq_ok.mp reduced
    exact turn_of_known (List.mem_singleton.mpr status) (by decide) rfl
  | vacuumPartialRetained fact =>
    obtain ⟨status, -, -, -, rfl⟩ := vacuumPartialRetained_eq_ok.mp reduced
    exact turn_of_known (List.mem_singleton.mpr status) (by decide) rfl
  | vacuumPartialFlattenRequired fact =>
    obtain ⟨status, -, rfl⟩ := vacuumPartialFlattenRequired_eq_ok.mp reduced
    rw [reports] at settles
    -- the incident is named by the reason
    exact turn_of_known (List.mem_singleton.mpr status) (by decide)
      (outcomeMarks_openIncident settles rfl)
  | initialStopConfirmed id quantity =>
    obtain ⟨member, -, -, rfl⟩ := initialStopConfirmed_eq_ok.mp reduced
    rw [reports] at settles
    unfold stopConfirmed
    split_ifs with flattens
    · have known : current.status ∈ ([.protectionPending] : List AggregateStatus) := by
        simp only [List.mem_cons, List.not_mem_nil, or_false] at member ⊢
        exact member.resolve_right fun unknown => settles ⟨unknown, flattens⟩
      exact turn_of_known known (by decide) rfl
    · exact turn_of_resolveFrom_only member rfl (by decide) rfl
  | postFillStressAssessed fact =>
    obtain ⟨status, -, -, ⟨-, rfl⟩ | ⟨-, limitPrice, tp1Quantity, -, -, -, rfl⟩⟩ :=
      postFillStressAssessed_eq_ok.mp reduced
    · exact turn_of_known (List.mem_singleton.mpr status) (by decide) rfl
    · exact turn_of_known (List.mem_singleton.mpr status) (by decide) rfl
  | initialStopRejected reason =>
    obtain ⟨status, -, rfl⟩ := initialStopRejected_eq_ok.mp reduced
    exact turn_of_initialStopMissing (by rw [status]; rfl) (by decide)
  | initialStopOutcomeUnknown reason =>
    exact turn_of_reported reduced (reported_source reduced) (by decide) rfl
  | initialStopAbsenceConfirmed commandId =>
    obtain ⟨status, -, returned⟩ := absenceConfirmed_eq_ok.mp reduced
    obtain rfl := Except.ok.inj returned
    exact turn_of_initialStopMissing (by rw [status]; rfl) (by decide)
  | takeProfitConfirmed id quantity =>
    obtain ⟨member, -, -, rfl⟩ := takeProfitConfirmed_eq_ok.mp reduced
    exact turn_of_resolveFrom_only member rfl (by decide) rfl
  | takeProfitRejected reason =>
    exact turn_of_reported reduced (reported_source reduced) (by decide) rfl
  | takeProfitOutcomeUnknown reason =>
    exact turn_of_reported reduced (reported_source reduced) (by decide) rfl
  | takeProfitAbsenceConfirmed commandId =>
    obtain ⟨status, -, limitPrice, -, rfl⟩ := takeProfitAbsenceConfirmed_eq_ok.mp reduced
    exact turn_of_resolve "take_profit_outcome_unknown" (by rw [status]; rfl) rfl
  | takeProfitFilled fact =>
    obtain ⟨status, -, -, activeStop, -, -, rfl⟩ := takeProfitFilled_eq_ok.mp reduced
    exact turn_of_known (List.mem_singleton.mpr status) (by decide) rfl
  | runnerStopRequested stopPrice watermarkMs =>
    obtain ⟨status, activeStop, -, _, -, -, -, rfl⟩ := runnerStopRequested_eq_ok.mp reduced
    exact turn_of_known (List.mem_singleton.mpr status) (by decide) rfl
  | protectionReplacementConfirmed fact =>
    obtain ⟨member, -, -, -, -, rfl⟩ := protectionReplacementConfirmed_eq_ok.mp reduced
    exact turn_of_resolveFrom member rfl (by decide) rfl
  | protectionReplacementRejected reason =>
    exact turn_of_reported reduced (reported_source reduced) (by decide) rfl
  | protectionReplacementOutcomeUnknown reason =>
    exact turn_of_reported reduced (reported_source reduced) (by decide) rfl
  | protectionReplacementAbsenceConfirmed commandId =>
    obtain ⟨status, -, activeStop, -, stopPrice, -, watermarkMs, -, rfl⟩ :=
      protectionReplacementAbsenceConfirmed_eq_ok.mp reduced
    exact turn_of_resolve "protection_replacement_outcome_unknown"
      (by rw [status]; rfl) rfl
  | exitRequested reason =>
    obtain ⟨member, -, rfl⟩ := exitRequested_eq_ok.mp reduced
    exact turn_of_known member (by decide) rfl
  | exitAccepted id => exact turn_of_orderAccepted reduced rfl (by decide) rfl
  | exitRejected reason => exact turn_of_reported reduced (reported_source reduced) (by decide) rfl
  | exitOutcomeUnknown reason => exact turn_of_reported reduced (reported_source reduced) (by decide) rfl
  | exitAbsenceConfirmed commandId =>
    obtain ⟨status, -, returned⟩ := absenceConfirmed_eq_ok.mp reduced
    obtain rfl := Except.ok.inj returned
    exact turn_of_resolve "exit_outcome_unknown" (by rw [status]; rfl) rfl
  | controlledFlattenAccepted id => exact turn_of_orderAccepted reduced rfl (by decide) rfl
  | controlledFlattenRejected reason =>
    exact turn_of_reported reduced (reported_source reduced) (by decide) rfl
  | controlledFlattenOutcomeUnknown reason =>
    exact turn_of_reported reduced (reported_source reduced) (by decide) rfl
  | controlledFlattenAbsenceConfirmed commandId =>
    obtain ⟨status, -, returned⟩ := absenceConfirmed_eq_ok.mp reduced
    obtain rfl := Except.ok.inj returned
    exact turn_of_resolve "controlled_flatten_outcome_unknown" (by rw [status]; rfl) rfl
  | positionFlatConfirmed => simp [TicketFact.findsFlat] at stays
  | externalFlatDetected => simp [TicketFact.findsFlat] at stays
  | ownedOrphanOrderDetected id orderNamespace =>
    obtain ⟨member, -, rfl⟩ := ownedOrphanOrderDetected_eq_ok.mp reduced
    exact turn_of_known member (by decide) rfl
  | ownedOrderAbsenceConfirmed id =>
    obtain ⟨status, -, -, rfl⟩ := ownedOrderAbsenceConfirmed_eq_ok.mp reduced
    exact turn_of_known (List.mem_singleton.mpr status) (by decide) rfl
  | unownedOrderDetected id => exact turn_of_reported reduced (reported_source reduced) (by decide) rfl
  | protectionCancelConfirmed id =>
    obtain ⟨status, -, rfl⟩ | ⟨status, -, -, rfl⟩ := protectionCancelConfirmed_eq_ok.mp reduced
    · exact turn_of_known (List.mem_singleton.mpr status) (by decide) rfl
    · exact turn_of_known (List.mem_singleton.mpr status) (by decide) rfl
  | protectionCancelRejected id reason =>
    exact turn_of_reported reduced (reported_held reduced).1 (by decide) rfl
  | protectionCancelOutcomeUnknown id reason =>
    exact turn_of_reported reduced (reported_held reduced).1 (by decide) rfl
  | protectionCancelAbsenceConfirmed id =>
    obtain ⟨status, -, rfl⟩ := protectionCancelAbsenceConfirmed_eq_ok.mp reduced
    exact turn_of_resolve "runner_old_stop_cancel_outcome_unknown"
      (by rw [status]; rfl) rfl
  | ownedOrphanCancelConfirmed id =>
    obtain ⟨status, -, -, rfl⟩ := ownedOrphanCancelConfirmed_eq_ok.mp reduced
    exact turn_of_known (List.mem_singleton.mpr status) (by decide) rfl
  | cancelOrderRejected id reason =>
    exact turn_of_reported reduced (reported_held reduced).1 (by decide) rfl
  | cancelOrderOutcomeUnknown id reason =>
    exact turn_of_reported reduced (reported_held reduced).1 (by decide) rfl
  | cancelOrderAbsenceConfirmed id =>
    obtain ⟨member, -, rfl⟩ := cancelOrderAbsenceConfirmed_eq_ok.mp reduced
    exact turn_of_resolveCancelFrom_only member rfl (by decide) rfl
  | cancelOrderStillOpenConfirmed id =>
    obtain ⟨status, -, rfl⟩ := cancelOrderStillOpenConfirmed_eq_ok.mp reduced
    exact turn_of_resolve "cancel_order_outcome_unknown" (by rw [status]; rfl) rfl
  | reconciliationMatched kind => simp [TicketFact.isMatch] at unsettled
  | budgetSettled =>
    obtain ⟨status, rfl⟩ := budgetSettled_eq_ok.mp reduced
    exact turn_of_known (List.mem_singleton.mpr status) (by decide) rfl
  | reviewRecorded reviewId =>
    obtain ⟨status, -, rfl⟩ := reviewRecorded_eq_ok.mp reduced
    exact turn_of_known (List.mem_singleton.mpr status) (by decide) rfl
  | reviewRevised reviewId supersedesReviewId =>
    obtain ⟨status, -, -, -, rfl⟩ := reviewRevised_eq_ok.mp reduced
    exact turn_of_known (List.mem_singleton.mpr status) (by decide) rfl

/-- A flat position touches none of them. -/
theorem flat_of_reduceFact (reduced : reduceFact current event fact = .ok result)
    (flat : fact.findsFlat = true) :
    outcomeMarks result.effects = [] ∧ result.aggregate.status = .reconciliationPending := by
  cases fact with
  | positionFlatConfirmed =>
    obtain ⟨-, rfl⟩ := positionFlatConfirmed_eq_ok.mp reduced
    refine ⟨?_, rfl⟩
    rw [flattened, transition_effects]
    cases nextCleanupOrderId current <;> cases current.entryLaneHeld <;> rfl
  | externalFlatDetected =>
    obtain ⟨-, cleanupOrderId, -, rfl⟩ := externalFlatDetected_eq_ok.mp reduced
    exact ⟨rfl, rfl⟩
  | _ => simp [TicketFact.findsFlat] at flat

/-- The closure resolves what is left. -/
theorem match_of_reduceFact (reduced : reduceFact current event fact = .ok result)
    (matches_ : fact.isMatch = true) : current.status = .reconciliationPending ∧
      outcomeMarks result.effects = [.closed] ∧ result.aggregate.status = .settlementPending := by
  cases fact with
  | reconciliationMatched kind =>
    obtain ⟨status, -, -, -, rfl⟩ := reconciliationMatched_eq_ok.mp reduced
    exact ⟨status, rfl, rfl⟩
  | _ => simp [TicketFact.isMatch] at matches_

end Branches

end TradingKernel
