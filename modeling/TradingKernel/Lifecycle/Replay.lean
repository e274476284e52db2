/-
**Replay: exhibiting a single run by evaluation.**

`replay` reduces one event after the other and stops at the first that is refused, or that does not
meet the condition. A replay that succeeds is a run (`run_of_replay`), so a run with a decidable
property is exhibited by evaluating the replay of its facts on a concrete Ticket (`exists_run`).
-/

import TradingKernel.Domain.Commands
import TradingKernel.Lifecycle.Runs

namespace TradingKernel

open Text

/-! ### Replay -/

section Replay

variable (allowed : TradeAggregate → TicketEvent → Prop)
  [∀ current event, Decidable (allowed current event)]

/-- The history that events add to a lifecycle, and the aggregate they reach. -/
def replay : TradeAggregate → List TicketEvent → Option (List AcceptedEvent × TradeAggregate)
  | current, [] => some ([], current)
  | current, event :: events =>
      if allowed current event then
        match reduceEvent (some current) (.ticketEvent event) with
        | .error _ => none
        | .ok result =>
            (replay result.aggregate events).map fun rest =>
              (accepted event result :: rest.1, rest.2)
      else none

variable {allowed}

theorem run_of_replay {events : List TicketEvent} :
    ∀ {current final : TradeAggregate} {later : List AcceptedEvent},
      replay allowed current events = some (later, final) →
        Run (AcceptsIf allowed) (some current) later (some final) := by
  induction events with
  | nil =>
    rintro current final later replayed
    simp only [replay, Option.some.injEq, Prod.mk.injEq] at replayed
    obtain ⟨rfl, rfl⟩ := replayed
    exact .nil
  | cons event events ih =>
    rintro current final later replayed
    rw [replay] at replayed
    split_ifs at replayed with meets
    split at replayed
    · simp at replayed
    · rename_i result reduced
      obtain ⟨⟨rest, last⟩, replayedRest, same⟩ := Option.map_eq_some_iff.mp replayed
      obtain ⟨rfl, rfl⟩ := Prod.mk.inj same
      refine Run.cons_iff.mpr ⟨some result.aggregate, ⟨⟨result, reduced, rfl, rfl⟩, ?_⟩,
        ih replayedRest⟩
      rintro aggregate ⟨⟩ other equal
      obtain rfl := TradeEvent.ticketEvent.inj equal
      exact meets

end Replay

/-! ### A concrete Ticket -/

/-- An identity written out. -/
def named (text : String) (stripped : strip text = text := by decide)
    (nonempty : text ≠ "" := by decide) : NonBlankText :=
  ⟨text, stripped, nonempty⟩

def sampleDigest : String :=
  "sha256:0123456789abcdef0123456789abcdef0123456789abcdef0123456789abcdef"

/-- The terms of a long market entry of four units at 100, with its stop at 90 and one exit leg of
two units at 120. -/
def sampleTerms : TicketTerms where
  identity :=
    { ticketId := named "ticket:1"
      exposureEpisodeId := named "episode:1"
      signalEventId := named "signal:1"
      runtime := ⟨named "tokyo", named "sor", named "sor-1", named "sor-event"⟩
      nettingDomain := ⟨named "binance-usdm", named "main", named "BTCUSDT", .long⟩ }
  ownerPolicyId := named "policy"
  ownerPolicyVersion := 1
  runtimeScopeId := named "scope"
  runtimeScopeVersion := 1
  universeVersionId := named "universe"
  universeSemanticDigest := sampleDigest
  factDigest := sampleDigest
  exposureFamily := .openingRange
  activeFamilyTicketCountAtClaim := 0
  familyTicketLimit := 1
  directionalRiskAtStopAtClaim := 0
  directionalStopRiskLimitFraction := 1
  minMaterializationRatio := 1
  minimumStopRiskBudget := 1
  exitPolicyId := named "exit"
  exitPolicySemanticHash := sampleDigest
  exitBindingId := none
  exitBindingSemanticHash := none
  exitBindingAuthorityVersion := none
  capacityClaimId := named "claim"
  createdAtMs := 500
  expiresAtMs := 60000
  entryReferencePrice := 100
  quantity := 4
  notional := 400
  plannedStopRiskBudget := 40
  postFillStopRiskLimit := 60
  selectedLeverage := 5
  leverageChangeRequired := false
  reservedMargin := 80
  riskReservationBasis := named "stop"
  postStopStressMultiple := 1
  claimStressProofDigest := sampleDigest
  riskAtStop := 40
  entryOrderType := .market
  entryLimitPrice := none
  initialStopPrice := 90
  preTp1ReclaimPrice := none
  exposureSessionEndMs := none
  takeProfitPrices := [120]
  takeProfitQuantities := [2]
  status := .issued
  selectionAuthorityId := none

def sampleTicket : TradeTicket where
  toTicketTerms := sampleTerms
  fieldsValid := by decide +kernel
  shapeValid := by decide +kernel

/-- A full fill of the sample Ticket at its reference price. -/
def sampleFill : EntryFilled where
  filledQty := 4
  averageFillPrice := 100
  postFillRisk := ⟨.withinBudget, .normal, 40⟩
  venueReportedLiquidationPrice := none
  positionObservedAtMs := 1000

/-- The account at the assessment: nothing open but the sample position. -/
def sampleAccount : AccountRiskFacts where
  venueId := named "binance-usdm"
  accountId := named "main"
  exchangeInstrumentId := named "BTCUSDT"
  markPrice := 100
  configuredLeverage := 5
  totalWalletBalance := 1000
  totalMarginBalance := 1000
  totalInitialMargin := 80
  totalMaintenanceMargin := 4
  availableMargin := 900
  accountPositions := []
  observedAtMs := 1000
  validUntilMs := 2000

def sampleSnapshot : AccountRiskSnapshot where
  toAccountRiskFacts := sampleAccount
  snapshotDigest := CanonicalJson.canonicalDigest sampleAccount.payload
  markPositive := by decide +kernel
  leveragePositive := by decide
  balancesNonneg := by decide +kernel
  window := by decide
  sidesUnique := List.nodup_nil
  digestOfPayload := rfl

def sampleBracket : MaintenanceMarginBracket where
  bracketId := named "1"
  notionalFloor := 0
  notionalCap := none
  maintenanceMarginRate := 1 / 100
  maintenanceAmount := 0
  nonnegative := by decide +kernel
  rateInRange := by decide +kernel
  capExceedsFloor := by simp

/-- The stop-stress request of the sample position, at its fill and its stop. -/
def sampleRequest : CrossMarginStressRequest where
  accountSnapshot := sampleSnapshot
  maintenanceMarginBrackets := [sampleBracket]
  maintenanceMarginBracketsDigest := sampleDigest
  notionalCoefficient := 1
  notionalCoefficientCertified := true
  evaluatedSide := .long
  referenceEntryPrice := 100
  initialStopPrice := 90
  postStopStressMultiple := 1
  projectedInstrumentPositions := [⟨.long, 4, 100, by decide +kernel⟩]
  bracketsDigestShape := by decide +kernel
  positive := by decide +kernel
  bracketsNonempty := List.cons_ne_nil _ _
  sidesUnique := by simp
  evaluatedProjected := List.mem_singleton.mpr rfl
  stopProtective := by decide +kernel

/-- A passed assessment of the sample position. -/
def sampleAssessment : PostFillStressAssessed where
  status := .passed
  evidence :=
    { request := sampleRequest
      proof :=
        { snapshotDigest := sampleSnapshot.snapshotDigest
          maintenanceMarginBracketsDigest := sampleDigest
          status := .passed
          stressPrice := 80
          stressBoundaryClampedToZero := false
          minimumMarginSurplus := some 916
          minimumMarginSurplusPrice := some 80
          evaluatedPointCount := 4
          contradictionReason := none
          proofDigest := sampleDigest
          digestShapes := ⟨CanonicalJson.isSha256Digest_canonicalDigest _, by decide +kernel,
            by decide +kernel⟩
          stressPriceNonneg := by decide +kernel
          shape := ⟨⟨916, rfl, fun _ => by decide +kernel⟩, ⟨80, rfl, by decide +kernel⟩,
            by decide, rfl⟩ }
      snapshotBound := rfl
      bracketsBound := rfl }
  ownerPolicyId := "policy"
  ownerPolicyVersion := 1
  filledQty := 4
  averageFillPrice := 100
  initialStopPrice := 90
  initialStopExchangeOrderId := "stop-1"
  statusOfEvidence := rfl
  positive := by decide +kernel
  identities := by decide

/-! ### Runs from a list of facts -/

/-- A fact as the event after `n` others on the sample Ticket. -/
def sampleEvent (n : ℕ) (fact : PlainFact) : TicketEvent where
  eventId := digestIdentity "event:" (toString n) 16 (solid_of_all (by decide)) (by decide)
  sequence := n + 1
  occurredAtMs := 1000 + n
  positive := by omega
  ticketId := sampleTicket.identity.ticketId
  fact := fact.val
  observedBefore := by simp [fact.property]

/-- The facts as the events after `n` others. -/
def script : ℕ → List PlainFact → List TicketEvent
  | _, [] => []
  | n, fact :: facts => sampleEvent n fact :: script (n + 1) facts

def entryAcceptedFact : PlainFact := ⟨.entryAccepted "entry-1", rfl⟩

def stressAssessedFact : PlainFact := ⟨.postFillStressAssessed sampleAssessment, rfl⟩

/-- The sample Ticket filled, stopped, assessed and protected by TP1. -/
def protectedFacts : List PlainFact :=
  [entryAcceptedFact, ⟨.entryFilled sampleFill, rfl⟩, ⟨.initialStopConfirmed "stop-1" 4, rfl⟩,
    stressAssessedFact, ⟨.takeProfitConfirmed "tp-1" 2, rfl⟩]

/-- The sample runner after TP1: its stop replaced by `stop-2`, and that one by `stop-3`, which
leaves `stop-2` to be cancelled. -/
def runnerFacts : List PlainFact :=
  protectedFacts ++ [⟨.takeProfitFilled ⟨2, 120, 100⟩, rfl⟩,
    ⟨.protectionReplacementConfirmed ⟨"stop-2", 2, 100, "stop-1", 1006⟩, rfl⟩,
    ⟨.protectionCancelConfirmed "stop-1", rfl⟩, ⟨.runnerStopRequested 105 2000, rfl⟩,
    ⟨.protectionReplacementConfirmed ⟨"stop-3", 2, 105, "stop-2", 2000⟩, rfl⟩]

/-- The event that issues the sample Ticket. -/
def sampleIssue : EventHeader where
  eventId := named "event:issue"
  sequence := 1
  occurredAtMs := 1000
  positive := by decide

/-- The replay of facts on the sample Ticket reaches a history and an aggregate that pass a test. -/
def replayPasses (allowed : TradeAggregate → TicketEvent → Prop)
    [∀ current event, Decidable (allowed current event)] (facts : List PlainFact)
    (test : List AcceptedEvent → TradeAggregate → Bool) : Bool :=
  match replay allowed (issuedAggregate sampleTicket 1) (script 1 facts) with
  | none => false
  | some (later, final) => test (issuedHistory sampleIssue sampleTicket ++ later) final

/-- A replay that passes a test exhibits a run with the tested property. -/
theorem exists_run (allowed : TradeAggregate → TicketEvent → Prop)
    [∀ current event, Decidable (allowed current event)] (facts : List PlainFact)
    (test : List AcceptedEvent → TradeAggregate → Bool)
    (passes : replayPasses allowed facts test = true) :
    ∃ history aggregate, LifecycleRunIf allowed history aggregate ∧
      test history aggregate = true := by
  unfold replayPasses at passes
  split at passes
  · simp at passes
  · rename_i later final replayed
    refine ⟨_, final, ?_, passes⟩
    have issue : AcceptsIf allowed none ⟨.ticketIssued sampleIssue sampleTicket,
        issuedEffects sampleTicket⟩ (some (issuedAggregate sampleTicket 1)) :=
      ⟨⟨⟨issuedAggregate sampleTicket 1, issuedEffects sampleTicket⟩,
        reduceEvent_none_eq_ok.mpr ⟨sampleIssue, sampleTicket, rfl, rfl, rfl⟩, rfl, rfl⟩,
        fun aggregate arrived => by simp at arrived⟩
    exact Run.append_iff.mpr ⟨_, Run.snoc .nil issue, run_of_replay replayed⟩

end TradingKernel
