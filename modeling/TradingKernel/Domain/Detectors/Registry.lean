/-
**The registered strategy events.**

`registeredStrategyContracts` lists the contracts of the ten events, each with the facts it requires
and the facts that disable it. Every fact of an event is fresh for the bar of its timeframe.
-/

import TradingKernel.Domain.Detectors.Market

namespace TradingKernel.Detectors

inductive FactRole where
  | condition
  | protectionReference
  | identityReference
  | lifecycleReference
  | disable
  deriving DecidableEq, Repr

/-- The roles whose facts are boolean. -/
def FactRole.IsBoolean (role : FactRole) : Prop := role = .condition ∨ role = .disable

instance (role : FactRole) : Decidable role.IsBoolean := inferInstanceAs (Decidable (_ ∨ _))

structure RegisteredFactRequirement where
  factDefinitionId : String
  factName : String
  role : FactRole
  freshnessMs : ℤ
  deriving DecidableEq

inductive EventId where
  | cpmLong
  | mpgLong
  | miLong
  | sorLong
  | sorShort
  | brf2Short
  | sor1hLong
  | sor1hShort
  | sorUsLong15m
  | sorUsShort15m
  deriving DecidableEq, Repr

def EventId.value : EventId → String
  | .cpmLong => "CPM-LONG"
  | .mpgLong => "MPG-LONG"
  | .miLong => "MI-LONG"
  | .sorLong => "SOR-LONG"
  | .sorShort => "SOR-SHORT"
  | .brf2Short => "BRF2-SHORT"
  | .sor1hLong => "SOR-1H-LONG"
  | .sor1hShort => "SOR-1H-SHORT"
  | .sorUsLong15m => "SOR-US-LONG-15M"
  | .sorUsShort15m => "SOR-US-SHORT-15M"

/-- The fields of a registered strategy contract that a detector reads. -/
structure RegisteredStrategyContract where
  strategyGroupId : String
  eventSpecId : String
  eventId : EventId
  positionSide : PositionSide
  timeframe : Timeframe
  requiredFacts : List RegisteredFactRequirement
  disableFacts : List RegisteredFactRequirement
  deriving DecidableEq

/-- The required facts and then the disable facts. -/
def RegisteredStrategyContract.facts (contract : RegisteredStrategyContract) :
    List RegisteredFactRequirement :=
  contract.requiredFacts ++ contract.disableFacts

/-- `_fact`. -/
def fact (factName : String) (role : FactRole) (freshnessMs : ℤ) (factVersion : ℕ) :
    RegisteredFactRequirement where
  factDefinitionId := "fact:" ++ factName ++ ":v" ++ toString factVersion
  factName := factName
  role := role
  freshnessMs := freshnessMs

/-- `_contract`. -/
def contract (strategyGroupId : String) (eventId : EventId) (positionSide : PositionSide)
    (timeframe : Timeframe) (facts : List (String × FactRole)) (disableFactNames : List String)
    (semanticVersion factVersion : ℕ) : RegisteredStrategyContract :=
  let freshnessWindowMs := if timeframe = .fifteenMinutes then 900000 else 3600000
  { strategyGroupId := strategyGroupId
    eventSpecId := "event_spec:" ++ strategyGroupId ++ ":" ++ eventId.value ++ ":v" ++
      toString semanticVersion
    eventId := eventId
    positionSide := positionSide
    timeframe := timeframe
    requiredFacts := facts.map fun item => fact item.1 item.2 freshnessWindowMs factVersion
    disableFacts := disableFactNames.map fun factName =>
      fact factName .disable freshnessWindowMs factVersion }

def cpmLong : RegisteredStrategyContract :=
  contract "CPM-RO-001" .cpmLong .long .oneHour
    [("htf_trend_intact", .condition), ("reclaim_confirmed", .condition),
      ("pullback_low_reference", .protectionReference)] [] 3 1

def mpgLong : RegisteredStrategyContract :=
  contract "MPG-001" .mpgLong .long .oneHour
    [("momentum_persistence_confirmed", .condition), ("leader_strength_confirmed", .condition),
      ("momentum_floor_reference", .protectionReference)] [] 3 1

def miLong : RegisteredStrategyContract :=
  contract "MI-001" .miLong .long .oneHour
    [("impulse_confirmed", .condition), ("relative_strength_confirmed", .condition),
      ("impulse_invalidation_reference", .protectionReference)] [] 3 1

def sorLong : RegisteredStrategyContract :=
  contract "SOR-001" .sorLong .long .fifteenMinutes
    [("opening_range_defined_v3", .condition), ("breakout_edge_crossed_v3", .condition),
      ("opening_range_high_reference_v3", .lifecycleReference),
      ("opening_range_low_reference_v3", .protectionReference),
      ("session_start_ms_v3", .identityReference), ("session_end_ms_v3", .lifecycleReference)] [] 4 3

def sorShort : RegisteredStrategyContract :=
  contract "SOR-001" .sorShort .short .fifteenMinutes
    [("opening_range_defined_v3", .condition), ("breakdown_edge_crossed_v3", .condition),
      ("opening_range_low_reference_v3", .lifecycleReference),
      ("opening_range_high_reference_v3", .protectionReference),
      ("session_start_ms_v3", .identityReference), ("session_end_ms_v3", .lifecycleReference)] [] 4 3

def brf2Short : RegisteredStrategyContract :=
  contract "BRF2-001" .brf2Short .short .oneHour
    [("rally_failure_confirmed", .condition), ("short_side_not_disabled", .condition),
      ("rally_high_reference", .protectionReference)] ["strong_uptrend_disable"] 3 1

def sor1hLong : RegisteredStrategyContract :=
  contract "SOR-1H-001" .sor1hLong .long .oneHour
    [("opening_range_defined_1h_v1", .condition), ("entry_hour_eligible_1h_v1", .condition),
      ("breakout_edge_crossed_1h_v1", .condition),
      ("opening_range_high_reference_1h_v1", .lifecycleReference),
      ("opening_range_low_reference_1h_v1", .protectionReference),
      ("session_start_ms_1h_v1", .identityReference),
      ("session_end_ms_1h_v1", .lifecycleReference)] [] 1 1

def sor1hShort : RegisteredStrategyContract :=
  contract "SOR-1H-001" .sor1hShort .short .oneHour
    [("opening_range_defined_1h_v1", .condition), ("entry_hour_eligible_1h_v1", .condition),
      ("breakdown_edge_crossed_1h_v1", .condition),
      ("opening_range_low_reference_1h_v1", .lifecycleReference),
      ("opening_range_high_reference_1h_v1", .protectionReference),
      ("session_start_ms_1h_v1", .identityReference),
      ("session_end_ms_1h_v1", .lifecycleReference)] [] 1 1

def sorUsLong15m : RegisteredStrategyContract :=
  contract "SOR-US-EQ-PERP-001" .sorUsLong15m .long .fifteenMinutes
    [("regular_session_confirmed_us_v1", .condition), ("opening_range_defined_us_v1", .condition),
      ("breakout_edge_crossed_us_v1", .condition),
      ("opening_range_high_reference_us_v1", .lifecycleReference),
      ("initial_stop_reference_us_v1", .protectionReference),
      ("regular_session_open_ms_us_v1", .identityReference),
      ("session_exit_deadline_ms_us_v1", .lifecycleReference)] [] 1 1

def sorUsShort15m : RegisteredStrategyContract :=
  contract "SOR-US-EQ-PERP-001" .sorUsShort15m .short .fifteenMinutes
    [("regular_session_confirmed_us_v1", .condition), ("opening_range_defined_us_v1", .condition),
      ("breakdown_edge_crossed_us_v1", .condition),
      ("opening_range_low_reference_us_v1", .lifecycleReference),
      ("initial_stop_reference_us_v1", .protectionReference),
      ("regular_session_open_ms_us_v1", .identityReference),
      ("session_exit_deadline_ms_us_v1", .lifecycleReference)] [] 1 1

/-- `registered_strategy_contracts`. -/
def registeredStrategyContracts : List RegisteredStrategyContract :=
  [cpmLong, mpgLong, miLong, sorLong, sorShort, brf2Short, sor1hLong, sor1hShort, sorUsLong15m,
    sorUsShort15m]

theorem registered_event_specs_nodup :
    (registeredStrategyContracts.map (·.eventSpecId)).Nodup := by
  decide

theorem registered_events_nodup : (registeredStrategyContracts.map (·.eventId)).Nodup := by
  decide

/-- Every registered event has exactly one protection reference among its facts. -/
theorem registered_protection_reference :
    ∀ contract ∈ registeredStrategyContracts,
      (contract.facts.filter fun requirement => requirement.role = .protectionReference).length = 1 := by
  decide

end TradingKernel.Detectors
