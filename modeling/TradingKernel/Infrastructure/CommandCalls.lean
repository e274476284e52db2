/-
**What the repository's methods do to the status of a command.**

A call of a method is data (`CommandCall`), and carrying it out on the commands of all Tickets is one
atomic step (`CommandStore.call`). Whatever the call is, it moves the commands it hits along one edge
of `CommandCall.edge`, and leaves every other command as it was (`CommandStore.moved`); a new
command starts out prepared.
-/

import TradingKernel.Infrastructure.CommandTable

namespace TradingKernel

open Text Guard

/-! ### Statuses in a table -/

namespace CommandTable

variable {table updated : CommandTable} {key : CommandKey} {status : ExchangeCommandStatus}

/-- The status of the command of a key. -/
def statusOf (table : CommandTable) (key : CommandKey) : Option ExchangeCommandStatus :=
  (table.rows.find? fun row => row.key = key).map CommandRow.status

theorem statusOf_eq_some :
    table.statusOf key = some status ↔ ∃ row ∈ table, row.key = key ∧ row.status = status := by
  rw [statusOf, Option.map_eq_some_iff]
  constructor
  · rintro ⟨row, found, rfl⟩
    exact ⟨row, List.mem_of_find?_eq_some found, by simpa using List.find?_some found, rfl⟩
  · rintro ⟨row, member, same, rfl⟩
    cases found : table.rows.find? fun row => row.key = key with
    | none =>
      have absent := List.find?_eq_none.mp found row member
      simp [same] at absent
    | some other =>
      have otherKey : other.key = key := by simpa using List.find?_some found
      have equal := Table.eq_of_key (List.mem_of_find?_eq_some found) member
        (otherKey.trans same.symm)
      exact ⟨other, rfl, congrArg CommandRow.status equal⟩

theorem statusOf_eq_none : table.statusOf key = none ↔ ∀ row ∈ table, row.key ≠ key := by
  rw [statusOf, Option.map_eq_none_iff, List.find?_eq_none]
  simp only [decide_eq_true_eq]
  exact Iff.rfl

/-- Tables with the same rows of a key have the same status there. -/
theorem statusOf_congr (same : ∀ row, row.key = key → (row ∈ updated ↔ row ∈ table)) :
    updated.statusOf key = table.statusOf key := by
  refine Option.ext fun status => ?_
  rw [statusOf_eq_some, statusOf_eq_some]
  refine exists_congr fun row => ?_
  constructor
  · rintro ⟨member, isKey, at_status⟩
    exact ⟨(same row isKey).mp member, isKey, at_status⟩
  · rintro ⟨member, isKey, at_status⟩
    exact ⟨(same row isKey).mpr member, isKey, at_status⟩

/-- The commands that are hit go from one status to another; the others stay as they are. -/
structure Moved (hit : CommandKey → Prop) (source target : ExchangeCommandStatus)
    (table updated : CommandTable) : Prop where
  struck : ∀ key, hit key → table.statusOf key = some source ∧ updated.statusOf key = some target
  others : ∀ key, ¬ hit key → updated.statusOf key = table.statusOf key

/-- A change of one row moves its command. -/
theorem Transit.moved {condition : CommandRow → Prop} {change : CommandRow → CommandRow}
    {source target : ExchangeCommandStatus}
    (transit : Transit key condition change table updated)
    (leaves : ∀ row, condition row → row.status = source)
    (lands : ∀ row, (change row).status = target) :
    Moved (fun other => other = key) source target table updated where
  struck := by
    rintro _ rfl
    obtain ⟨row, member, same, meets⟩ := transit.source
    refine ⟨statusOf_eq_some.mpr ⟨row, member, same, leaves row meets⟩,
      statusOf_eq_some.mpr ⟨change row, transit.changed member same, ?_, lands row⟩⟩
    rw [transit.keeps, same]
  others other different := by
    refine statusOf_congr fun row isOther => ?_
    rw [transit.rows]
    constructor
    · rintro (⟨old, -, isKey, rfl⟩ | ⟨member, -⟩)
      · rw [transit.keeps, isKey] at isOther
        exact absurd isOther.symm different
      · exact member
    · intro member
      exact .inr ⟨member, fun isKey => different (isOther.symm.trans isKey)⟩

/-- A change to another status than `CLAIMED` claims no row. -/
theorem Transit.claimed_before {condition : CommandRow → Prop}
    {change : CommandRow → CommandRow} (transit : Transit key condition change table updated)
    (target : ExchangeCommandStatus) (lands : ∀ row, (change row).status = target)
    (other : target ≠ .claimed) {row : CommandRow} (member : row ∈ updated)
    (claimed : row.status = .claimed) : row ∈ table := by
  rcases (transit.rows row).mp member with ⟨old, -, -, rfl⟩ | ⟨there, -⟩
  · exact absurd ((lands old).symm.trans claimed) other
  · exact there

/-- The cancels of an order that are found absent. -/
theorem markCancelReconciledAbsent_moved {exchangeOrderId : String} {observedAtMs : ℤ}
    (marked : table.markCancelReconciledAbsent exchangeOrderId observedAtMs = .ok updated) :
    Moved (fun key => ∃ row ∈ table, row.key = key ∧ row.status = .outcomeUnknown ∧
        row.kind = .cancelOrder ∧ Cancels exchangeOrderId row.command)
      .outcomeUnknown .reconciledAbsent table updated where
  struck := by
    rintro key ⟨row, member, same, unknown, kind, cancels⟩
    refine ⟨statusOf_eq_some.mpr ⟨row, member, same, unknown⟩, statusOf_eq_some.mpr
      ⟨row.settled .reconciledAbsent observedAtMs, ?_, same, rfl⟩⟩
    exact (Table.mem_update marked).mpr ⟨row, member, .inl ⟨⟨kind, unknown, cancels⟩, rfl⟩⟩
  others key untouched := by
    refine statusOf_congr fun row isKey => ?_
    rw [Table.mem_update marked]
    constructor
    · rintro ⟨old, there, ⟨⟨kind, unknown, cancels⟩, rfl⟩ | ⟨-, rfl⟩⟩
      · exact absurd ⟨old, there, isKey, unknown, kind, cancels⟩ untouched
      · exact there
    · intro member
      exact ⟨row, member, .inr ⟨fun hit => untouched
        ⟨row, member, isKey, hit.2.1, hit.1, hit.2.2⟩, rfl⟩⟩

/-- A new command, and the others as they were. -/
theorem add_status {command : ExchangeCommand} (added : table.add command = .ok updated) :
    table.statusOf ⟨command.kind, command.generation⟩ = none ∧
      updated.statusOf ⟨command.kind, command.generation⟩ = some command.status ∧
      ∀ other, other ≠ ⟨command.kind, command.generation⟩ →
        updated.statusOf other = table.statusOf other := by
  refine ⟨statusOf_eq_none.mpr (Table.insert_eq_ok.mp added).1,
    statusOf_eq_some.mpr ⟨_, (Table.mem_insert added).mpr (.inr rfl), rfl, rfl⟩, ?_⟩
  intro other different
  refine statusOf_congr fun row isOther => ?_
  rw [Table.mem_insert added]
  constructor
  · rintro (member | rfl)
    · exact member
    · exact absurd isOther.symm different
  · exact .inl

end CommandTable

/-! ### Calls -/

/-- The identity of a command among the commands of all Tickets. -/
structure CommandIdentity where
  ticketId : NonBlankText
  key : CommandKey
  deriving DecidableEq

/-- The commands of every Ticket. -/
abbrev CommandStore := NonBlankText → CommandTable

/-- A call of one of the methods. -/
inductive CommandCall where
  | add (ticketId : NonBlankText) (command : ExchangeCommand)
      (prepared : command.status = .prepared)
  | claimOnePrepared (id : CommandIdentity) (workerId : NonBlankText) (nowMs leaseUntilMs : ℤ)
  | recordResult (id : CommandIdentity) (workerId : NonBlankText) (result : ExchangeCommandResult)
  | recordLeverageResult (id : CommandIdentity) (workerId : NonBlankText)
      (result : SetLeverageCommandResult)
  | markClaimedSuperseded (id : CommandIdentity) (workerId : NonBlankText) (observedAtMs : ℤ)
  | markPreparedSuperseded (id : CommandIdentity) (observedAtMs : ℤ)
  | recordExpiredClaimUnknown (id : CommandIdentity) (observedAtMs : ℤ)
  | markCancelReconciledAbsent (ticketId : NonBlankText) (exchangeOrderId : String)
      (observedAtMs : ℤ)
  | reconcileUnknownSubmitted (id : CommandIdentity) (observedAtMs : ℤ)
  | reconcileUnknownLeverageConfirmed (id : CommandIdentity) (result : SetLeverageCommandResult)
  | reconcileUnknownAbsent (id : CommandIdentity) (observedAtMs : ℤ)

namespace CommandCall

/-- The Ticket whose commands the call is about. -/
def ticketId : CommandCall → NonBlankText
  | add ticketId _ _ => ticketId
  | markCancelReconciledAbsent ticketId _ _ => ticketId
  | claimOnePrepared id _ _ _ | recordResult id _ _ | recordLeverageResult id _ _
  | markClaimedSuperseded id _ _ | markPreparedSuperseded id _ | recordExpiredClaimUnknown id _
  | reconcileUnknownSubmitted id _ | reconcileUnknownLeverageConfirmed id _
  | reconcileUnknownAbsent id _ => id.ticketId

/-- What the call leaves of the Ticket's commands. -/
def run (table : CommandTable) : CommandCall → Except Raised CommandTable
  | add _ command _ => table.add command
  | claimOnePrepared id workerId nowMs leaseUntilMs =>
      table.claimOnePrepared id.key workerId nowMs leaseUntilMs
  | recordResult id workerId result =>
      table.recordResult id.key workerId result.status result.observedAtMs
  | recordLeverageResult id workerId result =>
      table.recordLeverageResult id.key workerId result.leverageVerifiedAtMs
  | markClaimedSuperseded id workerId observedAtMs =>
      table.markClaimedSuperseded id.key workerId observedAtMs
  | markPreparedSuperseded id observedAtMs => table.markPreparedSuperseded id.key observedAtMs
  | recordExpiredClaimUnknown id observedAtMs =>
      table.recordExpiredClaimUnknown id.key observedAtMs
  | markCancelReconciledAbsent _ exchangeOrderId observedAtMs =>
      table.markCancelReconciledAbsent exchangeOrderId observedAtMs
  | reconcileUnknownSubmitted id observedAtMs =>
      table.reconcileUnknownSubmitted id.key observedAtMs
  | reconcileUnknownLeverageConfirmed id result =>
      table.reconcileUnknownLeverageConfirmed id.key result.leverageVerifiedAtMs
  | reconcileUnknownAbsent id observedAtMs => table.reconcileUnknownAbsent id.key observedAtMs

/-- From and to of the commands that the call hits; a new command comes from nowhere. -/
def edge : CommandCall → Option ExchangeCommandStatus × ExchangeCommandStatus
  | add _ _ _ => (none, .prepared)
  | claimOnePrepared _ _ _ _ => (some .prepared, .claimed)
  | recordResult _ _ result => (some .claimed, result.status)
  | recordLeverageResult _ _ _ => (some .claimed, .accepted)
  | markClaimedSuperseded _ _ _ => (some .claimed, .superseded)
  | markPreparedSuperseded _ _ => (some .prepared, .superseded)
  | recordExpiredClaimUnknown _ _ => (some .claimed, .outcomeUnknown)
  | markCancelReconciledAbsent _ _ _ => (some .outcomeUnknown, .reconciledAbsent)
  | reconcileUnknownSubmitted _ _ => (some .outcomeUnknown, .reconciledAccepted)
  | reconcileUnknownLeverageConfirmed _ _ => (some .outcomeUnknown, .reconciledAccepted)
  | reconcileUnknownAbsent _ _ => (some .outcomeUnknown, .reconciledAbsent)

/-- The keys of the commands that the call is about, in the commands of its Ticket. -/
def Hits (table : CommandTable) : CommandCall → CommandKey → Prop
  | add _ command _, key => key = ⟨command.kind, command.generation⟩
  | markCancelReconciledAbsent _ exchangeOrderId _, key =>
      ∃ row ∈ table, row.key = key ∧ row.status = .outcomeUnknown ∧ row.kind = .cancelOrder ∧
        CommandTable.Cancels exchangeOrderId row.command
  | claimOnePrepared id _ _ _, key | recordResult id _ _, key | recordLeverageResult id _ _, key
  | markClaimedSuperseded id _ _, key | markPreparedSuperseded id _, key
  | recordExpiredClaimUnknown id _, key | reconcileUnknownSubmitted id _, key
  | reconcileUnknownLeverageConfirmed id _, key | reconcileUnknownAbsent id _, key => key = id.key

/-- The worker whose claim the call makes. -/
def claimant : CommandCall → Option (CommandIdentity × NonBlankText)
  | claimOnePrepared id workerId _ _ => some (id, workerId)
  | _ => none

/-- The worker whose result of a command the call records. -/
def recorder : CommandCall → Option (CommandIdentity × NonBlankText)
  | recordResult id workerId _ | recordLeverageResult id workerId _ => some (id, workerId)
  | _ => none

section Run

variable {table updated : CommandTable} {call : CommandCall} {key : CommandKey}

open CommandTable in
/-- A call moves the commands it hits along its edge, and no other. -/
theorem run_moved (returned : call.run table = .ok updated) :
    (call.Hits table key → table.statusOf key = call.edge.1 ∧
      updated.statusOf key = some call.edge.2) ∧
    (¬ call.Hits table key → updated.statusOf key = table.statusOf key) := by
  have moves {hit : CommandKey → Prop} {source target : ExchangeCommandStatus}
      (moved : Moved hit source target table updated) :
      (hit key → table.statusOf key = some source ∧ updated.statusOf key = some target) ∧
        (¬ hit key → updated.statusOf key = table.statusOf key) :=
    ⟨moved.struck key, moved.others key⟩
  cases call with
  | add ticketId command prepared =>
    obtain ⟨fresh, new, others⟩ := add_status returned
    rw [prepared] at new
    exact ⟨fun isKey => isKey ▸ ⟨fresh, new⟩, others key⟩
  | claimOnePrepared id workerId nowMs leaseUntilMs =>
    exact moves ((transit_eq_ok returned).moved (fun _ meets => meets.1) fun _ => rfl)
  | recordResult id workerId result =>
    exact moves ((transit_eq_ok returned).moved (fun _ meets => meets.1) fun _ => rfl)
  | recordLeverageResult id workerId result =>
    exact moves ((transit_eq_ok returned).moved (fun _ meets => meets.2.1) fun _ => rfl)
  | markClaimedSuperseded id workerId observedAtMs =>
    exact moves ((transit_eq_ok returned).moved (fun _ meets => meets.1) fun _ => rfl)
  | markPreparedSuperseded id observedAtMs =>
    exact moves ((transit_eq_ok returned).moved (fun _ meets => meets) fun _ => rfl)
  | recordExpiredClaimUnknown id observedAtMs =>
    exact moves ((transit_eq_ok returned).moved (fun _ meets => meets.1) fun _ => rfl)
  | markCancelReconciledAbsent ticketId exchangeOrderId observedAtMs =>
    exact moves (markCancelReconciledAbsent_moved returned)
  | reconcileUnknownSubmitted id observedAtMs =>
    exact moves ((transit_eq_ok returned).moved (fun _ meets => meets) fun _ => rfl)
  | reconcileUnknownLeverageConfirmed id result =>
    exact moves ((transit_eq_ok returned).moved (fun _ meets => meets.2) fun _ => rfl)
  | reconcileUnknownAbsent id observedAtMs =>
    exact moves ((transit_eq_ok returned).moved (fun _ meets => meets) fun _ => rfl)

open CommandTable in
/-- A claimed row was claimed before the call, or the call claimed it for its worker. -/
theorem run_claimed (returned : call.run table = .ok updated) {row : CommandRow}
    (member : row ∈ updated) (claimed : row.status = .claimed) :
    row ∈ table ∨ ∃ workerId, row.claimOwner = some workerId ∧
      call.claimant = some (⟨call.ticketId, row.key⟩, workerId) := by
  cases call with
  | add ticketId command prepared =>
    rcases (Table.mem_insert returned).mp member with there | rfl
    · exact .inl there
    · exact absurd (claimed.symm.trans prepared) (by decide)
  | claimOnePrepared id workerId nowMs leaseUntilMs =>
    rcases ((transit_eq_ok returned).rows row).mp member with ⟨old, -, same, rfl⟩ | ⟨there, -⟩
    · exact .inr ⟨workerId, rfl, by rw [(transit_eq_ok returned).keeps, same]; rfl⟩
    · exact .inl there
  | recordResult id workerId result =>
    have answered : result.status ≠ .claimed := by
      intro same
      exact absurd (same ▸ result.status_mem) (by decide)
    exact .inl ((transit_eq_ok returned).claimed_before result.status (fun _ => rfl) answered
      member claimed)
  | recordLeverageResult id workerId result =>
    exact .inl ((transit_eq_ok returned).claimed_before .accepted (fun _ => rfl) (by decide)
      member claimed)
  | markClaimedSuperseded id workerId observedAtMs =>
    exact .inl ((transit_eq_ok returned).claimed_before .superseded (fun _ => rfl) (by decide)
      member claimed)
  | markPreparedSuperseded id observedAtMs =>
    exact .inl ((transit_eq_ok returned).claimed_before .superseded (fun _ => rfl) (by decide)
      member claimed)
  | recordExpiredClaimUnknown id observedAtMs =>
    exact .inl ((transit_eq_ok returned).claimed_before .outcomeUnknown (fun _ => rfl) (by decide)
      member claimed)
  | markCancelReconciledAbsent ticketId exchangeOrderId observedAtMs =>
    obtain ⟨old, there, ⟨-, rfl⟩ | ⟨-, rfl⟩⟩ := (Table.mem_update returned).mp member
    · rw [CommandRow.settled_status] at claimed
      exact absurd claimed (by decide)
    · exact .inl there
  | reconcileUnknownSubmitted id observedAtMs =>
    exact .inl ((transit_eq_ok returned).claimed_before .reconciledAccepted (fun _ => rfl) (by decide)
      member claimed)
  | reconcileUnknownLeverageConfirmed id result =>
    exact .inl ((transit_eq_ok returned).claimed_before .reconciledAccepted (fun _ => rfl) (by decide)
      member claimed)
  | reconcileUnknownAbsent id observedAtMs =>
    exact .inl ((transit_eq_ok returned).claimed_before .reconciledAbsent (fun _ => rfl) (by decide)
      member claimed)

open CommandTable in
/-- A result is recorded of a row that its worker has claimed. -/
theorem run_recorded (returned : call.run table = .ok updated) {id : CommandIdentity}
    {workerId : NonBlankText} (records : call.recorder = some (id, workerId)) :
    call.ticketId = id.ticketId ∧ ∃ row ∈ table, row.key = id.key ∧ ClaimedBy workerId row := by
  cases call with
  | recordResult ownId ownWorker result =>
    obtain ⟨rfl, rfl⟩ := Prod.mk.injEq .. ▸ Option.some.inj records
    exact ⟨rfl, (transit_eq_ok returned).source⟩
  | recordLeverageResult ownId ownWorker result =>
    obtain ⟨rfl, rfl⟩ := Prod.mk.injEq .. ▸ Option.some.inj records
    obtain ⟨row, member, same, -, owned⟩ := (transit_eq_ok returned).source
    exact ⟨rfl, row, member, same, owned⟩
  | _ => simp [recorder] at records

end Run

end CommandCall

/-! ### Calls on the commands of all Tickets -/

namespace CommandStore

/-- The status of the command with an identity. -/
def statusOf (store : CommandStore) (id : CommandIdentity) : Option ExchangeCommandStatus :=
  (store id.ticketId).statusOf id.key

/-- One call, carried out on the commands of its Ticket. -/
def carry (store : CommandStore) (call : CommandCall) : Except Raised CommandStore := do
  let table ← call.run (store call.ticketId)
  return Function.update store call.ticketId table

/-- The commands that a call is about. -/
def Hit (store : CommandStore) (call : CommandCall) (id : CommandIdentity) : Prop :=
  id.ticketId = call.ticketId ∧ call.Hits (store call.ticketId) id.key

variable {store next : CommandStore} {call : CommandCall} {id : CommandIdentity}

theorem carry_eq_ok : store.carry call = .ok next ↔
    ∃ table, call.run (store call.ticketId) = .ok table ∧
      next = Function.update store call.ticketId table := by
  rw [carry, bind_eq_ok]
  simp only [pure_eq_ok]

/-- A command that a call is about goes along the edge of the call. -/
theorem carry_struck (carried : store.carry call = .ok next) (hit : store.Hit call id) :
    store.statusOf id = call.edge.1 ∧ next.statusOf id = some call.edge.2 := by
  obtain ⟨table, returned, rfl⟩ := carry_eq_ok.mp carried
  obtain ⟨same, hits⟩ := hit
  rw [statusOf, statusOf, same, Function.update_self]
  exact (CommandCall.run_moved returned).1 hits

/-- The other commands stay as they were. -/
theorem carry_others (carried : store.carry call = .ok next) (missed : ¬ store.Hit call id) :
    next.statusOf id = store.statusOf id := by
  obtain ⟨table, returned, rfl⟩ := carry_eq_ok.mp carried
  rw [statusOf, statusOf]
  by_cases same : id.ticketId = call.ticketId
  · rw [same, Function.update_self]
    exact (CommandCall.run_moved returned).2 fun hits => missed ⟨same, hits⟩
  · rw [Function.update_of_ne same]

/-- A claim is about the command that it names. -/
theorem hit_of_claimant {workerId : NonBlankText}
    (claims : call.claimant = some (id, workerId)) : store.Hit call id := by
  cases call with
  | claimOnePrepared ownId ownWorker nowMs leaseUntilMs =>
    obtain ⟨rfl, -⟩ := Prod.mk.injEq .. ▸ Option.some.inj claims
    exact ⟨rfl, rfl⟩
  | _ => simp [CommandCall.claimant] at claims

/-- The calls that claim are the ones that lead to `CLAIMED`. -/
theorem claimant_of_edge (target : call.edge.2 = .claimed) (hit : store.Hit call id) :
    ∃ workerId, call.claimant = some (id, workerId) := by
  cases call with
  | claimOnePrepared ownId ownWorker nowMs leaseUntilMs =>
    obtain ⟨ticketId, key⟩ := hit
    exact ⟨ownWorker, by cases id; cases ownId; simp_all [CommandCall.claimant,
      CommandCall.ticketId, CommandCall.Hits]⟩
  | recordResult ownId ownWorker result =>
    have same : result.status = .claimed := target
    exact absurd (same ▸ result.status_mem) (by decide)
  | _ => simp [CommandCall.edge] at target

end CommandStore

end TradingKernel
