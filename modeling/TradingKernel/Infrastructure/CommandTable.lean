/-
**The exchange commands of one Ticket, as the repository stores them.**

A row is a command with its claim: the worker that holds it, and until when. The table is keyed by
kind and generation, which the database keeps unique for a Ticket and which a command's identity
digests. Every method is an update by key and status that has to change exactly one row
(`CommandTable.transit`), so a row leaves a status once, whatever the workers do.
-/

import TradingKernel.Application.NextEvent
import TradingKernel.Lib.Table

namespace TradingKernel

open Text Guard

/-! ### Rows -/

/-- A command with its claim. -/
structure CommandRow where
  command : ExchangeCommand
  claimOwner : Option NonBlankText := none
  leaseUntilMs : Option ℤ := none
  completedAtMs : Option ℤ := none

/-- What is unique among the commands of a Ticket. -/
structure CommandKey where
  kind : ExchangeCommandKind
  generation : ℕ
  deriving DecidableEq, Repr

namespace CommandRow

variable (row : CommandRow)

def kind : ExchangeCommandKind := row.command.kind

def status : ExchangeCommandStatus := row.command.status

def key : CommandKey := ⟨row.kind, row.command.generation⟩

/-- The row in another status. -/
def withStatus (status : ExchangeCommandStatus) : CommandRow :=
  { row with command := { row.command with status := status } }

/-- The row claimed by a worker. -/
def claimedBy (workerId : NonBlankText) (leaseUntilMs : ℤ) : CommandRow :=
  { row.withStatus .claimed with claimOwner := some workerId, leaseUntilMs := some leaseUntilMs }

/-- The row with a final status: its lease is over. -/
def completed (status : ExchangeCommandStatus) (completedAtMs : ℤ) : CommandRow :=
  { row.withStatus status with leaseUntilMs := none, completedAtMs := some completedAtMs }

/-- The row with a final status of a command that holds no lease. -/
def settled (status : ExchangeCommandStatus) (completedAtMs : ℤ) : CommandRow :=
  { row.withStatus status with completedAtMs := some completedAtMs }

@[simp] theorem withStatus_status (status : ExchangeCommandStatus) :
    (row.withStatus status).status = status := rfl

@[simp] theorem withStatus_terms (status : ExchangeCommandStatus) :
    (row.withStatus status).command.toCommandTerms = row.command.toCommandTerms := rfl

@[simp] theorem claimedBy_status (workerId : NonBlankText) (leaseUntilMs : ℤ) :
    (row.claimedBy workerId leaseUntilMs).status = .claimed := rfl

@[simp] theorem claimedBy_terms (workerId : NonBlankText) (leaseUntilMs : ℤ) :
    (row.claimedBy workerId leaseUntilMs).command.toCommandTerms = row.command.toCommandTerms :=
  rfl

@[simp] theorem completed_status (status : ExchangeCommandStatus) (completedAtMs : ℤ) :
    (row.completed status completedAtMs).status = status := rfl

@[simp] theorem completed_terms (status : ExchangeCommandStatus) (completedAtMs : ℤ) :
    (row.completed status completedAtMs).command.toCommandTerms = row.command.toCommandTerms :=
  rfl

@[simp] theorem settled_status (status : ExchangeCommandStatus) (completedAtMs : ℤ) :
    (row.settled status completedAtMs).status = status := rfl

@[simp] theorem settled_terms (status : ExchangeCommandStatus) (completedAtMs : ℤ) :
    (row.settled status completedAtMs).command.toCommandTerms = row.command.toCommandTerms := rfl

end CommandRow

/-! ### The table -/

/-- The commands of a Ticket. -/
abbrev CommandTable := Table CommandRow.key

namespace CommandTable

variable (table : CommandTable) (key : CommandKey)

/-- The commands of the Ticket in their order. -/
def listForTicket : List ExchangeCommand := table.rows.map CommandRow.command

/-- The generations of a kind. -/
def generations (kind : ExchangeCommandKind) : List ℕ :=
  (table.rows.filter fun row => row.kind = kind).map fun row => row.command.generation

def nextGeneration (kind : ExchangeCommandKind) : ℕ := (table.generations kind).foldr max 0 + 1

/-- The latest command of a kind. -/
def latest (kind : ExchangeCommandKind) : Option CommandRow :=
  table.rows.find? fun row => row.kind = kind ∧
    row.command.generation = (table.generations kind).foldr max 0

def add (command : ExchangeCommand) : Except Raised CommandTable :=
  table.insert ⟨command, none, none, none⟩ .integrityError

/-- One row changes: the row of a key that meets a condition on its status and its claim. -/
def transit (condition : CommandRow → Prop) [DecidablePred condition]
    (change : CommandRow → CommandRow) (keeps : ∀ row, (change row).key = row.key)
    (conflict : String) : Except Raised CommandTable :=
  table.update (fun row => row.key = key ∧ condition row) change keeps
    (.aggregateVersionConflict conflict)

/-- The row of the key met the condition and is changed; the other rows are as they were. -/
structure Transit (key : CommandKey) (condition : CommandRow → Prop)
    (change : CommandRow → CommandRow) (table updated : CommandTable) : Prop where
  source : ∃ row ∈ table, row.key = key ∧ condition row
  keeps : ∀ row, (change row).key = row.key
  rows : ∀ row, row ∈ updated ↔
    (∃ old ∈ table, old.key = key ∧ row = change old) ∨ row ∈ table ∧ row.key ≠ key

section Transit

variable {table key} {updated next : CommandTable} {condition later : CommandRow → Prop}
  {change again : CommandRow → CommandRow}

theorem transit_eq_ok [DecidablePred condition] {keeps : ∀ row, (change row).key = row.key}
    {conflict : String} (updates : table.transit key condition change keeps conflict =
      .ok updated) : Transit key condition change table updated := by
  have once := (Table.update_eq_ok.mp updates).1
  obtain ⟨source, member, hit⟩ := List.countP_pos_iff.mp (by rw [once]; exact one_pos)
  have struck : source.key = key ∧ condition source := by simpa using hit
  refine ⟨⟨source, member, struck⟩, keeps, fun row => ?_⟩
  rw [Table.mem_update updates]
  constructor
  · rintro ⟨old, there, ⟨⟨same, -⟩, rfl⟩ | ⟨missed, rfl⟩⟩
    · exact .inl ⟨old, there, same, rfl⟩
    · refine .inr ⟨there, fun same => missed ⟨same, ?_⟩⟩
      -- the row of the key is the one that was hit
      have equal := Table.eq_of_key there member (same.trans struck.1.symm)
      exact equal ▸ struck.2
  · rintro (⟨old, there, same, rfl⟩ | ⟨there, other⟩)
    · have equal := Table.eq_of_key there member (same.trans struck.1.symm)
      exact ⟨old, there, .inl ⟨⟨same, equal ▸ struck.2⟩, rfl⟩⟩
    · exact ⟨row, there, .inr ⟨fun hit => other hit.1, rfl⟩⟩

/-- A change that its condition allows always succeeds. -/
theorem transit_of_mem [DecidablePred condition] {keeps : ∀ row, (change row).key = row.key}
    {conflict : String} {row : CommandRow} (member : row ∈ table) (same : row.key = key)
    (meets : condition row) :
    ∃ updated, table.transit key condition change keeps conflict = .ok updated :=
  ⟨_, Table.update_of_key member ⟨same, meets⟩ fun _ hit => hit.1.trans same.symm⟩

namespace Transit

/-- Two changes of one row are one change. -/
theorem trans (first : Transit key condition change table updated)
    (second : Transit key later again updated next) :
    Transit key condition (fun row => again (change row)) table next where
  source := first.source
  keeps row := (second.keeps _).trans (first.keeps row)
  rows row := by
    rw [second.rows]
    constructor
    · rintro (⟨middle, there, same, rfl⟩ | ⟨there, other⟩)
      · rcases (first.rows middle).mp there with ⟨old, member, key, rfl⟩ | ⟨-, different⟩
        · exact .inl ⟨old, member, key, rfl⟩
        · exact absurd same different
      · rcases (first.rows row).mp there with ⟨old, member, key, rfl⟩ | kept
        · exact absurd ((first.keeps old).trans key) other
        · exact .inr kept
    · rintro (⟨old, member, same, rfl⟩ | ⟨there, other⟩)
      · exact .inl ⟨change old, (first.rows _).mpr (.inl ⟨old, member, same, rfl⟩),
          (first.keeps old).trans same, rfl⟩
      · exact .inr ⟨(first.rows row).mpr (.inr ⟨there, other⟩), other⟩

/-- The changed row is there. -/
theorem changed (transit : Transit key condition change table updated) {row : CommandRow}
    (member : row ∈ table) (same : row.key = key) : change row ∈ updated :=
  (transit.rows _).mpr (.inl ⟨row, member, same, rfl⟩)

/-- Another row is still there. -/
theorem kept (transit : Transit key condition change table updated) {row : CommandRow}
    (member : row ∈ table) (other : row.key ≠ key) : row ∈ updated :=
  (transit.rows _).mpr (.inr ⟨member, other⟩)

end Transit

end Transit

/-! ### Claims -/

/-- The row can be claimed: it is prepared, and its deadline has not passed. -/
def Claimable (nowMs : ℤ) (row : CommandRow) : Prop :=
  row.status = .prepared ∧ nowMs < row.command.deadlineAtMs

instance (nowMs : ℤ) (row : CommandRow) : Decidable (Claimable nowMs row) :=
  inferInstanceAs (Decidable (_ ∧ _))

/-- The row is claimed by the worker. -/
def ClaimedBy (workerId : NonBlankText) (row : CommandRow) : Prop :=
  row.status = .claimed ∧ row.claimOwner = some workerId

instance (workerId : NonBlankText) (row : CommandRow) : Decidable (ClaimedBy workerId row) :=
  inferInstanceAs (Decidable (_ ∧ _))

/-- The row is claimed, and its lease is over. -/
def ClaimExpired (nowMs : ℤ) (row : CommandRow) : Prop :=
  row.status = .claimed ∧ ∃ lease ∈ row.leaseUntilMs, lease ≤ nowMs

instance (nowMs : ℤ) (row : CommandRow) : Decidable (ClaimExpired nowMs row) :=
  inferInstanceAs (Decidable (_ ∧ _))

/-- A worker claims a row that is prepared and not past its deadline; the repository takes the
oldest that the request admits. -/
def claimOnePrepared (workerId : NonBlankText) (nowMs leaseUntilMs : ℤ) :
    Except Raised CommandTable :=
  table.transit key (Claimable nowMs) (fun row => row.claimedBy workerId leaseUntilMs)
    (fun _ => rfl) "no command can be claimed"

def recordResult (workerId : NonBlankText) (status : ExchangeCommandStatus) (observedAtMs : ℤ) :
    Except Raised CommandTable :=
  table.transit key (ClaimedBy workerId) (fun row => row.completed status observedAtMs)
    (fun _ => rfl) "command claim changed before result"

/-- The leverage result is recorded for a leverage command only. -/
def recordLeverageResult (workerId : NonBlankText) (leverageVerifiedAtMs : ℤ) :
    Except Raised CommandTable :=
  table.transit key (fun row => row.kind = .setLeverage ∧ ClaimedBy workerId row)
    (fun row => row.completed .accepted leverageVerifiedAtMs) (fun _ => rfl)
    "leverage command claim changed before result"

def markClaimedSuperseded (workerId : NonBlankText) (observedAtMs : ℤ) :
    Except Raised CommandTable :=
  table.transit key (ClaimedBy workerId) (fun row => row.completed .superseded observedAtMs)
    (fun _ => rfl) "command claim changed before supersession"

def markPreparedSuperseded (observedAtMs : ℤ) : Except Raised CommandTable :=
  table.transit key (fun row => row.status = .prepared)
    (fun row => row.settled .superseded observedAtMs) (fun _ => rfl)
    "prepared command changed before supersession"

def recordExpiredClaimUnknown (observedAtMs : ℤ) : Except Raised CommandTable :=
  table.transit key (ClaimExpired observedAtMs)
    (fun row => row.completed .outcomeUnknown observedAtMs) (fun _ => rfl)
    "expired command claim changed"

/-! ### Reconciled outcomes -/

def reconcileUnknownSubmitted (observedAtMs : ℤ) : Except Raised CommandTable :=
  table.transit key (fun row => row.status = .outcomeUnknown)
    (fun row => row.settled .reconciledAccepted observedAtMs) (fun _ => rfl)
    "unknown command changed before submitted reconciliation"

def reconcileUnknownLeverageConfirmed (leverageVerifiedAtMs : ℤ) : Except Raised CommandTable :=
  table.transit key (fun row => row.kind = .setLeverage ∧ row.status = .outcomeUnknown)
    (fun row => row.settled .reconciledAccepted leverageVerifiedAtMs) (fun _ => rfl)
    "unknown leverage command changed before confirmation reconciliation"

def reconcileUnknownAbsent (observedAtMs : ℤ) : Except Raised CommandTable :=
  table.transit key (fun row => row.status = .outcomeUnknown)
    (fun row => row.settled .reconciledAbsent observedAtMs) (fun _ => rfl)
    "unknown command changed before absence reconciliation"

/-- The command cancels the order. -/
def Cancels (exchangeOrderId : String) (command : ExchangeCommand) : Prop :=
  match command.payload with
  | .cancel payload => payload.exchangeOrderId.text = exchangeOrderId
  | _ => False

instance (exchangeOrderId : String) (command : ExchangeCommand) :
    Decidable (Cancels exchangeOrderId command) := by
  delta Cancels
  cases command.payload <;> exact inferInstance

/-- Unlike its siblings this update names the order, not the command. -/
def markCancelReconciledAbsent (exchangeOrderId : String) (observedAtMs : ℤ) :
    Except Raised CommandTable :=
  table.update (fun row => row.kind = .cancelOrder ∧ row.status = .outcomeUnknown ∧
      Cancels exchangeOrderId row.command)
    (fun row => row.settled .reconciledAbsent observedAtMs) (fun _ => rfl)
    (.aggregateVersionConflict
      "unknown cancel command was not available for absence reconciliation")

end CommandTable

end TradingKernel
