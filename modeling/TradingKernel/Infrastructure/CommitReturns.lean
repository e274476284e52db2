/-
**When a commit returns.**

`commitReduction` carries out its effects in order, and each of them can raise: a payload or a command
that its validator refuses, a generation that may not follow, a key that is taken, an incident that is
not open, a cancel that is not there to be marked. `Preparable` is what one request needs of the kernel
it is carried out on, and `Committable` what a list of effects needs: at most one request, which can be
prepared, at most one cancel found absent, which is marked, and every incident it resolves open by then
(`incidentsAfter`). A committable list is carried out (`materialiseAll_returns`).
-/

import TradingKernel.Infrastructure.Materialised

namespace TradingKernel

open Text Guard CanonicalJson

/-! ### Validators that accept -/

section Validators

variable {aggregate : TradeAggregate} {terms : OrderTerms} {kind : ExchangeCommandKind}
  {quantity price : ℚ}

/-- The terms of an order about an open exposure are valid: they carry no leverage evidence. -/
structure OrderTerms.Sound (terms : OrderTerms) : Prop where
  quantity : 0 < terms.quantity
  prices : ∀ price ∈ terms.limitPrice.toList ++ terms.stopPrice.toList, 0 < price
  limit : terms.checkLimit = .ok ()
  stop : terms.checkStop = .ok ()
  replacement : terms.checkReplacement = .ok ()
  leverage : terms.checkLeverage = .ok ()

theorem OrderTerms.Sound.check (sound : terms.Sound) : terms.check = .ok () := by
  refine refuse_bind_eq_ok.mpr ⟨not_le.mpr sound.quantity, refuse_bind_eq_ok.mpr ⟨?_, ?_⟩⟩
  · rintro ⟨price, member, low⟩
    exact absurd (sound.prices price member) (not_lt.mpr low)
  · exact bind_eq_ok.mpr ⟨(), sound.limit, bind_eq_ok.mpr ⟨(), sound.stop,
      bind_eq_ok.mpr ⟨(), sound.replacement, sound.leverage⟩⟩⟩

theorem stopTerms_sound (exposed : 0 < quantity) (priced : 0 < price) :
    (stopTerms aggregate quantity price).Sound where
  quantity := exposed
  prices := by
    rintro _ (_ | ⟨_, ⟨⟩⟩)
    exact priced
  limit := rfl
  stop := rfl
  replacement := rfl
  leverage := rfl

theorem takeProfitTerms_sound (exposed : 0 < quantity) (priced : 0 < price) :
    (takeProfitTerms aggregate quantity price).Sound where
  quantity := exposed
  prices := by
    rintro _ (_ | ⟨_, ⟨⟩⟩)
    exact priced
  limit := rfl
  stop := rfl
  replacement := rfl
  leverage := rfl

theorem marketTerms_sound (exposed : 0 < quantity) : (marketTerms aggregate quantity).Sound where
  quantity := exposed
  prices := by
    rintro _ ⟨⟩
  limit := rfl
  stop := rfl
  replacement := rfl
  leverage := rfl

theorem replacementTerms_sound {replaces : String} {watermarkMs : ℤ} (exposed : 0 < quantity)
    (priced : 0 < price) (named : ¬ Blank replaces) (later : 0 < watermarkMs) :
    (replacementTerms aggregate quantity price replaces watermarkMs).Sound where
  quantity := exposed
  prices := by
    rintro _ (_ | ⟨_, ⟨⟩⟩)
    exact priced
  limit := rfl
  stop := rfl
  replacement := by
    have metadata : (replacementTerms aggregate quantity price replaces watermarkMs).hasReplacementMetadata :=
      .inl (Option.some_ne_none replaces)
    unfold OrderTerms.checkReplacement
    rw [if_pos metadata]
    exact refuse_bind_eq_ok.mpr ⟨named, refuse_eq_ok.mpr (not_le.mpr later)⟩
  leverage := rfl

/-- The entry order of a MARKET Ticket, with a verified leverage. -/
theorem entryTerms_sound {ticket : TradeTicket} {digest : String}
    (market : ticket.entryOrderType = .market) (shape : IsSha256Digest digest) :
    (entryTerms ticket digest).Sound := by
  have unpriced : ticket.entryLimitPrice = none := by
    have shaped := ticket.shapeValid.2.2.1
    unfold TicketTerms.OrderShapeValid at shaped
    rw [market] at shaped
    exact shaped
  have isMarket : (entryTerms ticket digest).orderType = .market := if_pos market
  have noLimit : (entryTerms ticket digest).limitPrice = none := unpriced
  refine ⟨ticket.quantity_pos, ?_, ?_, ?_, rfl, ?_⟩
  · rw [noLimit]
    rintro _ ⟨⟩
  · unfold OrderTerms.checkLimit
    rw [isMarket, noLimit]
    rfl
  · unfold OrderTerms.checkStop
    rw [isMarket]
    rfl
  · have leverage : 0 < ticket.selectedLeverage := ticket.fieldsValid.2.2.2.2.2.2.2.2.1
    unfold OrderTerms.checkLeverage
    rw [if_pos (.inl (Option.some_ne_none _))]
    exact refuse_bind_eq_ok.mpr ⟨not_le.mpr leverage, refuse_eq_ok.mpr (not_not.mpr shape)⟩

/-- A LIMIT entry order gets no time in force, and is refused. -/
theorem entryTerms_refused {ticket : TradeTicket} {digest : String}
    (limit : ticket.entryOrderType = .limit) : (entryTerms ticket digest).check ≠ .ok () := by
  intro valid
  obtain ⟨-, valid⟩ := refuse_bind_eq_ok.mp valid
  obtain ⟨-, valid⟩ := refuse_bind_eq_ok.mp valid
  obtain ⟨_, limited, -⟩ := bind_eq_ok.mp valid
  have isLimit : (entryTerms ticket digest).orderType = .limit := by
    show (if ticket.entryOrderType = .market then OrderType.market else .limit) = .limit
    rw [limit]
    rfl
  unfold OrderTerms.checkLimit at limited
  rw [if_pos isLimit] at limited
  obtain ⟨-, timed⟩ := refuse_bind_eq_ok.mp limited
  exact refuse_eq_ok.mp timed rfl

end Validators

/-! ### Builders that return -/

section Builders

variable {identity : TicketIdentity} {aggregate : TradeAggregate} {key : CommandKey}
  {terms : OrderTerms} {payload : CommandPayload} {createdAtMs deadlineAtMs occurredAtMs : ℤ}

/-- The terms of a new command. -/
@[simps] def newTerms (identity : TicketIdentity) (key : CommandKey) (payload : CommandPayload)
    (createdAtMs deadlineAtMs : ℤ) : CommandTerms where
  commandId := buildCommandId identity.ticketId key.kind key.generation
  ticketIdentity := identity
  kind := key.kind
  generation := key.generation
  idempotencyKey := buildCommandId identity.ticketId key.kind key.generation
  venueClientOrderId := if key.kind = .setLeverage then none else
    some (buildVenueClientOrderId (buildCommandId identity.ticketId key.kind key.generation))
  payload := payload
  createdAtMs := createdAtMs
  deadlineAtMs := deadlineAtMs

/-- A command whose payload is of its kind's shape, created before its deadline. -/
theorem newCommand_returns (identity : TicketIdentity) (key : CommandKey)
    (payload : CommandPayload) (first : 0 < key.generation) (timed : 0 < createdAtMs)
    (early : createdAtMs < deadlineAtMs)
    (unrepeated : key.kind = .setLeverage ∨ key.kind = .entry → key.generation = 1)
    (shaped : (newTerms identity key payload createdAtMs deadlineAtMs).checkPayload = .ok ()) :
    ∃ command, newCommand identity key payload createdAtMs deadlineAtMs = .ok command ∧
      CommandRow.key ⟨command, none, none, none⟩ = key := by
  have valid : (newTerms identity key payload createdAtMs deadlineAtMs).check = .ok () := by
    refine refuse_bind_eq_ok.mpr ⟨?_, refuse_bind_eq_ok.mpr ⟨?_, refuse_bind_eq_ok.mpr
      ⟨not_le.mpr early, refuse_bind_eq_ok.mpr ⟨?_, shaped⟩⟩⟩⟩
    · show ¬ (key.generation ≤ 0 ∨ createdAtMs ≤ 0 ∨ deadlineAtMs ≤ 0)
      omega
    · rintro ⟨once, again⟩
      exact again (unrepeated once)
    · show ¬ ∃ client ∈ Option.toList (if key.kind = .setLeverage then none else
        some (buildVenueClientOrderId (buildCommandId identity.ticketId key.kind key.generation))),
          36 < client.text.length
      split_ifs
      · simp
      · simp [buildVenueClientOrderId_length]
  exact ⟨⟨_, valid, .prepared⟩, validated_eq_ok.mpr (CommandTerms.prepare_eq_ok.mpr ⟨rfl, rfl⟩),
    rfl⟩

/-- An order about an open exposure. -/
theorem orderCommand_returns (aggregate : TradeAggregate) (key : CommandKey)
    (first : 0 < key.generation) (timed : 0 < occurredAtMs)
    (order : key.kind ∉ [.setLeverage, .entry, .cancelOrder]) (sound : terms.Sound)
    (plain : terms.requiredConfiguredLeverage = none ∧ terms.leverageVerificationDigest = none)
    (metadata : key.kind = .replaceProtection ↔ terms.hasReplacementMetadata) :
    ∃ command, orderCommand aggregate key terms occurredAtMs = .ok command ∧
      CommandRow.key ⟨command, none, none, none⟩ = key := by
  simp only [List.mem_cons, List.not_mem_nil, or_false, not_or] at order
  obtain ⟨notLeverage, notEntry, notCancel⟩ := order
  let payload : OrderCommandPayload := ⟨terms, sound.check⟩
  have shaped : (newTerms aggregate.identity key (.order payload) occurredAtMs
      (occurredAtMs + commandWindowMs)).checkPayload = .ok () := by
    unfold CommandTerms.checkPayload
    rw [newTerms_kind, if_neg notLeverage]
    refine refuse_bind_eq_ok.mpr ⟨?_, ?_⟩
    · rw [newTerms_venueClientOrderId, if_neg notLeverage]
      exact Option.some_ne_none _
    · rw [if_neg notCancel]
      show CommandTerms.checkOrder key.kind payload = .ok ()
      unfold CommandTerms.checkOrder
      rw [if_neg notEntry]
      refine refuse_bind_eq_ok.mpr ⟨?_, ?_⟩
      · rintro (required | digest)
        · exact required plain.1
        · exact digest plain.2
      · split_ifs with replaces
        · exact refuse_eq_ok.mpr (not_not.mpr (metadata.mp replaces))
        · exact refuse_eq_ok.mpr fun has => replaces (metadata.mpr has)
  obtain ⟨command, built, isKey⟩ := newCommand_returns aggregate.identity key (.order payload) first
    timed (show occurredAtMs < occurredAtMs + commandWindowMs by unfold commandWindowMs; omega)
    (fun once => absurd once (by simp [notLeverage, notEntry])) shaped
  refine ⟨command, bind_eq_ok.mpr ⟨payload, ?_, built⟩, isKey⟩
  exact validated_eq_ok.mpr (OrderTerms.validate_eq_ok.mpr rfl)

/-- The cancel of a real order id. -/
theorem cancelCommand_returns (aggregate : TradeAggregate) (generation : ℕ) {id : String}
    (orderNamespace : OrderNamespace) (purpose : CancelPurpose) (vacuumId : Option String)
    (first : 0 < generation)
    (timed : 0 < occurredAtMs) (named : ¬ Blank id)
    (lineage : purpose = .selectionVacuumEntry ↔
      (vacuumId.bind NonBlankText.ofText?).isSome = true) :
    ∃ command, cancelCommand aggregate generation id orderNamespace purpose vacuumId occurredAtMs =
        .ok command ∧ CommandRow.key ⟨command, none, none, none⟩ = ⟨.cancelOrder, generation⟩ := by
  let target : NonBlankText := ⟨strip id, strip_strip id, named⟩
  have stripped : NonBlankText.ofText? id = some target := dif_neg named
  let terms : CancelTerms :=
    ⟨target, orderNamespace, purpose, vacuumId.bind NonBlankText.ofText?⟩
  have valid : terms.check = .ok () := refuse_eq_ok.mpr (not_not.mpr lineage)
  obtain ⟨command, built, isKey⟩ := newCommand_returns aggregate.identity
    ⟨.cancelOrder, generation⟩ (.cancel ⟨terms, valid⟩) first timed
    (show occurredAtMs < occurredAtMs + commandWindowMs by unfold commandWindowMs; omega)
    (fun once => absurd once (by simp)) rfl
  refine ⟨command, demand_bind_eq_ok.mpr ⟨target, stripped, bind_eq_ok.mpr
    ⟨⟨terms, valid⟩, ?_, built⟩⟩, isKey⟩
  exact validated_eq_ok.mpr (CancelTerms.validate_eq_ok.mpr rfl)

/-- The entry order of a MARKET Ticket, before it expires. -/
theorem entryCommand_returns {ticket : TradeTicket} {digest : String} (timed : 0 < occurredAtMs)
    (market : ticket.entryOrderType = .market) (early : occurredAtMs < ticket.expiresAtMs)
    (shape : IsSha256Digest digest) :
    ∃ command, entryCommand ticket digest occurredAtMs = .ok command ∧
      CommandRow.key ⟨command, none, none, none⟩ = ⟨.entry, 1⟩ := by
  let payload : OrderCommandPayload :=
    ⟨entryTerms ticket digest, (entryTerms_sound market shape).check⟩
  obtain ⟨command, built, isKey⟩ := newCommand_returns ticket.identity ⟨.entry, 1⟩
    (.order payload) one_pos timed early (fun _ => rfl) rfl
  refine ⟨command, bind_eq_ok.mpr ⟨payload, ?_, built⟩, isKey⟩
  exact validated_eq_ok.mpr (OrderTerms.validate_eq_ok.mpr rfl)

theorem setLeverageCommand_returns {ticket : TradeTicket} (claim : CapacityClaim)
    (timed : 0 < occurredAtMs) (early : occurredAtMs < ticket.expiresAtMs) :
    ∃ command, setLeverageCommand ticket claim occurredAtMs = .ok command ∧
      CommandRow.key ⟨command, none, none, none⟩ = ⟨.setLeverage, 1⟩ := by
  have leverage : 0 < ticket.selectedLeverage := ticket.fieldsValid.2.2.2.2.2.2.2.2.1
  have policy : 0 < ticket.ownerPolicyVersion := ticket.fieldsValid.2.2.2.1
  let terms : SetLeverageTerms := ⟨ticket.selectedLeverage, ticket.ownerPolicyVersion,
    claim.entryAdmissionSnapshotDigest, initialLeverageFactDigest claim⟩
  have valid : terms.check = .ok () := by
    refine refuse_bind_eq_ok.mpr ⟨?_, refuse_eq_ok.mpr (not_not.mpr
      ⟨claim.digestShape, isSha256Digest_canonicalDigest _⟩)⟩
    show ¬ (ticket.selectedLeverage ≤ 0 ∨ ticket.ownerPolicyVersion ≤ 0)
    omega
  obtain ⟨command, built, isKey⟩ := newCommand_returns ticket.identity ⟨.setLeverage, 1⟩
    (.setLeverage ⟨terms, valid⟩) one_pos timed early (fun _ => rfl) rfl
  refine ⟨command, bind_eq_ok.mpr ⟨⟨terms, valid⟩, ?_, built⟩, isKey⟩
  exact validated_eq_ok.mpr (SetLeverageTerms.validate_eq_ok.mpr rfl)

end Builders

/-! ### Generations that may follow -/

section Generations

variable {commands : CommandTable} {kind : ExchangeCommandKind} {row : CommandRow}

/-- The statuses that a command of the kind may follow. -/
def retryStatuses : ExchangeCommandKind → List ExchangeCommandStatus
  | .setLeverage | .entry => []
  | .replaceProtection => [.rejected, .reconciledAbsent, .accepted, .reconciledAccepted]
  | _ => [.rejected, .reconciledAbsent]

/-- Every stored command of the kind may be followed. -/
def CommandTable.Follows (commands : CommandTable) (kind : ExchangeCommandKind) : Prop :=
  ∀ row ∈ commands, row.kind = kind → row.status ∈ retryStatuses kind

/-- Every stored cancel of the order may be followed. -/
def CommandTable.Uncancelled (commands : CommandTable) (exchangeOrderId : String) : Prop :=
  ∀ row ∈ commands, CommandTable.Cancels exchangeOrderId row.command →
    row.status ∈ retryStatuses .cancelOrder

theorem le_foldr_max {values : List ℕ} {value : ℕ} (member : value ∈ values) :
    value ≤ values.foldr max 0 := by
  induction values with
  | nil => simp at member
  | cons first rest ih =>
    rcases List.mem_cons.mp member with rfl | later
    · exact Nat.le_max_left _ _
    · exact (ih later).trans (Nat.le_max_right _ _)

theorem foldr_max_mem {values : List ℕ} (some_ : values.foldr max 0 ≠ 0) :
    values.foldr max 0 ∈ values := by
  induction values with
  | nil => simp at some_
  | cons first rest ih =>
    rw [List.foldr_cons] at some_ ⊢
    rcases Nat.le_total (rest.foldr max 0) first with low | high
    · rw [Nat.max_eq_left low]
      exact List.mem_cons_self
    · rw [Nat.max_eq_right high] at some_ ⊢
      exact List.mem_cons_of_mem _ (ih some_)

theorem mem_generations {generation : ℕ} : generation ∈ commands.generations kind ↔
    ∃ row ∈ commands, row.kind = kind ∧ row.command.generation = generation := by
  simp only [CommandTable.generations, List.mem_map, List.mem_filter, decide_eq_true_eq, and_assoc,
    Table.mem_rows]

/-- The next generation is taken by nobody. -/
theorem fresh_nextGeneration (member : row ∈ commands) :
    row.key ≠ ⟨kind, commands.nextGeneration kind⟩ := by
  intro same
  obtain ⟨isKind, isNext⟩ := CommandKey.mk.inj same
  have bounded := le_foldr_max (mem_generations.mpr ⟨row, member, isKind, isNext⟩)
  unfold CommandTable.nextGeneration at bounded
  omega

/-- From the second command of a kind on, there is a latest one. -/
theorem latest_of_nextGeneration (later : commands.nextGeneration kind ≠ 1) :
    ∃ prior ∈ commands, commands.latest kind = some prior ∧ prior.kind = kind := by
  have some_ : (commands.generations kind).foldr max 0 ≠ 0 := by
    unfold CommandTable.nextGeneration at later
    omega
  obtain ⟨row, member, isKind, isLatest⟩ := mem_generations.mp (foldr_max_mem some_)
  cases found : commands.latest kind with
  | none =>
    have absent := List.find?_eq_none.mp found row member
    simp [isKind, isLatest] at absent
  | some prior =>
    have struck := List.find?_some found
    simp only [decide_eq_true_eq] at struck
    exact ⟨prior, List.mem_of_find?_eq_some found, rfl, struck.1⟩

theorem requireGenerationAllowed_eq_ok {generation : ℕ} (later : 1 < generation)
    (follows : row.status ∈ retryStatuses row.kind) :
    requireGenerationAllowed row generation = .ok () := by
  refine mapError_eq_ok.mpr (refuse_bind_eq_ok.mpr ⟨not_le.mpr later, ?_⟩)
  generalize row.kind = kind at follows ⊢
  generalize row.status = status at follows ⊢
  cases kind <;> simp only [retryStatuses, List.mem_cons, List.not_mem_nil, or_false] at follows
  all_goals
    rcases follows with rfl | rfl | rfl | rfl <;> rfl

/-- **A kind whose commands may all be followed is followed.** -/
theorem nextRetryableGeneration_returns (follows : commands.Follows kind) :
    nextRetryableGeneration commands kind = .ok (commands.nextGeneration kind) := by
  unfold nextRetryableGeneration
  dsimp only
  split_ifs with first
  · rfl
  · obtain ⟨prior, member, found, isKind⟩ := latest_of_nextGeneration first
    have later : 1 < commands.nextGeneration kind := by
      unfold CommandTable.nextGeneration at first ⊢
      omega
    refine demand_bind_eq_ok.mpr ⟨prior, found, bind_eq_ok.mpr ⟨(), ?_, rfl⟩⟩
    refine requireGenerationAllowed_eq_ok later ?_
    rw [isKind]
    exact follows prior member isKind

/-- **An order whose cancels may all be followed is cancelled again.** -/
theorem nextCancelGeneration_returns {exchangeOrderId : String}
    (uncancelled : commands.Uncancelled exchangeOrderId) :
    nextCancelGeneration commands exchangeOrderId = .ok (commands.nextGeneration .cancelOrder) := by
  unfold nextCancelGeneration
  dsimp only
  split_ifs with first
  · rfl
  · obtain ⟨prior, member, found, isKind⟩ := latest_of_nextGeneration first
    have later : 1 < commands.nextGeneration .cancelOrder := by
      unfold CommandTable.nextGeneration at first ⊢
      omega
    refine demand_bind_eq_ok.mpr ⟨prior, found, ?_⟩
    by_cases again : CommandTable.Cancels exchangeOrderId prior.command
    · rw [if_pos again]
      refine bind_eq_ok.mpr ⟨(), requireGenerationAllowed_eq_ok later ?_, rfl⟩
      rw [isKind]
      exact uncancelled prior member again
    · rw [if_neg again]
      rfl

end Generations

/-! ### Requests that are prepared -/

/-- What a request needs of the kernel it is carried out on. -/
def Preparable (kernel : Kernel) (occurredAtMs : ℤ) : KernelEffect → Prop
  | .prepareEntryCommand ticket digest =>
      (∃ claim, initialCommandClaim kernel.claim ticket = .ok claim) ∧
        ticket.entryOrderType = .market ∧ occurredAtMs < ticket.expiresAtMs ∧
        (∀ verified ∈ digest, IsSha256Digest verified) ∧ ∀ row ∈ kernel.commands, row.kind ≠ .entry
  | .prepareSetLeverageCommand ticket =>
      (∃ claim, initialCommandClaim kernel.claim ticket = .ok claim) ∧
        occurredAtMs < ticket.expiresAtMs ∧ ∀ row ∈ kernel.commands, row.kind ≠ .setLeverage
  | .prepareInitialStopCommand _ quantity stopPrice =>
      0 < quantity ∧ 0 < stopPrice ∧ ∀ row ∈ kernel.commands, row.kind ≠ .initialStop
  | .prepareTakeProfitCommand _ quantity limitPrice =>
      0 < quantity ∧ 0 < limitPrice ∧ kernel.commands.Follows .takeProfit
  | .prepareProtectionReplacementCommand _ quantity stopPrice replaces watermarkMs =>
      0 < quantity ∧ 0 < stopPrice ∧ ¬ Blank replaces ∧ 0 < watermarkMs ∧
        kernel.commands.Follows .replaceProtection
  | .prepareExitCommand _ quantity _ => 0 < quantity ∧ kernel.commands.Follows .exit
  | .cancelEntryRemainder _ =>
      ∃ id, kernel.aggregate.entryExchangeOrderId = some id ∧ ¬ Blank id
  | .cancelVacuumEntryOrder _ id vacuumId =>
      kernel.aggregate.entryExchangeOrderId = some id ∧ ¬ Blank id ∧ ¬ Blank vacuumId
  | .prepareControlledFlattenCommand _ quantity =>
      0 < quantity ∧ ∀ row ∈ kernel.commands, row.kind ≠ .controlledFlatten
  | .cancelProtectionOrders _ id _ purpose =>
      ¬ Blank id ∧ purpose ≠ .selectionVacuumEntry ∧ kernel.commands.Uncancelled id
  | _ => True

section Prepare

variable {kernel : Kernel} {command : ExchangeCommand} {key : CommandKey} {occurredAtMs : ℤ}
  {kind : ExchangeCommandKind} {terms : OrderTerms}

/-- The kernel after a request: one more command, and the rest as it was. -/
def Extended (kernel next : Kernel) : Prop :=
  next.aggregate = kernel.aggregate ∧ next.claim = kernel.claim ∧
    next.openIncidents = kernel.openIncidents ∧
    ∃ row, row.status = .prepared ∧ next.commands.rows = kernel.commands.rows ++ [row]

theorem prepare_returns (isKey : CommandRow.key ⟨command, none, none, none⟩ = key)
    (prepared : command.status = .prepared) (fresh : ∀ row ∈ kernel.commands, row.key ≠ key) :
    ∃ next, kernel.prepare command = .ok next ∧ Extended kernel next := by
  obtain ⟨commands, inserted⟩ : ∃ commands, kernel.commands.add command = .ok commands := by
    unfold CommandTable.add Table.insert
    rw [dif_neg]
    · exact ⟨_, rfl⟩
    · intro taken
      obtain ⟨row, member, same⟩ := List.mem_map.mp taken
      exact fresh row member (same.trans isKey)
  refine ⟨{ kernel with commands := commands }, bind_eq_ok.mpr ⟨commands, inserted, rfl⟩, rfl, rfl,
    rfl, _, ?_, (Table.insert_eq_ok.mp inserted).2⟩
  exact prepared

theorem prepareOnce_returns (timed : 0 < occurredAtMs)
    (order : kind ∉ [.setLeverage, .entry, .cancelOrder]) (sound : terms.Sound)
    (plain : terms.requiredConfiguredLeverage = none ∧ terms.leverageVerificationDigest = none)
    (metadata : kind = .replaceProtection ↔ terms.hasReplacementMetadata)
    (none_ : ∀ row ∈ kernel.commands, row.kind ≠ kind) :
    ∃ next, kernel.prepareOnce kind terms occurredAtMs = .ok next ∧ Extended kernel next := by
  obtain ⟨command, built, isKey⟩ := orderCommand_returns kernel.aggregate ⟨kind, 1⟩ one_pos timed
    order sound plain metadata
  obtain ⟨next, prepared, extended⟩ := prepare_returns isKey (orderCommand_eq_ok built).1
    fun row member same => none_ row member (congrArg CommandKey.kind same)
  exact ⟨next, bind_eq_ok.mpr ⟨command, built, prepared⟩, extended⟩

theorem prepareRetryable_returns (timed : 0 < occurredAtMs)
    (order : kind ∉ [.setLeverage, .entry, .cancelOrder]) (sound : terms.Sound)
    (plain : terms.requiredConfiguredLeverage = none ∧ terms.leverageVerificationDigest = none)
    (metadata : kind = .replaceProtection ↔ terms.hasReplacementMetadata)
    (follows : kernel.commands.Follows kind) :
    ∃ next, kernel.prepareRetryable kind terms occurredAtMs = .ok next ∧ Extended kernel next := by
  obtain ⟨command, built, isKey⟩ := orderCommand_returns kernel.aggregate
    ⟨kind, kernel.commands.nextGeneration kind⟩ (Nat.succ_pos _) timed order sound plain metadata
  obtain ⟨next, prepared, extended⟩ := prepare_returns isKey (orderCommand_eq_ok built).1
    fun row member => fresh_nextGeneration member
  exact ⟨next, bind_eq_ok.mpr ⟨_, nextRetryableGeneration_returns follows,
    bind_eq_ok.mpr ⟨command, built, prepared⟩⟩, extended⟩

theorem prepareEntryCancel_returns (kernel : Kernel) {id : String} (purpose : CancelPurpose)
    (vacuumId : Option String) (timed : 0 < occurredAtMs) (named : ¬ Blank id)
    (lineage : purpose = .selectionVacuumEntry ↔
      (vacuumId.bind NonBlankText.ofText?).isSome = true) :
    ∃ next, kernel.prepareEntryCancel id purpose vacuumId occurredAtMs = .ok next ∧
      Extended kernel next := by
  obtain ⟨command, built, isKey⟩ := cancelCommand_returns kernel.aggregate
    (kernel.commands.nextGeneration .cancelOrder) .regular purpose vacuumId (Nat.succ_pos _) timed
    named lineage
  obtain ⟨next, prepared, extended⟩ := prepare_returns isKey (cancelCommand_eq_ok built).1
    fun row member => fresh_nextGeneration member
  exact ⟨next, bind_eq_ok.mpr ⟨command, built, prepared⟩, extended⟩

/-- **A preparable request is carried out.** -/
theorem materialise_request {effect : KernelEffect} (asks : effect.asksCommand = true)
    (preparable : Preparable kernel occurredAtMs effect) (timed : 0 < occurredAtMs) :
    ∃ next, kernel.materialise occurredAtMs effect = .ok next ∧ Extended kernel next := by
  cases effect with
  | prepareEntryCommand ticket digest =>
    obtain ⟨⟨claim, claimed⟩, market, early, shapes, none_⟩ := preparable
    have shape : IsSha256Digest ((digest.filter fun digest => digest ≠ "").getD
        (initialLeverageFactDigest claim)) := by
      cases digest with
      | none => exact isSha256Digest_canonicalDigest _
      | some verified =>
        rw [Option.filter_some]
        split_ifs
        · exact shapes verified rfl
        · exact isSha256Digest_canonicalDigest _
    obtain ⟨command, built, isKey⟩ := entryCommand_returns timed market early shape
    obtain ⟨next, prepared, extended⟩ := prepare_returns isKey (entryCommand_eq_ok built).1
      fun row member same => none_ row member (congrArg CommandKey.kind same)
    exact ⟨next, bind_eq_ok.mpr ⟨claim, claimed, bind_eq_ok.mpr ⟨command, built, prepared⟩⟩,
      extended⟩
  | prepareSetLeverageCommand ticket =>
    obtain ⟨⟨claim, claimed⟩, early, none_⟩ := preparable
    obtain ⟨command, built, isKey⟩ := setLeverageCommand_returns claim timed early
    obtain ⟨next, prepared, extended⟩ := prepare_returns isKey (setLeverageCommand_eq_ok built).1
      fun row member same => none_ row member (congrArg CommandKey.kind same)
    exact ⟨next, bind_eq_ok.mpr ⟨claim, claimed, bind_eq_ok.mpr ⟨command, built, prepared⟩⟩,
      extended⟩
  | prepareInitialStopCommand ticketId quantity stopPrice =>
    obtain ⟨exposed, priced, none_⟩ := preparable
    exact prepareOnce_returns timed (by decide) (stopTerms_sound exposed priced) ⟨rfl, rfl⟩
      (by simp [OrderTerms.hasReplacementMetadata, stopTerms]) none_
  | prepareTakeProfitCommand ticketId quantity limitPrice =>
    obtain ⟨exposed, priced, follows⟩ := preparable
    exact prepareRetryable_returns timed (by decide) (takeProfitTerms_sound exposed priced)
      ⟨rfl, rfl⟩ (by simp [OrderTerms.hasReplacementMetadata, takeProfitTerms]) follows
  | prepareProtectionReplacementCommand ticketId quantity stopPrice replaces watermarkMs =>
    obtain ⟨exposed, priced, named, later, follows⟩ := preparable
    exact prepareRetryable_returns timed (by decide)
      (replacementTerms_sound exposed priced named later) ⟨rfl, rfl⟩
      (by simp [OrderTerms.hasReplacementMetadata, replacementTerms]) follows
  | prepareExitCommand ticketId quantity reason =>
    obtain ⟨exposed, follows⟩ := preparable
    exact prepareRetryable_returns timed (by decide) (marketTerms_sound exposed) ⟨rfl, rfl⟩
      (by simp [OrderTerms.hasReplacementMetadata, marketTerms]) follows
  | cancelEntryRemainder ticketId =>
    obtain ⟨id, held, named⟩ := preparable
    obtain ⟨next, prepared, extended⟩ := prepareEntryCancel_returns kernel .entryRemainder none
      timed named (by simp)
    exact ⟨next, demand_bind_eq_ok.mpr ⟨id, held, prepared⟩, extended⟩
  | cancelVacuumEntryOrder ticketId id vacuumId =>
    obtain ⟨held, named, lineage⟩ := preparable
    have carried : NonBlankText.ofText? vacuumId =
        some ⟨strip vacuumId, strip_strip vacuumId, lineage⟩ := dif_neg lineage
    obtain ⟨next, prepared, extended⟩ := prepareEntryCancel_returns kernel .selectionVacuumEntry
      (some vacuumId) timed named (by simp [carried])
    exact ⟨next, refuse_bind_eq_ok.mpr ⟨not_not.mpr held, prepared⟩, extended⟩
  | prepareControlledFlattenCommand ticketId quantity =>
    obtain ⟨exposed, none_⟩ := preparable
    exact prepareOnce_returns timed (by decide) (marketTerms_sound exposed) ⟨rfl, rfl⟩
      (by simp [OrderTerms.hasReplacementMetadata, marketTerms]) none_
  | cancelProtectionOrders ticketId id orderNamespace purpose =>
    obtain ⟨named, other, uncancelled⟩ := preparable
    obtain ⟨command, built, isKey⟩ := cancelCommand_returns kernel.aggregate
      (kernel.commands.nextGeneration .cancelOrder) orderNamespace purpose none (Nat.succ_pos _)
      timed named (by simp [other])
    obtain ⟨next, prepared, extended⟩ := prepare_returns isKey (cancelCommand_eq_ok built).1
      fun row member => fresh_nextGeneration member
    exact ⟨next, bind_eq_ok.mpr ⟨_, nextCancelGeneration_returns uncancelled,
      bind_eq_ok.mpr ⟨command, built, prepared⟩⟩, extended⟩
  | _ => simp [KernelEffect.asksCommand] at asks

end Prepare

/-! ### Incidents -/

/-- The open incidents after the effects, unless one that they resolve is not open. -/
def incidentsAfter : List String → List KernelEffect → Option (List String)
  | incidents, [] => some incidents
  | incidents, .openIncident _ kind :: effects => incidentsAfter (kind :: incidents) effects
  | incidents, .resolveIncident _ kind :: effects =>
      if kind ∈ incidents then incidentsAfter (incidents.erase kind) effects else none
  | _, .resolveTicketIncidentsAtClosure _ :: effects => incidentsAfter [] effects
  | incidents, _ :: effects => incidentsAfter incidents effects

section Incidents

variable {kernel next : Kernel} {effect : KernelEffect} {effects : List KernelEffect}
  {occurredAtMs : ℤ} {incidents : List String}

/-- An effect that is about a command leaves the incidents alone. -/
theorem incidentsAfter_request (asks : effect.asksCommand = true) :
    incidentsAfter incidents (effect :: effects) = incidentsAfter incidents effects := by
  cases effect with
  | openIncident | resolveIncident | resolveTicketIncidentsAtClosure =>
    simp [KernelEffect.asksCommand] at asks
  | _ => rfl

theorem openIncidents_of_prepare {command : ExchangeCommand}
    (returned : kernel.prepare command = .ok next) : next.openIncidents = kernel.openIncidents := by
  obtain ⟨commands, -, returned⟩ := bind_eq_ok.mp returned
  obtain rfl := Except.ok.inj returned
  rfl

theorem openIncidents_of_prepareOnce {kind : ExchangeCommandKind} {terms : OrderTerms}
    (returned : kernel.prepareOnce kind terms occurredAtMs = .ok next) :
    next.openIncidents = kernel.openIncidents := by
  obtain ⟨command, -, returned⟩ := bind_eq_ok.mp returned
  exact openIncidents_of_prepare returned

theorem openIncidents_of_prepareRetryable {kind : ExchangeCommandKind} {terms : OrderTerms}
    (returned : kernel.prepareRetryable kind terms occurredAtMs = .ok next) :
    next.openIncidents = kernel.openIncidents := by
  obtain ⟨generation, -, returned⟩ := bind_eq_ok.mp returned
  obtain ⟨command, -, returned⟩ := bind_eq_ok.mp returned
  exact openIncidents_of_prepare returned

theorem openIncidents_of_prepareEntryCancel {id : String} {purpose : CancelPurpose}
    {vacuumId : Option String}
    (returned : kernel.prepareEntryCancel id purpose vacuumId occurredAtMs = .ok next) :
    next.openIncidents = kernel.openIncidents := by
  obtain ⟨command, -, returned⟩ := bind_eq_ok.mp returned
  exact openIncidents_of_prepare returned

/-- **The incidents one effect leaves.** -/
theorem incidentsAfter_of_materialise (returned : kernel.materialise occurredAtMs effect = .ok next) :
    incidentsAfter kernel.openIncidents (effect :: effects) =
      incidentsAfter next.openIncidents effects := by
  have unmoved (same : next.openIncidents = kernel.openIncidents) :
      incidentsAfter kernel.openIncidents effects = incidentsAfter next.openIncidents effects := by
    rw [same]
  cases effect with
  | prepareEntryCommand ticket digest =>
    obtain ⟨claim, -, returned⟩ := bind_eq_ok.mp returned
    obtain ⟨command, -, returned⟩ := bind_eq_ok.mp returned
    exact unmoved (openIncidents_of_prepare returned)
  | prepareSetLeverageCommand ticket =>
    obtain ⟨claim, -, returned⟩ := bind_eq_ok.mp returned
    obtain ⟨command, -, returned⟩ := bind_eq_ok.mp returned
    exact unmoved (openIncidents_of_prepare returned)
  | prepareInitialStopCommand ticketId quantity stopPrice =>
    exact unmoved (openIncidents_of_prepareOnce returned)
  | prepareTakeProfitCommand ticketId quantity limitPrice =>
    exact unmoved (openIncidents_of_prepareRetryable returned)
  | prepareProtectionReplacementCommand ticketId quantity stopPrice replaces watermarkMs =>
    exact unmoved (openIncidents_of_prepareRetryable returned)
  | prepareExitCommand ticketId quantity reason =>
    exact unmoved (openIncidents_of_prepareRetryable returned)
  | cancelEntryRemainder ticketId =>
    obtain ⟨entryOrderId, -, returned⟩ := demand_bind_eq_ok.mp returned
    exact unmoved (openIncidents_of_prepareEntryCancel returned)
  | cancelVacuumEntryOrder ticketId id vacuumId =>
    obtain ⟨-, returned⟩ := refuse_bind_eq_ok.mp returned
    exact unmoved (openIncidents_of_prepareEntryCancel returned)
  | requestControlledFlatten ticketId quantity =>
    obtain ⟨-, returned⟩ := refuse_bind_eq_ok.mp returned
    obtain rfl := Except.ok.inj returned
    rfl
  | prepareControlledFlattenCommand ticketId quantity =>
    exact unmoved (openIncidents_of_prepareOnce returned)
  | cancelProtectionOrders ticketId id orderNamespace purpose =>
    obtain ⟨generation, -, returned⟩ := bind_eq_ok.mp returned
    obtain ⟨command, -, returned⟩ := bind_eq_ok.mp returned
    exact unmoved (openIncidents_of_prepare returned)
  | markCancelCommandReconciledAbsent ticketId id =>
    obtain ⟨commands, -, returned⟩ := bind_eq_ok.mp returned
    obtain rfl := Except.ok.inj returned
    rfl
  | resolveIncident ticketId kind =>
    obtain ⟨isOpen, returned⟩ := refuse_bind_eq_ok.mp returned
    obtain rfl := Except.ok.inj returned
    exact if_pos (not_not.mp isOpen)
  | _ =>
    obtain rfl := Except.ok.inj returned
    rfl

/-- **The incidents a commit leaves.** -/
theorem incidentsAfter_of_materialiseAll
    (returned : Kernel.materialiseAll occurredAtMs kernel effects = .ok next) :
    incidentsAfter kernel.openIncidents effects = some next.openIncidents := by
  induction effects generalizing kernel with
  | nil =>
    obtain rfl := Except.ok.inj returned
    rfl
  | cons effect effects ih =>
    obtain ⟨middle, first, rest⟩ := bind_eq_ok.mp returned
    rw [incidentsAfter_of_materialise first]
    exact ih rest

end Incidents

/-! ### Commits that return -/

/-- The one cancel of unknown outcome that names the order. -/
def CommandTable.Markable (commands : CommandTable) (exchangeOrderId : String) : Prop :=
  ∃ row ∈ commands, FoundAbsent [exchangeOrderId] row ∧
    ∀ other ∈ commands, FoundAbsent [exchangeOrderId] other → other = row

/-- The effects can be carried out on the kernel. -/
structure Committable (kernel : Kernel) (occurredAtMs : ℤ) (effects : List KernelEffect) :
    Prop where
  incidents : incidentsAfter kernel.openIncidents effects ≠ none
  single : (requests effects).length ≤ 1
  prepared : ∀ effect ∈ requests effects, Preparable kernel occurredAtMs effect
  once : (absentCancels effects).length ≤ 1
  marked : ∀ id ∈ absentCancels effects, kernel.commands.Markable id
  announced : ∀ ticketId quantity, .requestControlledFlatten ticketId quantity ∈ effects →
    kernel.aggregate.status = .partialFillIncident ∧ kernel.aggregate.positionQty = quantity

section Commits

variable {kernel next : Kernel} {effect : KernelEffect} {effects : List KernelEffect}
  {occurredAtMs : ℤ} {id : String}

theorem foundAbsent_singleton {row : CommandRow} : FoundAbsent [id] row ↔
    row.kind = .cancelOrder ∧ row.status = .outcomeUnknown ∧
      CommandTable.Cancels id row.command := by
  simp [FoundAbsent]

/-- What a request needs survives a cancel that is found absent. -/
theorem Preparable.kept (preparable : Preparable kernel occurredAtMs effect)
    (aggregate : next.aggregate = kernel.aggregate) (claim : next.claim = kernel.claim)
    (rows : ∀ row ∈ next.commands, ∃ old ∈ kernel.commands,
      row = old ∨ old.kind = .cancelOrder ∧ ∃ atMs, row = old.settled .reconciledAbsent atMs) :
    Preparable next occurredAtMs effect := by
  have noKind {kind : ExchangeCommandKind} (none_ : ∀ row ∈ kernel.commands, row.kind ≠ kind) :
      ∀ row ∈ next.commands, row.kind ≠ kind := by
    intro row member
    obtain ⟨old, there, rfl | ⟨-, atMs, rfl⟩⟩ := rows row member
    · exact none_ _ there
    · exact none_ old there
  have follows {kind : ExchangeCommandKind} (follows : kernel.commands.Follows kind) :
      next.commands.Follows kind := by
    intro row member isKind
    obtain ⟨old, there, rfl | ⟨cancels, atMs, rfl⟩⟩ := rows row member
    · exact follows _ there isKind
    · have isCancel : kind = .cancelOrder := isKind.symm.trans cancels
      rw [CommandRow.settled_status, isCancel]
      decide
  unfold Preparable at preparable ⊢
  rw [aggregate, claim]
  cases effect with
  | prepareEntryCommand ticket digest =>
    obtain ⟨claimed, market, early, shapes, none_⟩ := preparable
    exact ⟨claimed, market, early, shapes, noKind none_⟩
  | prepareSetLeverageCommand ticket =>
    obtain ⟨claimed, early, none_⟩ := preparable
    exact ⟨claimed, early, noKind none_⟩
  | prepareInitialStopCommand ticketId quantity stopPrice =>
    obtain ⟨exposed, priced, none_⟩ := preparable
    exact ⟨exposed, priced, noKind none_⟩
  | prepareTakeProfitCommand ticketId quantity limitPrice =>
    obtain ⟨exposed, priced, allowed⟩ := preparable
    exact ⟨exposed, priced, follows allowed⟩
  | prepareProtectionReplacementCommand ticketId quantity stopPrice replaces watermarkMs =>
    obtain ⟨exposed, priced, named, later, allowed⟩ := preparable
    exact ⟨exposed, priced, named, later, follows allowed⟩
  | prepareExitCommand ticketId quantity reason =>
    obtain ⟨exposed, allowed⟩ := preparable
    exact ⟨exposed, follows allowed⟩
  | prepareControlledFlattenCommand ticketId quantity =>
    obtain ⟨exposed, none_⟩ := preparable
    exact ⟨exposed, noKind none_⟩
  | cancelProtectionOrders ticketId id orderNamespace purpose =>
    obtain ⟨named, other, uncancelled⟩ := preparable
    refine ⟨named, other, fun row member cancels => ?_⟩
    obtain ⟨old, there, rfl | ⟨-, atMs, rfl⟩⟩ := rows row member
    · exact uncancelled _ there cancels
    · rw [CommandRow.settled_status]
      decide
  | _ => exact preparable

/-- A cancel that is there is marked. -/
theorem marks_of_markable (ticketId : String) (markable : kernel.commands.Markable id) :
    ∃ next, kernel.materialise occurredAtMs (.markCancelCommandReconciledAbsent ticketId id) =
      .ok next ∧ next.aggregate = kernel.aggregate ∧ next.claim = kernel.claim ∧
        ∀ row ∈ next.commands, ∃ old ∈ kernel.commands,
          row = old ∨ old.kind = .cancelOrder ∧
            ∃ atMs, row = old.settled .reconciledAbsent atMs := by
  obtain ⟨row, member, absent, alone⟩ := markable
  obtain ⟨commands, updates⟩ : ∃ commands,
      kernel.commands.markCancelReconciledAbsent id occurredAtMs = .ok commands := by
    refine ⟨_, Table.update_of_alone member (foundAbsent_singleton.mp absent) fun other there hit =>
      alone other there (foundAbsent_singleton.mpr hit)⟩
  refine ⟨_, bind_eq_ok.mpr ⟨commands, updates, rfl⟩, rfl, rfl, fun other there => ?_⟩
  obtain ⟨old, here, ⟨hit, rfl⟩ | ⟨-, rfl⟩⟩ := (Table.mem_update updates).mp there
  · exact ⟨old, here, .inr ⟨hit.1, occurredAtMs, rfl⟩⟩
  · exact ⟨_, here, .inl rfl⟩

/-- A prepared request leaves a cancel that is to be marked where it is. -/
theorem markable_of_extended (extended : Extended kernel next)
    (markable : kernel.commands.Markable id) : next.commands.Markable id := by
  obtain ⟨-, -, -, added, prepared, rows⟩ := extended
  have members (row : CommandRow) : row ∈ next.commands ↔ row ∈ kernel.commands ∨ row = added := by
    rw [← Table.mem_rows, rows, List.mem_append, List.mem_singleton]
    exact Iff.rfl
  obtain ⟨row, member, absent, alone⟩ := markable
  refine ⟨row, (members row).mpr (.inl member), absent, fun other there hit => ?_⟩
  rcases (members other).mp there with old | rfl
  · exact alone other old hit
  · rw [hit.2.1] at prepared
    cases prepared

/-- What is left of a committable list. -/
theorem Committable.rest (committable : Committable kernel occurredAtMs (effect :: effects))
    (aggregate : next.aggregate = kernel.aggregate)
    (incidents : incidentsAfter kernel.openIncidents (effect :: effects) =
      incidentsAfter next.openIncidents effects)
    (prepared : ∀ later ∈ requests effects, Preparable kernel occurredAtMs later →
      Preparable next occurredAtMs later)
    (marked : ∀ id ∈ absentCancels effects, kernel.commands.Markable id →
      next.commands.Markable id) : Committable next occurredAtMs effects where
  incidents := incidents ▸ committable.incidents
  single := by
    have single := committable.single
    rw [requests_cons] at single
    simp only [List.length_append] at single
    omega
  prepared later member := by
    refine prepared later member (committable.prepared later ?_)
    rw [requests_cons]
    exact List.mem_append_right _ member
  once := by
    have once := committable.once
    rw [← List.singleton_append, absentCancels, List.filterMap_append, List.length_append] at once
    exact (Nat.le_add_left _ _).trans once
  marked id member := by
    refine marked id member (committable.marked id ?_)
    rw [← List.singleton_append, absentCancels, List.filterMap_append]
    exact List.mem_append_right _ member
  announced ticketId quantity member := by
    rw [aggregate]
    exact committable.announced ticketId quantity (List.mem_cons_of_mem _ member)

/-- **One effect of a committable list is carried out, and the rest stays committable.** -/
theorem Committable.step (committable : Committable kernel occurredAtMs (effect :: effects))
    (timed : 0 < occurredAtMs) :
    ∃ next, kernel.materialise occurredAtMs effect = .ok next ∧
      Committable next occurredAtMs effects := by
  -- an effect that changes the incidents at most
  have silent {next : Kernel} (returned : kernel.materialise occurredAtMs effect = .ok next)
      (aggregate : next.aggregate = kernel.aggregate) (claim : next.claim = kernel.claim)
      (commands : next.commands = kernel.commands) :
      ∃ next, kernel.materialise occurredAtMs effect = .ok next ∧
        Committable next occurredAtMs effects := by
    refine ⟨next, returned, committable.rest aggregate (incidentsAfter_of_materialise returned) ?_ ?_⟩
    · intro later _ preparable
      exact preparable.kept aggregate claim fun row member => ⟨row, commands ▸ member, .inl rfl⟩
    · intro id _ markable
      exact commands ▸ markable
  by_cases asks : effect.asksCommand = true
  · have asked : effect ∈ requests (effect :: effects) :=
      List.mem_filter.mpr ⟨List.mem_cons_self, asks⟩
    obtain ⟨next, returned, extended⟩ :=
      materialise_request asks (committable.prepared effect asked) timed
    have nothing : requests effects = [] := by
      have single := committable.single
      rw [requests, List.filter_cons_of_pos asks, List.length_cons] at single
      exact List.length_eq_zero_iff.mp (by unfold requests; omega)
    refine ⟨next, returned, committable.rest extended.1 (incidentsAfter_of_materialise returned) ?_
      fun id _ => markable_of_extended extended⟩
    intro later member
    rw [nothing] at member
    simp at member
  · cases effect with
    | requestControlledFlatten ticketId quantity =>
      obtain ⟨status, position⟩ := committable.announced ticketId quantity List.mem_cons_self
      refine silent (refuse_bind_eq_ok.mpr ⟨?_, rfl⟩) rfl rfl rfl
      rw [status, position]
      simp
    | markCancelCommandReconciledAbsent ticketId id =>
      have named : id ∈ absentCancels
          (.markCancelCommandReconciledAbsent ticketId id :: effects) := List.mem_cons_self
      obtain ⟨next, returned, aggregate, claim, rows⟩ :=
        marks_of_markable ticketId (committable.marked id named)
      have nothing : absentCancels effects = [] := by
        have once := committable.once
        rw [show absentCancels (.markCancelCommandReconciledAbsent ticketId id :: effects) =
          id :: absentCancels effects from rfl, List.length_cons] at once
        exact List.length_eq_zero_iff.mp (by omega)
      refine ⟨next, returned, committable.rest aggregate (incidentsAfter_of_materialise returned)
        (fun later _ preparable => preparable.kept aggregate claim rows) ?_⟩
      intro id member
      rw [nothing] at member
      simp at member
    | resolveIncident ticketId kind =>
      have isOpen : kind ∈ kernel.openIncidents := by
        by_contra shut
        exact committable.incidents (if_neg shut)
      exact silent (refuse_bind_eq_ok.mpr ⟨not_not.mpr isOpen, rfl⟩) rfl rfl rfl
    | openIncident | resolveTicketIncidentsAtClosure | releaseEntryLane
    | releaseCapitalAuthorities | releaseBudget | projectTerminalOwnerState =>
      exact silent rfl rfl rfl rfl
    | _ => simp [KernelEffect.asksCommand] at asks

/-- **A committable list is carried out.** -/
theorem materialiseAll_returns (committable : Committable kernel occurredAtMs effects)
    (timed : 0 < occurredAtMs) :
    ∃ next, Kernel.materialiseAll occurredAtMs kernel effects = .ok next := by
  induction effects generalizing kernel with
  | nil => exact ⟨kernel, rfl⟩
  | cons effect effects ih =>
    obtain ⟨middle, first, rest⟩ := committable.step timed
    obtain ⟨next, returned⟩ := ih rest
    exact ⟨next, bind_eq_ok.mpr ⟨middle, first, returned⟩⟩

end Commits

end TradingKernel
