/-
**`_matching_fill_facts`: what the trades of an order add up to.**

The venue lists trades as rows of any shape. The loop reads each row (`readRow`), keeps the first fill of
each trade, and gives up completeness at everything it cannot vouch for. `matching_fill_facts_exact`
says what the facts are by the rows alone.
-/

import Mathlib.Algebra.Order.Ring.Rat
import TradingKernel.Lib.FirstSeen
import TradingKernel.Lib.Guard
import TradingKernel.Lib.Numeral

namespace TradingKernel.FillFacts

open FirstSeen Guard Numeral Text

/-! ### Rows of any shape -/

/-- A value that is not `None`, by its truth and its `str`. -/
structure VenueValue where
  truthy : Bool
  text : String
  deriving DecidableEq

/-- What `get` returns under a key, where that is not `None`. -/
abbrev VenueFields := String → Option VenueValue

/-- A mapping row; its `info` counts where it is a mapping. -/
structure FillRow where
  fields : VenueFields
  info : Option VenueFields

inductive VenueRow where
  | mapping (row : FillRow)
  | other

/-- `str(first or second or … or default)`. -/
def firstTruthy (values : List (Option VenueValue)) (default : String) : String :=
  match values.find? fun value => value.any VenueValue.truthy with
  | some (some value) => value.text
  | _ => default

namespace FillRow

variable (row : FillRow)

def rawInfo : VenueFields := row.info.getD fun _ => none

def orderId : String :=
  firstTruthy [row.fields "order", row.fields "orderId", row.rawInfo "orderId"] ""

def amountText : String := firstTruthy [row.fields "amount"] "0"

/-- `value.get("price") or raw_info.get("price")`. -/
def priceValue : Option VenueValue :=
  match row.fields "price" with
  | some value => if value.truthy then some value else row.rawInfo "price"
  | none => row.rawInfo "price"

def givenTradeId : String :=
  strip (firstTruthy [row.fields "id", row.rawInfo "id", row.rawInfo "tradeId"] "")

/-- The id a trade is kept under; a row without one is a trade of its own. -/
def tradeId (index : ℕ) : String :=
  if row.givenTradeId = "" then "missing:" ++ toString index else row.givenTradeId

end FillRow

/-! ### Reading a row -/

/-- The amount of a row, where it is finite and positive. -/
def FillRow.amount (row : FillRow) : Except String (Option ℚ) := do
  let value ← demand (decimal? row.amountText) "InvalidOperation"
  return value.copyAbs.positive?

/-- The price of a row, where there is one that is finite and positive. -/
def FillRow.price (row : FillRow) : Except String (Option ℚ) := do
  match row.priceValue with
  | none => return none
  | some price =>
      let value ← demand (decimal? price.text) "InvalidOperation"
      return value.positive?

structure TradeFill where
  tradeId : String
  quantity : ℚ
  price : Option ℚ
  deriving DecidableEq

/-- The fill that a row reports, and whether there is nothing to complain of. -/
structure RowReading where
  fill : Option TradeFill
  clean : Bool

/-- The part of the loop that looks at its row only. -/
def readRow (exchangeOrderId : String) (index : ℕ) (row : VenueRow) : Except String RowReading :=
  match row with
  | .other => .error "venue fill row is not a mapping"
  | .mapping row => do
      if row.orderId ≠ exchangeOrderId then return ⟨none, false⟩
      match ← row.amount with
      | none => return ⟨none, false⟩
      | some quantity =>
          let price ← row.price
          return ⟨some ⟨row.tradeId index, quantity, price⟩,
            price.isSome && row.givenTradeId ≠ ""⟩

/-! ### The loop -/

structure FillLedger where
  complete : Bool
  fills : List TradeFill

/-- The part of the loop that keeps the fill: the first of a trade, and no other one. -/
def FillLedger.add (ledger : FillLedger) (reading : RowReading) : FillLedger :=
  match reading.fill with
  | none => { ledger with complete := ledger.complete && reading.clean }
  | some fill =>
      match ledger.fills.find? fun kept => kept.tradeId = fill.tradeId with
      | none => ⟨ledger.complete && reading.clean, ledger.fills ++ [fill]⟩
      | some kept =>
          { ledger with
            complete := ledger.complete && reading.clean &&
              (kept.quantity, kept.price) = (fill.quantity, fill.price) }

/-- The rows from an index on. -/
def collectFills (exchangeOrderId : String) :
    ℕ → FillLedger → List VenueRow → Except String FillLedger
  | _, ledger, [] => .ok ledger
  | index, ledger, row :: rows => do
      let reading ← readRow exchangeOrderId index row
      collectFills exchangeOrderId (index + 1) (ledger.add reading) rows

structure MatchingFillFacts where
  quantity : ℚ
  averagePrice : Option ℚ
  complete : Bool

/-- The facts of the fills that were kept. -/
def FillLedger.facts (ledger : FillLedger) : MatchingFillFacts :=
  let totalQty := (ledger.fills.map TradeFill.quantity).sum
  let priced := ledger.fills.all fun fill => fill.price.isSome
  let totalQuote := (ledger.fills.map fun fill =>
    (fill.price.map fun price => fill.quantity * price).getD 0).sum
  { quantity := totalQty
    averagePrice := if 0 < totalQty ∧ priced then some (totalQuote / totalQty) else none
    complete := ledger.complete }

/-- `_matching_fill_facts`. -/
def matchingFillFacts (rows : List VenueRow) (exchangeOrderId : Option String) :
    Except String MatchingFillFacts :=
  match exchangeOrderId with
  | none => .ok ⟨0, none, false⟩
  | some orderId => do
      let ledger ← collectFills orderId 0 ⟨rows.length < 100, []⟩ rows
      return ledger.facts

/-! ### What a row counts for -/

namespace VenueRow

variable (exchangeOrderId : String)

/-- The row can be read: it is a mapping, and where it is the order's its amount is a numeral, and its
price too if the amount counts. -/
def Readable : VenueRow → Prop
  | .other => False
  | .mapping row => row.orderId = exchangeOrderId → ∃ amount, row.amount = .ok amount ∧
      (amount ≠ none → ∃ price, row.price = .ok price)

/-- The fill that a row counts for. -/
def fill? (index : ℕ) : VenueRow → Option TradeFill
  | .other => none
  | .mapping row =>
      if row.orderId = exchangeOrderId then
        match row.amount, row.price with
        | .ok (some quantity), .ok price => some ⟨row.tradeId index, quantity, price⟩
        | _, _ => none
      else none

/-- A row of the order has a trade id. -/
def Identified : VenueRow → Prop
  | .other => True
  | .mapping row => row.orderId = exchangeOrderId → row.givenTradeId ≠ ""

/-- A row that the facts can vouch for. -/
def Clean (row : VenueRow) : Prop :=
  ∃ fields, row = .mapping fields ∧ fields.orderId = exchangeOrderId ∧ fields.givenTradeId ≠ "" ∧
    ∃ quantity price, 0 < quantity ∧ 0 < price ∧ fields.amount = .ok (some quantity) ∧
      fields.price = .ok (some price)

end VenueRow

/-- The fills that rows count for, from an index on. -/
def countedFills (exchangeOrderId : String) : ℕ → List VenueRow → List TradeFill
  | _, [] => []
  | index, row :: rows =>
      (row.fill? exchangeOrderId index).toList ++ countedFills exchangeOrderId (index + 1) rows

section Reading

variable {exchangeOrderId : String} {index : ℕ} {row : VenueRow} {reading : RowReading}

theorem amount_pos {fields : FillRow} {quantity : ℚ} (isAmount : fields.amount = .ok (some quantity)) :
    0 < quantity := by
  unfold FillRow.amount at isAmount
  obtain ⟨value, -, rest⟩ := demand_bind_eq_ok.mp isAmount
  exact Decimal.positive_of_positive? (pure_eq_ok.mp rest).symm

theorem price_pos {fields : FillRow} {price : ℚ} (isPrice : fields.price = .ok (some price)) :
    0 < price := by
  unfold FillRow.price at isPrice
  split at isPrice
  · cases isPrice
  · obtain ⟨value, -, rest⟩ := demand_bind_eq_ok.mp isPrice
    exact Decimal.positive_of_positive? (pure_eq_ok.mp rest).symm

/-- **What a reading is**, where the row can be read. -/
theorem readRow_eq_ok (read : readRow exchangeOrderId index row = .ok reading) :
    row.Readable exchangeOrderId ∧ reading.fill = row.fill? exchangeOrderId index ∧
      (reading.clean = true → row.Clean exchangeOrderId) := by
  unfold readRow at read
  cases row with
  | other => cases read
  | mapping fields =>
      dsimp only at read
      unfold VenueRow.Readable VenueRow.fill?
      dsimp only
      split_ifs at read with otherOrder
      · obtain rfl := pure_eq_ok.mp read
        rw [if_neg otherOrder]
        exact ⟨fun same => absurd same otherOrder, rfl, Bool.false_ne_true.elim⟩
      rw [not_ne_iff] at otherOrder
      obtain ⟨amount, isAmount, read⟩ := bind_eq_ok.mp read
      rw [if_pos otherOrder, isAmount]
      cases amount with
      | none =>
          obtain rfl := pure_eq_ok.mp read
          exact ⟨fun _ => ⟨none, rfl, (absurd rfl ·)⟩, rfl, Bool.false_ne_true.elim⟩
      | some quantity =>
          obtain ⟨price, isPrice, read⟩ := bind_eq_ok.mp read
          obtain rfl := pure_eq_ok.mp read
          rw [isPrice]
          refine ⟨fun _ => ⟨some quantity, rfl, fun _ => ⟨price, rfl⟩⟩, rfl, fun clean => ?_⟩
          rw [Bool.and_eq_true, Option.isSome_iff_exists] at clean
          obtain ⟨⟨p, rfl⟩, identified⟩ := clean
          exact ⟨fields, rfl, otherOrder, of_decide_eq_true identified, quantity, p,
            amount_pos isAmount, price_pos isPrice, isAmount, isPrice⟩

variable (index) in
theorem exists_readRow (readable : row.Readable exchangeOrderId) :
    ∃ reading, readRow exchangeOrderId index row = .ok reading := by
  unfold readRow
  cases row with
  | other => exact readable.elim
  | mapping fields =>
      dsimp only
      split_ifs with otherOrder
      · exact ⟨_, rfl⟩
      obtain ⟨amount, isAmount, priced⟩ := readable (not_ne_iff.mp otherOrder)
      rw [isAmount]
      cases amount with
      | none => exact ⟨_, rfl⟩
      | some quantity =>
          obtain ⟨price, isPrice⟩ := priced (Option.some_ne_none quantity)
          simp only [isPrice]
          exact ⟨_, rfl⟩

end Reading

/-! ### One round of the loop, and all of them -/

section Loop

variable {exchangeOrderId : String} {index : ℕ} {rows : List VenueRow} {reading : RowReading}
  {ledger final : FillLedger}

theorem add_fills : (ledger.add reading).fills =
    reading.fill.toList.foldl (keepNew TradeFill.tradeId) ledger.fills := by
  unfold FillLedger.add
  cases reading.fill with
  | none => rfl
  | some fill =>
      show _ = keepNew TradeFill.tradeId ledger.fills fill
      unfold keepNew
      dsimp only
      split
      · rename_i absent
        rw [if_neg]
        intro known
        obtain ⟨kept, member, same⟩ := List.mem_map.mp known
        exact absurd (decide_eq_true same) (List.find?_eq_none.mp absent kept member)
      · rename_i kept found
        have same : kept.tradeId = fill.tradeId := by
          simpa using List.find?_some found
        rw [if_pos]
        rw [← same]
        exact List.mem_map_of_mem (List.mem_of_find?_eq_some found)

/-- A round that leaves the facts complete had nothing to complain of, and its fill is kept. -/
theorem complete_of_add (complete : (ledger.add reading).complete = true) :
    ledger.complete = true ∧ reading.clean = true ∧
      ∀ fill ∈ reading.fill, fill ∈ (ledger.add reading).fills := by
  unfold FillLedger.add at complete ⊢
  cases isFill : reading.fill with
  | none =>
      rw [isFill] at complete
      obtain ⟨before, clean⟩ := (Bool.and_eq_true ..).mp complete
      exact ⟨before, clean, nofun⟩
  | some fill =>
      rw [isFill] at complete
      dsimp only at complete ⊢
      split at complete
      · obtain ⟨before, clean⟩ := (Bool.and_eq_true ..).mp complete
        refine ⟨before, clean, ?_⟩
        rintro _ ⟨⟩
        exact List.mem_append_right _ (List.mem_singleton.mpr rfl)
      · rename_i kept found
        obtain ⟨rest, same⟩ := (Bool.and_eq_true ..).mp complete
        obtain ⟨before, clean⟩ := (Bool.and_eq_true ..).mp rest
        refine ⟨before, clean, ?_⟩
        rintro _ ⟨⟩
        obtain ⟨quantity, price⟩ := Prod.mk.inj (of_decide_eq_true same)
        have isKept : kept = fill := by
          have same : kept.tradeId = fill.tradeId := by simpa using List.find?_some found
          obtain ⟨keptId, keptQuantity, keptPrice⟩ := kept
          obtain rfl := same
          obtain rfl := quantity
          obtain rfl := price
          rfl
        exact isKept ▸ List.mem_of_find?_eq_some found

theorem countedFills_cons {row : VenueRow} : countedFills exchangeOrderId index (row :: rows) =
    (row.fill? exchangeOrderId index).toList ++ countedFills exchangeOrderId (index + 1) rows := rfl

theorem collectFills_fills (collected : collectFills exchangeOrderId index ledger rows = .ok final) :
    final.fills =
      (countedFills exchangeOrderId index rows).foldl (keepNew TradeFill.tradeId) ledger.fills := by
  induction rows generalizing index ledger with
  | nil =>
      cases collected
      rfl
  | cons row rows ih =>
      obtain ⟨reading, read, rest⟩ := bind_eq_ok.mp collected
      obtain ⟨-, isFill, -⟩ := readRow_eq_ok read
      rw [ih rest, add_fills, isFill, countedFills_cons, List.foldl_append]

/-- Every row can be read exactly where the loop comes to its end. -/
theorem exists_collectFills (index : ℕ) (ledger : FillLedger) :
    (∃ final, collectFills exchangeOrderId index ledger rows = .ok final) ↔
    ∀ row ∈ rows, row.Readable exchangeOrderId := by
  induction rows generalizing index ledger with
  | nil => simp [collectFills]
  | cons row rows ih =>
      rw [List.forall_mem_cons]
      constructor
      · rintro ⟨final, collected⟩
        obtain ⟨reading, read, rest⟩ := bind_eq_ok.mp collected
        exact ⟨(readRow_eq_ok read).1, (ih _ _).mp ⟨final, rest⟩⟩
      · rintro ⟨readable, others⟩
        obtain ⟨reading, read⟩ := exists_readRow index readable
        obtain ⟨final, rest⟩ := (ih (index + 1) (ledger.add reading)).mpr others
        exact ⟨final, bind_eq_ok.mpr ⟨reading, read, rest⟩⟩

/-- **A run that stays complete**: every row is clean, and every fill is one of those kept. -/
theorem collectFills_complete
    (collected : collectFills exchangeOrderId index ledger rows = .ok final)
    (complete : final.complete = true) :
    ledger.complete = true ∧ (∀ row ∈ rows, row.Clean exchangeOrderId) ∧
      ∀ fill ∈ ledger.fills ++ countedFills exchangeOrderId index rows, fill ∈ final.fills := by
  induction rows generalizing index ledger with
  | nil =>
      cases collected
      refine ⟨complete, nofun, fun fill member => ?_⟩
      unfold countedFills at member
      rwa [List.append_nil] at member
  | cons row rows ih =>
      obtain ⟨reading, read, rest⟩ := bind_eq_ok.mp collected
      obtain ⟨-, isFill, clean⟩ := readRow_eq_ok read
      obtain ⟨added, others, kept⟩ := ih rest
      obtain ⟨before, isClean, inside⟩ := complete_of_add added
      refine ⟨before, List.forall_mem_cons.mpr ⟨clean isClean, others⟩, fun fill member => ?_⟩
      rw [countedFills_cons, ← isFill, List.mem_append, List.mem_append, Option.mem_toList] at member
      rcases member with old | here | later
      · refine kept fill (List.mem_append_left _ ?_)
        rw [add_fills]
        cases reading.fill with
        | none => exact old
        | some fill =>
            show _ ∈ keepNew TradeFill.tradeId ledger.fills fill
            unfold keepNew
            split_ifs
            · exact old
            · exact List.mem_append_left _ old
      · exact kept fill (List.mem_append_left _ (inside fill here))
      · exact kept fill (List.mem_append_right _ later)

end Loop

/-! ### Fills without their order -/

section Order

variable {exchangeOrderId : String} {index : ℕ} {rows : List VenueRow} {fill : TradeFill}

theorem fill?_index {row : VenueRow} (identified : row.Identified exchangeOrderId) (other : ℕ) :
    row.fill? exchangeOrderId index = row.fill? exchangeOrderId other := by
  unfold VenueRow.fill?
  cases row with
  | other => rfl
  | mapping fields =>
      dsimp only
      split_ifs with matching
      · have sameId : fields.tradeId index = fields.tradeId other := by
          unfold FillRow.tradeId
          rw [if_neg (identified matching), if_neg (identified matching)]
        rw [sameId]
      · rfl

theorem mem_countedFills (identified : ∀ row ∈ rows, row.Identified exchangeOrderId) :
    fill ∈ countedFills exchangeOrderId index rows ↔
      ∃ row ∈ rows, row.fill? exchangeOrderId 0 = some fill := by
  induction rows generalizing index with
  | nil => simp [countedFills]
  | cons row rows ih =>
      obtain ⟨here, others⟩ := List.forall_mem_cons.mp identified
      rw [countedFills_cons, List.mem_append, Option.mem_toList, ih others, fill?_index here 0,
        List.exists_mem_cons_iff]

end Order

/-! ### The facts by the trades -/

section Trades

variable (fills : List TradeFill) (id : String)

/-- The trades of fills. -/
def tradeIds : Finset String := (fills.map TradeFill.tradeId).toFinset

/-- What a trade counts for: the first fill that has its id. -/
def tradeOf : Option TradeFill := fills.find? fun fill => fill.tradeId = id

def quantityOf : ℚ := ((tradeOf fills id).map TradeFill.quantity).getD 0

def priceOf : Option ℚ := (tradeOf fills id).bind TradeFill.price

/-- The value of a trade, as far as it has a price. -/
def valueOf : ℚ := ((priceOf fills id).map fun price => quantityOf fills id * price).getD 0

end Trades

section Facts

variable {rows : List VenueRow} {exchangeOrderId : String} {facts : MatchingFillFacts}
  {fills : List TradeFill} {ledger : FillLedger}

theorem facts_quantity (kept : ledger.fills = firstSeen TradeFill.tradeId fills) :
    ledger.facts.quantity = ∑ id ∈ tradeIds fills, quantityOf fills id := by
  show (ledger.fills.map TradeFill.quantity).sum = _
  rw [kept]
  exact sum_firstSeen TradeFill.quantity

theorem all_priced (kept : ledger.fills = firstSeen TradeFill.tradeId fills) :
    (ledger.fills.all fun fill => fill.price.isSome) = true ↔
      ∀ id ∈ tradeIds fills, (priceOf fills id).isSome := by
  have found (fill : TradeFill) (member : fill ∈ ledger.fills) :
      tradeOf fills fill.tradeId = some fill := by
    unfold tradeOf
    rw [← find?_firstSeen]
    exact find?_eq_of_mem nodup_firstSeen (kept ▸ member)
  rw [List.all_eq_true]
  constructor
  · intro priced id member
    unfold tradeIds at member
    rw [List.mem_toFinset, ← mem_keys_firstSeen, ← kept] at member
    obtain ⟨fill, isFill, rfl⟩ := List.mem_map.mp member
    unfold priceOf
    rw [found fill isFill]
    exact priced fill isFill
  · intro priced fill member
    have isId : fill.tradeId ∈ tradeIds fills := by
      unfold tradeIds
      rw [List.mem_toFinset, ← mem_keys_firstSeen, ← kept]
      exact List.mem_map_of_mem member
    have := priced _ isId
    unfold priceOf at this
    rwa [found fill member] at this

theorem facts_averagePrice (kept : ledger.fills = firstSeen TradeFill.tradeId fills) :
    ledger.facts.averagePrice =
      if 0 < ledger.facts.quantity ∧ ∀ id ∈ tradeIds fills, (priceOf fills id).isSome then
        some ((∑ id ∈ tradeIds fills, valueOf fills id) / ledger.facts.quantity)
      else none := by
  have quote : (ledger.fills.map fun fill =>
      (fill.price.map fun price => fill.quantity * price).getD 0).sum =
        ∑ id ∈ tradeIds fills, valueOf fills id := by
    rw [kept, sum_firstSeen]
    refine Finset.sum_congr rfl fun id _ => ?_
    unfold valueOf priceOf quantityOf tradeOf
    cases fills.find? fun fill => fill.tradeId = id with
    | none => rfl
    | some fill => rfl
  show (if 0 < (ledger.fills.map TradeFill.quantity).sum ∧ _ then _ else _) = _
  rw [quote]
  refine if_congr ?_ rfl rfl
  exact and_congr_right fun _ => all_priced kept

theorem matchingFillFacts_eq_ok :
    matchingFillFacts rows (some exchangeOrderId) = .ok facts ↔
      ∃ ledger, collectFills exchangeOrderId 0 ⟨rows.length < 100, []⟩ rows = .ok ledger ∧
        facts = ledger.facts := by
  unfold matchingFillFacts
  dsimp only
  rw [bind_eq_ok]
  simp only [pure_eq_ok]

end Facts

/-- **The facts of the matching fills.** They exist where every row can be read. The quantity is the sum
over the distinct trades of the order, and the average price is weighted by value where every trade has a
price. Rows that agree and have trade ids give the same quantity and average in every order and
repetition. Complete facts come from fewer than a hundred rows, all of the order, with an id, a positive
amount and a positive price, and agreeing with each other. -/
theorem matching_fill_facts_exact (rows : List VenueRow) (exchangeOrderId : String) :
    matchingFillFacts rows none = .ok ⟨0, none, false⟩ ∧
    ((∃ facts, matchingFillFacts rows (some exchangeOrderId) = .ok facts) ↔
      ∀ row ∈ rows, row.Readable exchangeOrderId) ∧
    ∀ facts, matchingFillFacts rows (some exchangeOrderId) = .ok facts →
      let fills := countedFills exchangeOrderId 0 rows
      facts.quantity = ∑ id ∈ tradeIds fills, quantityOf fills id ∧
      (facts.averagePrice =
        if 0 < facts.quantity ∧ ∀ id ∈ tradeIds fills, (priceOf fills id).isSome then
          some ((∑ id ∈ tradeIds fills, valueOf fills id) / facts.quantity)
        else none) ∧
      (Agree TradeFill.tradeId fills → (∀ row ∈ rows, row.Identified exchangeOrderId) →
        ∀ other : List VenueRow, (∀ row, row ∈ other ↔ row ∈ rows) →
          ∃ same, matchingFillFacts other (some exchangeOrderId) = .ok same ∧
            same.quantity = facts.quantity ∧ same.averagePrice = facts.averagePrice) ∧
      (facts.complete = true → rows.length < 100 ∧ (∀ row ∈ rows, row.Clean exchangeOrderId) ∧
        Agree TradeFill.tradeId fills) := by
  refine ⟨rfl, ?_, ?_⟩
  · rw [← exists_collectFills 0 ⟨rows.length < 100, []⟩]
    constructor
    · rintro ⟨facts, returned⟩
      obtain ⟨ledger, collected, -⟩ := matchingFillFacts_eq_ok.mp returned
      exact ⟨ledger, collected⟩
    · rintro ⟨ledger, collected⟩
      exact ⟨_, matchingFillFacts_eq_ok.mpr ⟨ledger, collected, rfl⟩⟩
  intro facts returned
  obtain ⟨ledger, collected, rfl⟩ := matchingFillFacts_eq_ok.mp returned
  have kept : ledger.fills =
      firstSeen TradeFill.tradeId (countedFills exchangeOrderId 0 rows) := collectFills_fills collected
  refine ⟨facts_quantity kept, facts_averagePrice kept, fun agree identified other same => ?_,
    fun complete => ?_⟩
  · -- the other rows can be read, and the fills that are kept are the same ones
    have readable := (exists_collectFills _ _).mp ⟨ledger, collected⟩
    obtain ⟨otherLedger, otherCollected⟩ := (exists_collectFills 0
      ⟨other.length < 100, []⟩).mpr fun row member => readable row ((same row).mp member)
    have otherKept : otherLedger.fills =
        firstSeen TradeFill.tradeId (countedFills exchangeOrderId 0 other) :=
      collectFills_fills otherCollected
    have perm : otherLedger.fills.Perm ledger.fills := by
      rw [kept, otherKept]
      refine firstSeen_perm agree fun fill => ?_
      rw [mem_countedFills identified,
        mem_countedFills fun row member => identified row ((same row).mp member)]
      simp only [same]
    refine ⟨_, matchingFillFacts_eq_ok.mpr ⟨otherLedger, otherCollected, rfl⟩, ?_, ?_⟩
    · exact (perm.map _).sum_eq
    · unfold FillLedger.facts
      dsimp only
      rw [(perm.map TradeFill.quantity).sum_eq, perm.all_eq, (perm.map fun fill : TradeFill =>
        (fill.price.map fun price => fill.quantity * price).getD 0).sum_eq]
  · obtain ⟨few, clean, inside⟩ := collectFills_complete collected complete
    refine ⟨of_decide_eq_true few, clean, fun fill member another anotherMember sameId => ?_⟩
    have distinct : (ledger.fills.map TradeFill.tradeId).Nodup := kept ▸ nodup_firstSeen
    exact List.inj_on_of_nodup_map distinct (inside fill member) (inside another anotherMember) sameId

/-- A row of order 7 whose amount is not a numeral. -/
def unreadableRow : VenueRow :=
  .mapping ⟨fun key => if key = "order" then some ⟨true, "7"⟩
    else if key = "amount" then some ⟨true, "n/a"⟩ else none, none⟩

theorem unreadable_row_refused :
    ¬ ∃ facts, matchingFillFacts [unreadableRow] (some "7") = .ok facts := by
  rintro ⟨facts, returned⟩
  have refused : matchingFillFacts [unreadableRow] (some "7") = .error "InvalidOperation" := rfl
  cases refused.symm.trans returned

end TradingKernel.FillFacts
