import DualSleeve.Storage.OrderStore.Columns
import DualSleeve.Storage.PositionStore

namespace DualSleeve

open Library

-- A row of the `positions` table as SQLite holds it.
structure PositionColumns where
  symbol : String
  positionSide : String
  positionAmt : String
  entryPrice : Option String
  markPrice : Option String
  unrealizedProfit : String
  notional : String
  isolatedMargin : String
  updateTimeMs : Option ℤ
  deriving DecidableEq

def positionColumnSchema : Schema PositionKey PositionColumns where
  key row := toLex (row.symbol, row.positionSide)
  conflict old row := { row with symbol := old.symbol, positionSide := old.positionSide }
  key_conflict _ _ := rfl

abbrev PositionColumnStore := Table positionColumnSchema

namespace SQLitePositionStore

-- The values `upsert_position` binds. `str` is the text Python gives a Decimal.
def columns (str : ℚ → String) (position : ExchangePositionSnapshot) : PositionColumns where
  symbol := position.symbol
  positionSide := position.positionSide
  positionAmt := str position.positionAmt
  entryPrice := position.entryPrice.map str
  markPrice := position.markPrice.map str
  unrealizedProfit := str position.unrealizedProfit
  notional := str position.notional
  isolatedMargin := str position.isolatedMargin
  updateTimeMs := position.updateTimeMs

def upsertPosition (str : ℚ → String) (store : PositionColumnStore) (position : ExchangePositionSnapshot) :
    Except PyError PositionColumnStore :=
  if position.Storable then .ok (Table.upsert store (columns str position)) else .error integerTooLarge

-- `_row_to_position`
def positionOf (row : PositionColumns) : Except PyError ExchangePositionSnapshot := do
  let positionAmt ← decimal row.positionAmt
  let entryPrice ← optionalDecimal row.entryPrice
  let markPrice ← optionalDecimal row.markPrice
  let unrealizedProfit ← decimal row.unrealizedProfit
  let notional ← decimal row.notional
  let isolatedMargin ← decimal row.isolatedMargin
  return {
    positionAmt, entryPrice, markPrice, unrealizedProfit, notional, isolatedMargin
    symbol := row.symbol
    positionSide := row.positionSide
    updateTimeMs := row.updateTimeMs }

def getPosition (store : PositionColumnStore) (symbol : String) (positionSide : String := "BOTH") :
    Except PyError (Option ExchangePositionSnapshot) :=
  match Table.find? store (toLex (symbol, positionSide)) with
  | none => .ok none
  | some row => (positionOf row).map some

def listPositions (store : PositionColumnStore) (includeFlat : Bool := false) :
    Except PyError (List ExchangePositionSnapshot) := do
  let positions ← store.rows.mapM positionOf
  if includeFlat then
    return positions
  else
    return positions.filter (!·.isFlat)

-- What a call leaves: one that raises writes nothing.
def written (str : ℚ → String) (store : PositionColumnStore) (position : ExchangePositionSnapshot) :
    PositionColumnStore :=
  match upsertPosition str store position with
  | .ok after => after
  | .error _ => store

-- A store written by these calls, from an empty table.
def afterUpserts (str : ℚ → String) (positions : List ExchangePositionSnapshot) : PositionColumnStore :=
  positions.foldl (written str) (Table.empty positionColumnSchema)

-- The constructor reads back the texts of all decimals of the position.
structure Legible (str : ℚ → String) (position : ExchangePositionSnapshot) : Prop where
  positionAmt : decimal (str position.positionAmt) = .ok position.positionAmt
  entryPrice : ∀ price ∈ position.entryPrice, decimal (str price) = .ok price
  markPrice : ∀ price ∈ position.markPrice, decimal (str price) = .ok price
  unrealizedProfit : decimal (str position.unrealizedProfit) = .ok position.unrealizedProfit
  notional : decimal (str position.notional) = .ok position.notional
  isolatedMargin : decimal (str position.isolatedMargin) = .ok position.isolatedMargin

variable {str : ℚ → String} {positions : List ExchangePositionSnapshot}

theorem positionOf_columns {position : ExchangePositionSnapshot} (h : Legible str position) :
    positionOf (columns str position) = .ok position := by
  unfold positionOf columns
  simp only [h.positionAmt, SQLiteOrderStore.optionalDecimal_str h.entryPrice,
    SQLiteOrderStore.optionalDecimal_str h.markPrice, h.unrealizedProfit, h.notional, h.isolatedMargin,
    Raise.ok_bind]
  rfl

def coding (str : ℚ → String) : Encoding positionSchema positionColumnSchema where
  encode := columns str
  key_encode _ := rfl
  encode_conflict _ _ := rfl

-- The last snapshot of a key that was written, by a call that returned.
def lastWritten (positions : List ExchangePositionSnapshot) (key : PositionKey) :
    Option ExchangePositionSnapshot :=
  (positions.filter fun position => position.Storable ∧ position.key = key).getLast?

def typedAfter (positions : List ExchangePositionSnapshot) : PositionStore :=
  PositionStore.afterCalls (Table.empty positionSchema) positions

theorem find_typedAfter (positions : List ExchangePositionSnapshot) (key : PositionKey) :
    Table.find? (typedAfter positions) key = lastWritten positions key := by
  have hwritten : (positions.filter (·.Storable)).filter (·.key = key) =
      positions.filter fun position => position.Storable ∧ position.key = key := by
    rw [List.filter_filter]
    exact List.filter_congr fun position _ => by rw [Bool.and_comm, Bool.decide_and]
  unfold typedAfter
  rw [PositionStore.afterCalls_eq, Table.find_upsertAll_empty (fun _ _ _ => rfl) (fun _ => rfl)]
  change ((positions.filter (·.Storable)).filter (·.key = key)).head?.bind
    (fun first => (((positions.filter (·.Storable)).filter (·.key = key)).getLast?).map
      (positionSchema.conflict first)) = _
  rw [hwritten, lastWritten]
  have hkeys : ∀ position ∈ positions.filter (fun position => position.Storable ∧ position.key = key),
      position.key = key := by
    intro position hposition
    exact (of_decide_eq_true (List.mem_filter.mp hposition).2).2
  cases hwrites : positions.filter (fun position => position.Storable ∧ position.key = key) with
  | nil => rfl
  | cons first later =>
    rw [hwrites] at hkeys
    have hlast := List.getLast?_eq_some_getLast (List.cons_ne_nil first later)
    rw [List.head?_cons, Option.bind_some, hlast, Option.map_some]
    refine congrArg some (positionSchema_conflict ?_)
    rw [hkeys first List.mem_cons_self, hkeys _ (List.getLast_mem _)]

end SQLitePositionStore

end DualSleeve
