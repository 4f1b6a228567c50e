import DualSleeve.Exchange.Interfaces
import DualSleeve.Library.Table

namespace DualSleeve

open Library

-- A dict of the orders by their client order ids: an order put in over another takes
-- its place.
def bookSchema : Schema String OrderRecord where
  key := OrderRecord.clientOrderId
  conflict old order := { order with clientOrderId := old.clientOrderId }
  key_conflict _ _ := rfl

-- What a `BinanceUsdmTestnetAdapter` remembers. `fetch_klines` is left out.
structure BinanceUsdmTestnetAdapter where
  filters : List (String × SymbolFilters) := []
  orders : Table bookSchema := Table.empty bookSchema
  positions : List ExchangePositionSnapshot := []

-- The snapshot `query_order` makes of an order of the book.
def OrderRecord.snapshot (order : OrderRecord) : ExchangeOrderSnapshot where
  clientOrderId := order.clientOrderId
  symbol := order.intent.symbol
  status := order.status
  exchangeOrderId := order.exchangeOrderId
  executedQuantity := order.filledQuantity
  averagePrice := order.averageFillPrice

namespace BinanceUsdmTestnetAdapter

def getSymbolFilters (symbol : String) : Remote BinanceUsdmTestnetAdapter SymbolFilters := do
  let adapter ← Program.get
  return (adapter.filters.lookup symbol).getD
    { symbol, tickSize := 1 / 100, stepSize := 1 / 1000, minNotional := 5 }

def submitOrder (order : OrderRecord) : Remote BinanceUsdmTestnetAdapter OrderRecord := do
  Program.modify fun adapter => { adapter with orders := adapter.orders.upsert order }
  return order

def cancelOrder (clientOrderId _symbol : String) :
    Remote BinanceUsdmTestnetAdapter (Option OrderRecord) := do
  let adapter ← Program.get
  Program.modify fun adapter => { adapter with orders := adapter.orders.erase clientOrderId }
  return adapter.orders.find? clientOrderId

def fetchOpenOrders : Remote BinanceUsdmTestnetAdapter (List OrderRecord) := do
  let adapter ← Program.get
  return adapter.orders.rows

def fetchPositionSnapshots (symbol : Option String) :
    Remote BinanceUsdmTestnetAdapter (List ExchangePositionSnapshot) := do
  let adapter ← Program.get
  match symbol with
  | none => return adapter.positions
  | some symbol => return adapter.positions.filter (·.symbol = symbol)

def queryOrder (_symbol clientOrderId : String) :
    Remote BinanceUsdmTestnetAdapter (Option ExchangeOrderSnapshot) := do
  let adapter ← Program.get
  return (adapter.orders.find? clientOrderId).map OrderRecord.snapshot

def exchange : ExchangeAdapter BinanceUsdmTestnetAdapter where
  getSymbolFilters := getSymbolFilters
  submitOrder := submitOrder
  cancelOrder := cancelOrder
  fetchOpenOrders := fetchOpenOrders

@[simp] theorem key_order (order : OrderRecord) : bookSchema.key order = order.clientOrderId := rfl

theorem conflict_of_eq {old order : OrderRecord} (h : old.clientOrderId = order.clientOrderId) :
    bookSchema.conflict old order = order := by
  simp [bookSchema, h]

-- A submitted order is in the book, in the place of any earlier one of its id.
theorem find_submitOrder (order : OrderRecord) (adapter : BinanceUsdmTestnetAdapter) (id : String) :
    (submitOrder order adapter).2.orders.find? id =
      if id = order.clientOrderId then some order else adapter.orders.find? id := by
  have hupsert := Table.find_upsert adapter.orders order id
  change (adapter.orders.upsert order).find? id = _
  rw [hupsert, key_order]
  by_cases he : id = order.clientOrderId
  · rw [if_pos he, if_pos he]
    cases hold : adapter.orders.find? order.clientOrderId with
    | none => rfl
    | some old => exact congrArg some (conflict_of_eq (Table.key_of_find hold))
  · rw [if_neg he, if_neg he]

-- A cancelled order has left the book, and it is the one that is handed back.
theorem find_cancelOrder (clientOrderId symbol : String) (adapter : BinanceUsdmTestnetAdapter)
    (id : String) :
    (cancelOrder clientOrderId symbol adapter).1 = .ok (adapter.orders.find? clientOrderId) ∧
      (cancelOrder clientOrderId symbol adapter).2.orders.find? id =
        if id = clientOrderId then none else adapter.orders.find? id :=
  ⟨rfl, Table.find_erase adapter.orders clientOrderId id⟩

end BinanceUsdmTestnetAdapter

end DualSleeve
