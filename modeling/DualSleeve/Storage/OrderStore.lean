import DualSleeve.Core.Models
import DualSleeve.Library.Table

namespace DualSleeve

open Library

-- The `orders` table. A text column is modelled by the value whose text it holds.
structure OrderRow where
  clientOrderId : String
  exchangeOrderId : Option String
  sleeveId : SleeveId
  symbol : String
  side : OrderSide
  orderType : OrderType
  action : OrderAction
  quantity : ℚ
  price : Option ℚ
  reduceOnly : Bool
  setupId : Option String
  status : OrderStatus
  filledQuantity : ℚ
  averageFillPrice : Option ℚ
  deriving DecidableEq

def orderSchema : Schema String OrderRow where
  key := OrderRow.clientOrderId
  conflict old row := { old with
    exchangeOrderId := row.exchangeOrderId
    status := row.status
    filledQuantity := row.filledQuantity
    averageFillPrice := row.averageFillPrice }
  key_conflict _ _ := rfl

abbrev OrderStore := Table orderSchema

-- The values `upsert_order` inserts.
def OrderRecord.toRow (order : OrderRecord) : OrderRow where
  clientOrderId := order.clientOrderId
  exchangeOrderId := order.exchangeOrderId
  sleeveId := order.intent.sleeveId
  symbol := order.intent.symbol
  side := order.intent.side
  orderType := order.intent.orderType
  action := order.intent.action
  quantity := order.intent.quantity
  price := order.intent.price
  reduceOnly := order.intent.reduceOnly
  setupId := order.intent.setupId
  status := order.status
  filledQuantity := order.filledQuantity
  averageFillPrice := order.averageFillPrice

def rowToOrder (row : OrderRow) : OrderRecord where
  clientOrderId := row.clientOrderId
  intent := {
    sleeveId := row.sleeveId
    symbol := row.symbol
    side := row.side
    orderType := row.orderType
    action := row.action
    quantity := row.quantity
    price := row.price
    reduceOnly := row.reduceOnly
    setupId := row.setupId }
  status := row.status
  exchangeOrderId := row.exchangeOrderId
  filledQuantity := row.filledQuantity
  averageFillPrice := row.averageFillPrice

def openStatuses : List OrderStatus := [.created, .submitted, .partiallyFilled, .unknown]

namespace OrderStore

def upsertOrder (store : OrderStore) (order : OrderRecord) : OrderStore :=
  Table.upsert store order.toRow

def getOrder (store : OrderStore) (clientOrderId : String) : Option OrderRecord :=
  (Table.find? store clientOrderId).map rowToOrder

def listOpenOrders (store : OrderStore) : List OrderRecord :=
  (store.rows.filter (·.status ∈ openStatuses)).map rowToOrder

end OrderStore

-- What the table keeps of an intent: all of it but the metadata.
def OrderIntent.persisted (intent : OrderIntent) : OrderIntent := { intent with metadata := [] }

def OrderRecord.persisted (order : OrderRecord) : OrderRecord :=
  { order with intent := order.intent.persisted }

@[simp] theorem key_toRow (order : OrderRecord) : orderSchema.key order.toRow = order.clientOrderId := rfl

@[simp] theorem rowToOrder_toRow (order : OrderRecord) : rowToOrder order.toRow = order.persisted := rfl

-- An upsert over a stored row changes its status and fill fields only.
@[simp] theorem rowToOrder_conflict (old row : OrderRow) :
    rowToOrder (orderSchema.conflict old row) =
      { rowToOrder row with
        clientOrderId := old.clientOrderId
        intent := (rowToOrder old).intent } := rfl

namespace OrderStore

theorem clientOrderId_of_getOrder {store : OrderStore} {id : String} {order : OrderRecord}
    (h : store.getOrder id = some order) : order.clientOrderId = id := by
  obtain ⟨row, hr, rfl⟩ := Option.map_eq_some_iff.mp h
  exact Table.key_of_find hr

-- The open orders are the stored ones whose status is open.
theorem mem_listOpenOrders_iff {store : OrderStore} {order : OrderRecord} :
    order ∈ store.listOpenOrders ↔
      store.getOrder order.clientOrderId = some order ∧ order.status ∈ openStatuses := by
  constructor
  · intro h
    obtain ⟨row, hr, rfl⟩ := List.mem_map.mp h
    rw [List.mem_filter, decide_eq_true_eq] at hr
    have hfind : Table.find? store row.clientOrderId = some row := Table.find_of_mem hr.1
    exact ⟨congrArg (Option.map rowToOrder) hfind, hr.2⟩
  · intro h
    obtain ⟨row, hr, hrow⟩ := Option.map_eq_some_iff.mp h.1
    have hstatus : row.status = order.status := congrArg OrderRecord.status hrow
    refine List.mem_map.mpr ⟨row, List.mem_filter.mpr ⟨Table.mem_of_find hr, ?_⟩, hrow⟩
    rw [decide_eq_true_eq, hstatus]
    exact h.2

theorem nodup_listOpenOrders (store : OrderStore) :
    (store.listOpenOrders.map OrderRecord.clientOrderId).Nodup := by
  have hids : store.listOpenOrders.map OrderRecord.clientOrderId =
      (store.rows.filter (·.status ∈ openStatuses)).map OrderRow.clientOrderId :=
    List.map_map
  rw [hids]
  exact store.nodup.sublist (List.filter_sublist.map _)

theorem getOrder_upsertOrder_of_ne (store : OrderStore) {order : OrderRecord} {id : String}
    (h : id ≠ order.clientOrderId) : (store.upsertOrder order).getOrder id = store.getOrder id := by
  rw [getOrder, upsertOrder, Table.find_upsert_of_ne store h, getOrder]

theorem getOrder_upsertOrder_self (store : OrderStore) (order : OrderRecord) :
    (store.upsertOrder order).getOrder order.clientOrderId = some
      { order with
        intent := (store.getOrder order.clientOrderId).elim order.intent.persisted (·.intent) } := by
  rw [getOrder, upsertOrder, Table.find_upsert, key_toRow, if_pos rfl, getOrder]
  cases h : Table.find? store order.clientOrderId with
  | none => rfl
  | some old =>
    have hk : old.clientOrderId = order.clientOrderId := Table.key_of_find h
    simp [OrderRecord.persisted, hk]

end OrderStore

end DualSleeve
