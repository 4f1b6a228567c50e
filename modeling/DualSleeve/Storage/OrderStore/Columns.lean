import DualSleeve.Exchange.Http
import DualSleeve.Library.Raise
import DualSleeve.Storage.OrderStore

namespace DualSleeve

open Library

-- A row of the `orders` table as SQLite holds it: texts, NULLs and one integer.
structure OrderColumns where
  clientOrderId : String
  exchangeOrderId : Option String
  sleeveId : String
  symbol : String
  side : String
  orderType : String
  action : String
  quantity : String
  price : Option String
  reduceOnly : ℤ
  setupId : Option String
  status : String
  filledQuantity : String
  averageFillPrice : Option String
  deriving DecidableEq

def columnSchema : Schema String OrderColumns where
  key := OrderColumns.clientOrderId
  conflict old row := { old with
    exchangeOrderId := row.exchangeOrderId
    status := row.status
    filledQuantity := row.filledQuantity
    averageFillPrice := row.averageFillPrice }
  key_conflict _ _ := rfl

abbrev ColumnStore := Table columnSchema

-- `Enum(text)`: the member that has this value.
def enumMember {α : Type} (name : String) (members : List α) (value : α → String) (text : String) :
    Except PyError α :=
  match members.find? fun member => value member = text with
  | some member => .ok member
  | none => .error (.valueError ("'" ++ text ++ "' is not a valid " ++ name))

def sleeveIdOf : String → Except PyError SleeveId :=
  enumMember "SleeveId" [.a, .b] SleeveId.value

def orderSideOf : String → Except PyError OrderSide :=
  enumMember "OrderSide" [.buy, .sell] OrderSide.value

def orderTypeOf : String → Except PyError OrderType :=
  enumMember "OrderType" [.market, .limit, .stopMarket, .stopLimit] OrderType.value

def orderActionOf : String → Except PyError OrderAction :=
  enumMember "OrderAction"
    [.entry, .stopLoss, .takeProfit1, .takeProfit2, .takeProfit3, .timeStop, .circuitBreak]
    OrderAction.value

def orderStatusOf : String → Except PyError OrderStatus :=
  enumMember "OrderStatus"
    [.created, .submitted, .partiallyFilled, .filled, .canceled, .rejected, .expired, .unknown]
    OrderStatus.value

-- `Decimal(text) if text is not None else None`
def optionalDecimal : Option String → Except PyError (Option ℚ)
  | none => .ok none
  | some text => (decimal text).map some

-- `int(flag)` and `bool(column)`
def intOf (flag : Bool) : ℤ := if flag then 1 else 0

def boolOf (column : ℤ) : Bool := column != 0

namespace SQLiteOrderStore

-- The values `upsert_order` binds. `str` is the text Python gives a Decimal.
def columns (str : ℚ → String) (order : OrderRecord) : OrderColumns where
  clientOrderId := order.clientOrderId
  exchangeOrderId := order.exchangeOrderId
  sleeveId := order.intent.sleeveId.value
  symbol := order.intent.symbol
  side := order.intent.side.value
  orderType := order.intent.orderType.value
  action := order.intent.action.value
  quantity := str order.intent.quantity
  price := order.intent.price.map str
  reduceOnly := intOf order.intent.reduceOnly
  setupId := order.intent.setupId
  status := order.status.value
  filledQuantity := str order.filledQuantity
  averageFillPrice := order.averageFillPrice.map str

def upsertOrder (str : ℚ → String) (store : ColumnStore) (order : OrderRecord) : ColumnStore :=
  Table.upsert store (columns str order)

-- `_row_to_order`
def orderOf (row : OrderColumns) : Except PyError OrderRecord := do
  let sleeveId ← sleeveIdOf row.sleeveId
  let side ← orderSideOf row.side
  let orderType ← orderTypeOf row.orderType
  let action ← orderActionOf row.action
  let quantity ← decimal row.quantity
  let price ← optionalDecimal row.price
  let status ← orderStatusOf row.status
  let filledQuantity ← decimal row.filledQuantity
  let averageFillPrice ← optionalDecimal row.averageFillPrice
  return {
    clientOrderId := row.clientOrderId
    intent := {
      sleeveId, side, orderType, action, quantity, price
      symbol := row.symbol
      reduceOnly := boolOf row.reduceOnly
      setupId := row.setupId }
    status, filledQuantity, averageFillPrice
    exchangeOrderId := row.exchangeOrderId }

def getOrder (store : ColumnStore) (clientOrderId : String) : Except PyError (Option OrderRecord) :=
  match Table.find? store clientOrderId with
  | none => .ok none
  | some row => (orderOf row).map some

def listOpenOrders (store : ColumnStore) : Except PyError (List OrderRecord) :=
  (store.rows.filter (·.status ∈ openStatuses.map OrderStatus.value)).mapM orderOf

-- A store written by these calls, from an empty table.
def afterUpserts (str : ℚ → String) (orders : List OrderRecord) : ColumnStore :=
  orders.foldl (upsertOrder str) (Table.empty columnSchema)

end SQLiteOrderStore

@[simp] theorem sleeveIdOf_value (sleeveId : SleeveId) : sleeveIdOf sleeveId.value = .ok sleeveId := by
  cases sleeveId <;> rfl

@[simp] theorem orderSideOf_value (side : OrderSide) : orderSideOf side.value = .ok side := by
  cases side <;> rfl

@[simp] theorem orderTypeOf_value (orderType : OrderType) :
    orderTypeOf orderType.value = .ok orderType := by
  cases orderType <;> rfl

@[simp] theorem orderActionOf_value (action : OrderAction) : orderActionOf action.value = .ok action := by
  cases action <;> rfl

@[simp] theorem orderStatusOf_value (status : OrderStatus) : orderStatusOf status.value = .ok status := by
  cases status <;> rfl

@[simp] theorem boolOf_intOf (flag : Bool) : boolOf (intOf flag) = flag := by
  cases flag <;> rfl

theorem OrderStatus.value_injective : Function.Injective OrderStatus.value := by
  intro status other h
  have hparsed := congrArg orderStatusOf h
  rw [orderStatusOf_value, orderStatusOf_value] at hparsed
  exact Except.ok.inj hparsed

namespace SQLiteOrderStore

-- The decimals of a row, whose texts the constructor reads back.
structure Legible (str : ℚ → String) (row : OrderRow) : Prop where
  quantity : decimal (str row.quantity) = .ok row.quantity
  price : ∀ price ∈ row.price, decimal (str price) = .ok price
  filledQuantity : decimal (str row.filledQuantity) = .ok row.filledQuantity
  averageFillPrice : ∀ price ∈ row.averageFillPrice, decimal (str price) = .ok price

theorem Legible.conflict {str : ℚ → String} {old row : OrderRow} (hold : Legible str old)
    (hrow : Legible str row) : Legible str (orderSchema.conflict old row) :=
  ⟨hold.quantity, hold.price, hrow.filledQuantity, hrow.averageFillPrice⟩

theorem optionalDecimal_str {str : ℚ → String} {value : Option ℚ}
    (h : ∀ d ∈ value, decimal (str d) = .ok d) : optionalDecimal (value.map str) = .ok value := by
  cases value with
  | none => rfl
  | some d =>
    rw [Option.map_some, optionalDecimal, h d rfl]
    rfl

-- The typed rows, as texts.
def coding (str : ℚ → String) : Encoding orderSchema columnSchema where
  encode row := columns str (rowToOrder row)
  key_encode _ := rfl
  encode_conflict _ _ := rfl

theorem orderOf_encode {str : ℚ → String} {row : OrderRow} (h : Legible str row) :
    orderOf ((coding str).encode row) = .ok (rowToOrder row) := by
  unfold orderOf coding columns
  simp only [sleeveIdOf_value, orderSideOf_value, orderTypeOf_value, orderActionOf_value,
    orderStatusOf_value, Raise.ok_bind, rowToOrder, h.quantity, h.filledQuantity,
    optionalDecimal_str h.price, optionalDecimal_str h.averageFillPrice, boolOf_intOf]
  rfl

end SQLiteOrderStore

end DualSleeve
