import DualSleeve.Exchange.Http
import DualSleeve.Exchange.Interfaces

namespace DualSleeve

open Library

-- What the adapter talks to and remembers.
structure RestState where
  transport : HttpRequest → Except PyError HttpResponse
  now : DateTime
  filtersCache : List (String × SymbolFilters) := []

namespace BinanceRest

def statusMap : List (String × OrderStatus) := [
  ("NEW", .submitted),
  ("PARTIALLY_FILLED", .partiallyFilled),
  ("FILLED", .filled),
  ("CANCELED", .canceled),
  ("REJECTED", .rejected),
  ("EXPIRED", .expired)]

def request (method path : String) (params : List (String × FieldValue)) : Remote RestState Payload := do
  let state ← Program.get
  let response ← Program.ofExcept (state.transport { method, path, params })
  if 400 ≤ response.statusCode then
    Program.raise (.binanceApiError
      ("Binance API error " ++ toString response.statusCode ++ ": " ++ response.text))
  else
    Program.ofExcept response.json

-- The status of a payload, where the exchange names one of the map.
def mappedStatus (fields : JsonObject) : Option OrderStatus :=
  match fields.get "status" with
  | some (.text status) => statusMap.lookup status
  | _ => none

-- `avg_price not in (None, "0", "0.0", "0.00000")`
def averagePriceGiven (fields : JsonObject) : Option JsonScalar :=
  (fields.present "avgPrice").filter fun price =>
    price ∉ [JsonScalar.text "0", .text "0.0", .text "0.00000"]

def optionalDecimal : Option JsonScalar → Except PyError (Option ℚ)
  | none => .ok none
  | some value => (decimal value.str).map some

def applyExchangeOrderPayload (order : OrderRecord) (payload : Payload) : Except PyError OrderRecord :=
  match payload with
  | .object fields => do
    let executedQty ← optionalDecimal (fields.present "executedQty")
    let avgPrice ← optionalDecimal (averagePriceGiven fields)
    return { order with
      exchangeOrderId := (fields.present "orderId").map JsonScalar.str
      status := (mappedStatus fields).getD order.status
      filledQuantity := executedQty.getD order.filledQuantity
      averageFillPrice := avgPrice.or order.averageFillPrice }
  | _ => .error (.attributeError "get")

def parseOrderSnapshot (fields : JsonObject) : Except PyError ExchangeOrderSnapshot := do
  let status := (statusMap.lookup ((fields.get "status").getD .null).str).getD .unknown
  let averagePrice ← optionalDecimal (averagePriceGiven fields)
  let executedQuantity ← decimal ((fields.get "executedQty").getD (.text "0")).str
  return {
    clientOrderId := ((fields.get "clientOrderId").getD .null).str
    symbol := ((fields.get "symbol").getD .null).str
    status
    exchangeOrderId := (fields.present "orderId").map JsonScalar.str
    executedQuantity
    averagePrice }

-- The last of the filters of a type; an empty object where there is none.
def filterOfType (filters : List JsonObject) (filterType : String) : JsonObject :=
  (filters.reverse.find? fun item => item.get "filterType" = some (.text filterType)).getD []

def parseSymbolFilters (info : SymbolInfo) : Except PyError (Option SymbolFilters) :=
  match info with
  | ⟨some symbol, some rawFilters⟩ =>
    if symbol = "" then .ok none
    else do
      let priceFilter := filterOfType rawFilters "PRICE_FILTER"
      let lotSize := filterOfType rawFilters "LOT_SIZE"
      let minNotionalFilter :=
        if filterOfType rawFilters "MIN_NOTIONAL" ≠ [] then filterOfType rawFilters "MIN_NOTIONAL"
        else filterOfType rawFilters "NOTIONAL"
      let tickSize ← decimal ((priceFilter.get "tickSize").getD (.text "0.01")).str
      let stepSize ← decimal ((lotSize.get "stepSize").getD (.text "0.001")).str
      let minNotional ← decimal ((minNotionalFilter.get "notional").getD
        ((minNotionalFilter.get "minNotional").getD (.text "5"))).str
      return some ⟨symbol, tickSize, stepSize, minNotional⟩
  | _ => .ok none

def parseSymbols (symbols : List SymbolInfo) : Except PyError (List (String × SymbolFilters)) :=
  symbols.foldlM (fun filters info => do
    let parsed ← parseSymbolFilters info
    return match parsed with
      | some parsed => (parsed.symbol, parsed) :: filters
      | none => filters) []

def loadExchangeInfo : Remote RestState Unit := do
  let payload ← request "GET" "/fapi/v1/exchangeInfo" []
  let symbols := match payload with
    | .exchangeInfo symbols => symbols
    | _ => []
  let filters ← Program.ofExcept (parseSymbols symbols)
  Program.modify fun state => { state with filtersCache := filters }

def getSymbolFilters (symbol : String) : Remote RestState SymbolFilters := do
  let state ← Program.get
  if (state.filtersCache.lookup symbol).isNone then loadExchangeInfo else pure ()
  let state ← Program.get
  match state.filtersCache.lookup symbol with
  | some filters => return filters
  | none => Program.raise (.binanceApiError ("symbol not found in exchangeInfo: " ++ symbol))

def orderParams (order : OrderRecord) : List (String × FieldValue) :=
  [("symbol", .text order.intent.symbol),
    ("side", .text order.intent.side.value),
    ("type", .text order.intent.orderType.value),
    ("quantity", .decimal order.intent.quantity),
    ("newClientOrderId", .text order.clientOrderId),
    ("newOrderRespType", .text "RESULT")] ++
  (match order.intent.price with
    | some price => [("price", .decimal price), ("timeInForce", .text "GTC")]
    | none => []) ++
  (if order.intent.reduceOnly then [("reduceOnly", .text "true")] else [])

def submitOrder (order : OrderRecord) : Remote RestState OrderRecord := do
  let payload ← request "POST" "/fapi/v1/order" (orderParams order)
  Program.ofExcept (applyExchangeOrderPayload order payload)

def cancelOrder (clientOrderId symbol : String) : Remote RestState (Option OrderRecord) := do
  let _ ← request "DELETE" "/fapi/v1/order"
    [("symbol", .text symbol), ("origClientOrderId", .text clientOrderId)]
  return none

def fetchOpenOrders : Remote RestState (List OrderRecord) := do
  let payload ← request "GET" "/fapi/v1/openOrders" []
  match payload with
  | .list _ => return []
  | .rows _ => return []
  | _ => Program.raise (.binanceApiError "expected list payload from openOrders")

def queryOrder (symbol clientOrderId : String) : Remote RestState (Option ExchangeOrderSnapshot) := do
  let payload ← request "GET" "/fapi/v1/order"
    [("symbol", .text symbol), ("origClientOrderId", .text clientOrderId)]
  match payload with
  | .object fields =>
    let snapshot ← Program.ofExcept (parseOrderSnapshot fields)
    return some snapshot
  | _ => Program.raise (.binanceApiError "expected object payload from query order")

def adapter : ExchangeAdapter RestState where
  getSymbolFilters := getSymbolFilters
  submitOrder := submitOrder
  cancelOrder := cancelOrder
  fetchOpenOrders := fetchOpenOrders

end BinanceRest

end DualSleeve
