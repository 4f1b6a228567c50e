import DualSleeve.Exchange.BinanceRest.Signing
import DualSleeve.Storage.OrderStore.Refinement

namespace DualSleeve

open Library

-- What the query of a new order tells its reader.
structure PlacedOrder where
  symbol : String
  side : OrderSide
  orderType : OrderType
  quantity : ℚ
  price : Option ℚ
  timeInForce : Option String
  reduceOnly : Bool
  clientOrderId : String
  deriving DecidableEq

def OrderRecord.placed (order : OrderRecord) : PlacedOrder where
  symbol := order.intent.symbol
  side := order.intent.side
  orderType := order.intent.orderType
  quantity := order.intent.quantity
  price := order.intent.price
  timeInForce := order.intent.price.map fun _ => "GTC"
  reduceOnly := order.intent.reduceOnly
  clientOrderId := order.clientOrderId

-- A reader of the params of a new order.
def PlacedOrder.read (params : Params) : Except PyError PlacedOrder := do
  let side ← orderSideOf ((params.lookup "side").getD "")
  let orderType ← orderTypeOf ((params.lookup "type").getD "")
  let quantity ← decimal ((params.lookup "quantity").getD "")
  let price ← optionalDecimal (params.lookup "price")
  return {
    side, orderType, quantity, price
    symbol := (params.lookup "symbol").getD ""
    timeInForce := params.lookup "timeInForce"
    reduceOnly := params.lookup "reduceOnly" = some "true"
    clientOrderId := (params.lookup "newClientOrderId").getD "" }

-- The `str` of a value of the params. `fixed` is `format(value, "f")`.
def FieldValue.paramText (fixed : ℚ → String) : FieldValue → String
  | .text value => value
  | .decimal value => fixed value

def paramTexts (fixed : ℚ → String) (params : List (String × FieldValue)) : Params :=
  params.map fun param => (param.1, param.2.paramText fixed)

-- The texts of the decimals of an order read as these decimals.
structure OrderRecord.Legible (fixed : ℚ → String) (order : OrderRecord) : Prop where
  quantity : decimal (fixed order.intent.quantity) = .ok order.intent.quantity
  price : ∀ price ∈ order.intent.price, decimal (fixed price) = .ok price

namespace BinanceRest

variable {fixed : ℚ → String}

theorem keys_paramTexts (params : List (String × FieldValue)) :
    (paramTexts fixed params).map Prod.fst = params.map Prod.fst :=
  List.map_map

theorem keys_orderParams (order : OrderRecord) :
    (orderParams order).map Prod.fst =
      ["symbol", "side", "type", "quantity", "newClientOrderId", "newOrderRespType"] ++
        (if order.intent.price.isSome then ["price", "timeInForce"] else []) ++
        if order.intent.reduceOnly then ["reduceOnly"] else [] := by
  unfold orderParams
  cases order.intent.price <;> cases order.intent.reduceOnly <;> rfl

-- What is sent with a call besides its own params, where these leave it to the adapter.
def extraParams (hmac : String → String → String) (credentials : BinanceCredentials)
    (recvWindow timestamp : ℤ) (params : Params) : Params :=
  let signed := params ++ [("recvWindow", toString recvWindow), ("timestamp", toString timestamp)]
  [("recvWindow", toString recvWindow), ("timestamp", toString timestamp),
    ("signature", hmac credentials.apiSecret (urlencode signed))]

theorem signedParams_of_free (hmac : String → String → String) (credentials : BinanceCredentials)
    (recvWindow timestamp : ℤ) {params : Params}
    (hfree : ∀ key ∈ ["recvWindow", "timestamp", "signature"], key ∉ params.map Prod.fst) :
    signedParams hmac credentials recvWindow timestamp params =
      params ++ extraParams hmac credentials recvWindow timestamp params := by
  have hcovered : covered recvWindow timestamp params =
      params ++ [("recvWindow", toString recvWindow), ("timestamp", toString timestamp)] := by
    have hwindow : params.setDefault "recvWindow" (toString recvWindow) =
        params ++ [("recvWindow", toString recvWindow)] := if_neg (hfree _ (by simp))
    have htime : "timestamp" ∉ (params.setDefault "recvWindow" (toString recvWindow)).map Prod.fst := by
      rw [Params.mem_keys_setDefault]
      simp [hfree "timestamp" (by simp)]
    unfold covered
    rw [Params.setDefault, if_neg htime, hwindow, List.append_assoc]
    rfl
  rw [signedParams_eq hmac credentials recvWindow timestamp (hfree _ (by simp)), hcovered, List.append_assoc]
  rfl

theorem orderParams_free (order : OrderRecord) : ∀ key ∈ ["recvWindow", "timestamp", "signature"],
    key ∉ (paramTexts fixed (orderParams order)).map Prod.fst := by
  rw [keys_paramTexts, keys_orderParams]
  cases order.intent.price.isSome <;> cases order.intent.reduceOnly <;> decide

-- The reader of the params of an order, with others after them, finds the order.
theorem read_orderParams {order : OrderRecord} (h : order.Legible fixed) {others : Params}
    (hothers : ∀ key ∈ ["price", "timeInForce", "reduceOnly"], others.lookup key = none) :
    PlacedOrder.read (paramTexts fixed (orderParams order) ++ others) = .ok order.placed := by
  have hnone := hothers "price" (by simp)
  have hnone' := hothers "timeInForce" (by simp)
  have hnone'' := hothers "reduceOnly" (by simp)
  unfold PlacedOrder.read paramTexts orderParams OrderRecord.placed
  cases hgiven : order.intent.price with
  | none =>
    have hread : DualSleeve.optionalDecimal none = .ok none := rfl
    cases hreduce : order.intent.reduceOnly <;>
      simp [List.lookup_cons, FieldValue.paramText, h.quantity, hnone, hnone', hnone'', hread, Raise.ok_bind]
  | some price =>
    have hread : DualSleeve.optionalDecimal (some (fixed price)) = .ok (some price) := by
      rw [DualSleeve.optionalDecimal, h.price price hgiven]
      rfl
    cases hreduce : order.intent.reduceOnly <;>
      simp [List.lookup_cons, FieldValue.paramText, h.quantity, hnone'', hread, Raise.ok_bind]

-- The query of `POST /fapi/v1/order`.
def orderQuery (hmac : String → String → String) (credentials : BinanceCredentials)
    (recvWindow timestamp : ℤ) (fixed : ℚ → String) (order : OrderRecord) : String :=
  urlencode (signedParams hmac credentials recvWindow timestamp (paramTexts fixed (orderParams order)))

theorem parseQuery_orderQuery (hmac : String → String → String) (credentials : BinanceCredentials)
    (recvWindow timestamp : ℤ) {order : OrderRecord} (h : order.Legible fixed) :
    (parseQuery (orderQuery hmac credentials recvWindow timestamp fixed order)).map PlacedOrder.read =
      some (.ok order.placed) := by
  unfold orderQuery
  rw [parseQuery_urlencode, signedParams_of_free hmac credentials recvWindow timestamp (orderParams_free order),
    Option.map_some]
  refine congrArg some (read_orderParams h ?_)
  intro key hkey
  simp only [List.mem_cons, List.not_mem_nil, or_false] at hkey
  rcases hkey with rfl | rfl | rfl <;> rfl

-- Whoever reads the query of a submitted order finds this order, whatever its texts hold;
-- so orders that differ in anything that is placed have different queries.
theorem orderQuery_read (hmac : String → String → String) (credentials : BinanceCredentials)
    (recvWindow timestamp : ℤ) {order : OrderRecord} (h : order.Legible fixed) :
    (parseQuery (orderQuery hmac credentials recvWindow timestamp fixed order)).map PlacedOrder.read =
        some (.ok order.placed) ∧
      ∀ other : OrderRecord, other.Legible fixed → ∀ otherWindow otherTime,
        orderQuery hmac credentials otherWindow otherTime fixed other =
          orderQuery hmac credentials recvWindow timestamp fixed order → other.placed = order.placed := by
  have hread := parseQuery_orderQuery hmac credentials recvWindow timestamp h
  refine ⟨hread, ?_⟩
  intro other hother otherWindow otherTime hsame
  have hfirst := parseQuery_orderQuery hmac credentials otherWindow otherTime hother
  rw [hsame, hread] at hfirst
  simpa using hfirst.symm

theorem orderQuery_read_sample :
    (parseQuery (orderQuery (fun secret query => secret ++ query) ⟨"key", "secret"⟩ 5000 1767225600000
      SQLiteOrderStore.hundredthsText (SQLiteOrderStore.samplePlaced "A&B=C %_EN" .submitted))).map
        PlacedOrder.read =
      some (.ok (SQLiteOrderStore.samplePlaced "A&B=C %_EN" .submitted).placed) := by
  have hlegible : (SQLiteOrderStore.samplePlaced "A&B=C %_EN" .submitted).Legible
      SQLiteOrderStore.hundredthsText := by
    refine ⟨by decide +kernel, ?_⟩
    intro price hprice
    cases hprice
    decide +kernel
  exact (orderQuery_read _ _ _ _ hlegible).1

end BinanceRest

end DualSleeve
