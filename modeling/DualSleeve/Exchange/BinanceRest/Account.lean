import DualSleeve.Exchange.BinanceRest
import DualSleeve.Strategies.SleeveBReplay

namespace DualSleeve

open Library

-- Digits, with single underscores between them.
def groupedDigits (cs : List Char) : Option ℕ :=
  if [] ∈ cs.splitOn '_' then none else DecimalText.digits (cs.filter (· != '_'))

-- `int(text)`
def integerOfText (text : String) : Except PyError ℤ :=
  let (negative, digits) := DecimalText.signed (strip text)
  match groupedDigits digits with
  | some value => .ok (if negative then -(value : ℤ) else value)
  | none => .error (.valueError ("invalid literal for int() with base 10: '" ++ text ++ "'"))

-- `int(number)`, which cuts off what is behind the point.
def integerOfNumber (numeral : String) : Except PyError ℤ :=
  match DecimalText.parse numeral.toList with
  | some value => .ok (value.num.tdiv value.den)
  | none =>
    if numeral = "nan" then .error (.valueError "cannot convert float NaN to integer")
    else .error (.overflowError "cannot convert float infinity to integer")

def nullInteger : PyError :=
  .typeError "int() argument must be a string, a bytes-like object or a real number, not 'NoneType'"

-- `int(value)`
def integer : JsonScalar → Except PyError ℤ
  | .null => .error nullInteger
  | .bool value => .ok (if value then 1 else 0)
  | .number numeral => integerOfNumber numeral
  | .text text => integerOfText text

-- The type that Python names in its errors.
def JsonScalar.typeName : JsonScalar → String
  | .null => "NoneType"
  | .bool _ => "bool"
  | .number numeral => if numeral.toList.all fun c => c.isDigit || c == '-' then "int" else "float"
  | .text _ => "str"

namespace BinanceRest

-- `Decimal(str(payload.get(key, default)))`
def decimalField (fields : JsonObject) (key : String) (default : String := "0") : Except PyError ℚ :=
  decimal ((fields.get key).getD (.text default)).str

-- `int(payload[key]) if payload.get(key) is not None else None`
def optionalInteger (fields : JsonObject) (key : String) : Except PyError (Option ℤ) :=
  match fields.present key with
  | some value => (integer value).map some
  | none => .ok none

-- The loop over the assets raises where their value is nothing to loop over.
def checkAssets (fields : JsonObject) : Except PyError Unit :=
  match fields.get "assets" with
  | none | some (.text _) => .ok ()
  | some value => .error (.typeError ("'" ++ value.typeName ++ "' object is not iterable"))

def parseAccountSnapshot (fields : JsonObject) : Except PyError AccountSnapshotV3 := do
  checkAssets fields
  let totalWalletBalance ← decimalField fields "totalWalletBalance"
  let totalUnrealizedProfit ← decimalField fields "totalUnrealizedProfit"
  let totalMarginBalance ← decimalField fields "totalMarginBalance"
  let availableBalance ← decimalField fields "availableBalance"
  return { totalWalletBalance, totalUnrealizedProfit, totalMarginBalance, availableBalance }

def parsePositionSnapshot (fields : JsonObject) : Except PyError ExchangePositionSnapshot := do
  let positionAmt ← decimalField fields "positionAmt"
  let entryPrice ← optionalDecimal (fields.present "entryPrice")
  let markPrice ← optionalDecimal (fields.present "markPrice")
  let unrealizedProfit ← decimal ((fields.get "unRealizedProfit").getD
    ((fields.get "unrealizedProfit").getD (.text "0"))).str
  let notional ← decimalField fields "notional"
  let isolatedMargin ← decimalField fields "isolatedMargin"
  let updateTimeMs ← optionalInteger fields "updateTime"
  return {
    positionAmt, entryPrice, markPrice, unrealizedProfit, notional, isolatedMargin, updateTimeMs
    symbol := ((fields.get "symbol").getD .null).str
    positionSide := ((fields.get "positionSide").getD (.text "BOTH")).str }

def parseMarkPrice (fields : JsonObject) : Except PyError ℚ :=
  match fields.present "markPrice" with
  | none => .error (.binanceApiError "premiumIndex payload missing markPrice")
  | some markPrice => decimal markPrice.str

def shortKline : PyError := .binanceApiError "kline payload must have at least 5 elements"

def parseKline : List JsonScalar → Except PyError OhlcBar
  | timestamp :: openPrice :: high :: low :: close :: _ => do
    let openPrice ← decimal openPrice.str
    let high ← decimal high.str
    let low ← decimal low.str
    let close ← decimal close.str
    return { timestamp := timestamp.str, openPrice, high, low, close }
  | _ => .error shortKline

-- An object in the place of a kline: its length counts its keys, and none of them is 0.
def parseKlineObject (fields : JsonObject) : Except PyError OhlcBar :=
  if (fields.map Prod.fst).dedup.length < 5 then .error shortKline else .error (.keyError "0")

def fetchAccountSnapshot : Remote RestState AccountSnapshotV3 := do
  let payload ← request "GET" "/fapi/v3/account" []
  match payload with
  | .object fields => Program.ofExcept (parseAccountSnapshot fields)
  | _ => Program.raise (.binanceApiError "expected object payload from account snapshot")

-- Only the objects of the list are read.
def fetchPositionSnapshots (symbol : Option String) : Remote RestState (List ExchangePositionSnapshot) := do
  let params := match symbol with
    | some symbol => if symbol = "" then [] else [("symbol", FieldValue.text symbol)]
    | none => []
  let payload ← request "GET" "/fapi/v3/positionRisk" params
  match payload with
  | .list items => Program.ofExcept (items.mapM parsePositionSnapshot)
  | .rows _ => return []
  | _ => Program.raise (.binanceApiError "expected list payload from positionRisk")

def fetchMarkPrice (symbol : String) : Remote RestState ℚ := do
  let payload ← request "GET" "/fapi/v1/premiumIndex" [("symbol", .text symbol)]
  match payload with
  | .object fields => Program.ofExcept (parseMarkPrice fields)
  | _ => Program.raise (.binanceApiError "expected object payload from premiumIndex")

def fetchKlines (symbol interval : String) (limit : ℤ := 500) : Remote RestState (List OhlcBar) := do
  let payload ← request "GET" "/fapi/v1/klines"
    [("symbol", .text symbol), ("interval", .text interval), ("limit", .text (toString limit))]
  match payload with
  | .rows items => Program.ofExcept (items.mapM parseKline)
  | .list items => Program.ofExcept (items.mapM parseKlineObject)
  | _ => Program.raise (.binanceApiError "expected list payload from klines")

end BinanceRest

end DualSleeve
