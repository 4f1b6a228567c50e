import DualSleeve.Core.Models
import DualSleeve.Library.DecimalText

namespace DualSleeve

open Library

-- A JSON value that is neither a list nor an object. `number` holds the text Python
-- prints for it.
inductive JsonScalar where
  | null
  | bool (value : Bool)
  | number (numeral : String)
  | text (value : String)
  deriving DecidableEq

-- `str(value)`
def JsonScalar.str : JsonScalar → String
  | .null => "None"
  | .bool true => "True"
  | .bool false => "False"
  | .number numeral => numeral
  | .text value => value

abbrev JsonObject := List (String × JsonScalar)

-- Of repeated keys the last one counts.
def JsonObject.get (object : JsonObject) (key : String) : Option JsonScalar := object.reverse.lookup key

-- `object.get(key)`, with `None` for a null and for a key that is absent.
def JsonObject.present (object : JsonObject) (key : String) : Option JsonScalar :=
  (object.get key).filter (· ≠ .null)

-- One entry of `symbols` in exchangeInfo. `filters` is empty where its value is no list.
structure SymbolInfo where
  symbol : Option String
  filters : Option (List JsonObject) := some []
  deriving DecidableEq

inductive Payload where
  | scalar (value : JsonScalar)
  | object (fields : JsonObject)
  | list (items : List JsonObject)
  | rows (items : List (List JsonScalar))
  | exchangeInfo (symbols : List SymbolInfo)
  deriving DecidableEq

-- `params` are those of the call, without time stamp and signature.
structure HttpRequest where
  method : String
  path : String
  params : List (String × FieldValue) := []
  deriving DecidableEq

-- `json` is what decoding the body comes to.
structure HttpResponse where
  statusCode : ℕ := 200
  text : String := ""
  json : Except PyError Payload

def HttpResponse.ok (payload : Payload) : HttpResponse := { json := .ok payload }

-- `text.strip()`
def strip (text : String) : List Char :=
  let stripped := text.toList.dropWhile Char.isWhitespace
  (stripped.reverse.dropWhile Char.isWhitespace).reverse

-- `text.strip().replace("_", "")`
def cleanNumeral (text : String) : List Char := (strip text).filter (· != '_')

-- `Decimal(text)`, for the texts of finite numbers.
def decimal (text : String) : Except PyError ℚ :=
  match DecimalText.parse (cleanNumeral text) with
  | some value => .ok value
  | none => .error .invalidOperation

end DualSleeve
