import DualSleeve.Core.Models
import DualSleeve.Library.Text
import Mathlib.Data.String.Basic

namespace DualSleeve

open Library.Text

-- `strftime("%Y%m%d%H%M%S")`, taken to print all fourteen digits.
def strftime (time : DateTime) : List Char :=
  paddedDigits 4 time.year ++ paddedDigits 2 time.month ++ paddedDigits 2 time.day ++
    paddedDigits 2 time.hour ++ paddedDigits 2 time.minute ++ paddedDigits 2 time.second

-- `setup_id[:8]`
def setupPrefix (setupId : String) : List Char := setupId.toList.take 8

-- `"_".join([sleeve_id.value, prefix, action.value, timestamp])`
def makeClientOrderId (sleeveId : SleeveId) (setupId : String) (action : OrderAction) (now : DateTime) :
    String :=
  String.ofList (sleeveId.value.toList ++ '_' :: setupPrefix setupId ++ '_' :: action.value.toList ++
    '_' :: strftime now)

-- `normalized.setup_id or "manual000000"`
def setupIdOrManual : Option String → String
  | none => "manual000000"
  | some setupId => if setupId = "" then "manual000000" else setupId

end DualSleeve
