import DualSleeve.Core.Models
import DualSleeve.Library.Program

namespace DualSleeve

open Library

-- A call of the exchange, over whatever it remembers.
abbrev Remote (σ α : Type) := Program σ PyError α

-- What a call comes to is read off either way.
theorem outcome_eq {σ α : Type} {call : Remote σ α} {before after : σ} {outcome expected : Except PyError α}
    (h : call before = (outcome, after)) (he : (call before).1 = expected) : outcome = expected := by
  rw [← he, h]

structure ExchangeAdapter (σ : Type) where
  getSymbolFilters : String → Remote σ SymbolFilters
  submitOrder : OrderRecord → Remote σ OrderRecord
  cancelOrder : String → String → Remote σ (Option OrderRecord)
  fetchOpenOrders : Remote σ (List OrderRecord)

end DualSleeve
