import DualSleeve.Exchange.BinanceRest.FiltersCache
import DualSleeve.Exchange.Filters
import DualSleeve.Library.DecimalNumeral

namespace DualSleeve

open Library Library.DecimalNumeral

-- `Decimal(text) == x` for the text written of a decimal `x`, as `str(x)` and `format(x, "f")`.
def WritesDecimals (text : ℚ → String) : Prop := ∀ x, IsDecimal x → decimal (text x) = .ok x

-- What is read of a text is a decimal.
theorem isDecimal_of_decimal {text : String} {x : ℚ} (h : decimal text = .ok x) : IsDecimal x := by
  unfold decimal at h
  split at h
  · rename_i hparse
    cases h
    exact isDecimal_parse hparse
  · cases h

theorem cleanNumeral_fixed (coefficient : ℤ) (places : ℕ) :
    cleanNumeral (String.ofList (fixed coefficient places)) = fixed coefficient places := by
  have hplain : ∀ c ∈ fixed coefficient places, c.isWhitespace = false ∧ (c != '_') = true := by
    intro c hc
    rcases mem_fixed hc with hdigit | rfl | rfl
    · have hrange : 48 ≤ c.toNat ∧ c.toNat ≤ 57 := by
        simp only [Char.isDigit, Bool.and_eq_true, decide_eq_true_eq, UInt32.le_iff_toNat_le, ge_iff_le] at hdigit
        exact hdigit
      constructor
      · by_contra hspace
        rw [Bool.not_eq_false, Char.isWhitespace, Bool.or_eq_true, Bool.or_eq_true, Bool.or_eq_true] at hspace
        rcases hspace with ((h | h) | h) | h
        all_goals
          rw [decide_eq_true_eq] at h
          subst h
          exact absurd hrange.1 (by decide)
      · rw [bne_iff_ne]
        rintro rfl
        exact absurd hrange.2 (by decide)
    · exact ⟨rfl, rfl⟩
    · exact ⟨rfl, rfl⟩
  have hkept : ∀ cs : List Char, (∀ c ∈ cs, c.isWhitespace = false) → cs.dropWhile Char.isWhitespace = cs := by
    intro cs hcs
    cases cs with
    | nil => rfl
    | cons c cs => rw [List.dropWhile_cons, hcs c List.mem_cons_self, if_neg Bool.false_ne_true]
  unfold cleanNumeral strip
  dsimp only
  rw [String.toList_ofList, hkept _ fun c hc => (hplain c hc).1,
    hkept _ fun c hc => (hplain c (List.mem_reverse.mp hc)).1, List.reverse_reverse,
    List.filter_eq_self.mpr fun c hc => (hplain c hc).2]

-- The shortest numerals are read as what they were written of.
theorem writesDecimals_shortest : WritesDecimals fun x => String.ofList (shortest x) := by
  intro x hx
  unfold decimal shortest
  dsimp only
  rw [cleanNumeral_fixed, parse_fixed, ← shortest_of_isDecimal hx]

theorem isDecimal_optionalDecimal {value : Option JsonScalar} {read : Option ℚ}
    (h : BinanceRest.optionalDecimal value = .ok read) : ∀ x ∈ read, IsDecimal x := by
  cases value with
  | none =>
    cases h
    simp
  | some value =>
    obtain ⟨number, hnumber, rfl⟩ := Raise.map_eq_ok.mp h
    intro x hx
    cases hx
    exact isDecimal_of_decimal hnumber

-- The steps that quantities and prices are multiples of.
structure SymbolFilters.Decimal (filters : SymbolFilters) : Prop where
  tickSize : IsDecimal filters.tickSize
  stepSize : IsDecimal filters.stepSize

structure OrderIntent.Decimal (intent : OrderIntent) : Prop where
  quantity : IsDecimal intent.quantity
  price : ∀ price ∈ intent.price, IsDecimal price

structure OrderRecord.Decimal (order : OrderRecord) : Prop where
  intent : order.intent.Decimal
  filledQuantity : IsDecimal order.filledQuantity
  averageFillPrice : ∀ price ∈ order.averageFillPrice, IsDecimal price

structure ExchangeOrderSnapshot.Decimal (snapshot : ExchangeOrderSnapshot) : Prop where
  executedQuantity : IsDecimal snapshot.executedQuantity
  averagePrice : ∀ price ∈ snapshot.averagePrice, IsDecimal price

section Normalized

variable [DecimalContext]

theorem isDecimal_floorToStep {value step result : ℚ} (hstep : IsDecimal step)
    (h : floorToStep value step = .ok result) : IsDecimal result := by
  obtain ⟨-, rfl⟩ := floorToStep_eq_ok.mp h
  exact isDecimal_rounded ((isDecimal_intCast _).mul hstep)

-- A multiple of a decimal step is a decimal, whatever was asked for.
theorem decimal_of_normalized {intent normalized : OrderIntent} {filters : SymbolFilters}
    (hfilters : filters.Decimal) (h : normalizeOrderIntent intent filters = .ok normalized) :
    normalized.Decimal := by
  obtain ⟨quantity, hquantity, h⟩ := Raise.bind_eq_ok.mp h
  obtain ⟨price, hprice, h⟩ := Raise.bind_eq_ok.mp h
  obtain ⟨_, _, h⟩ := Raise.bind_eq_ok.mp h
  cases h
  refine ⟨isDecimal_floorToStep hfilters.stepSize hquantity, ?_⟩
  intro rounded hrounded
  cases hgiven : intent.price with
  | none =>
    rw [hgiven] at hprice
    cases hprice
    cases hrounded
  | some given =>
    rw [hgiven] at hprice
    obtain ⟨floored, hfloored, rfl⟩ := Raise.map_eq_ok.mp hprice
    cases hrounded
    exact isDecimal_floorToStep hfilters.tickSize hfloored

end Normalized

namespace BinanceRest

variable {state : RestState} {order reply : OrderRecord}

theorem decimal_of_parsed {info : SymbolInfo} {filters : SymbolFilters}
    (h : parseSymbolFilters info = .ok (some filters)) : filters.Decimal := by
  unfold parseSymbolFilters at h
  split at h
  · split at h
    · cases h
    · obtain ⟨tickSize, htick, h⟩ := Raise.bind_eq_ok.mp h
      obtain ⟨stepSize, hstep, h⟩ := Raise.bind_eq_ok.mp h
      obtain ⟨minNotional, _, h⟩ := Raise.bind_eq_ok.mp h
      cases h
      exact ⟨isDecimal_of_decimal htick, isDecimal_of_decimal hstep⟩
  · cases h

-- All filters that were ever parsed.
def CacheDecimal (state : RestState) : Prop := ∀ entry ∈ state.filtersCache, entry.2.Decimal

theorem cacheDecimal_of_parsed {symbols : List SymbolInfo} {filters : List (String × SymbolFilters)}
    (h : parseSymbols symbols = .ok filters) : ∀ entry ∈ filters, entry.2.Decimal := by
  refine Raise.foldlM_keeps (P := fun filters => ∀ entry ∈ filters, entry.2.Decimal) ?_ (by simp) h
  intro filters info next hfilters hnext
  obtain ⟨parsed, hparsed, hnext⟩ := Raise.bind_eq_ok.mp hnext
  cases parsed with
  | none =>
    cases hnext
    exact hfilters
  | some parsed =>
    cases hnext
    exact List.forall_mem_cons.mpr ⟨decimal_of_parsed hparsed, hfilters⟩

theorem decimal_of_loaded {info : Except PyError HttpResponse} {filters : List (String × SymbolFilters)}
    (h : loaded info = .ok filters) : ∀ entry ∈ filters, entry.2.Decimal := by
  obtain ⟨payload, -, hparsed⟩ := Raise.bind_eq_ok.mp h
  exact cacheDecimal_of_parsed hparsed

theorem mem_of_lookup {filters : List (String × SymbolFilters)} {symbol : String} {found : SymbolFilters}
    (h : filters.lookup symbol = some found) : (symbol, found) ∈ filters := by
  obtain ⟨before, after, rfl, -⟩ := List.lookup_eq_some_iff.mp h
  simp

-- Cached or fresh, filters are decimals.
theorem getSymbolFilters_decimal (h : CacheDecimal state) (symbol : String) :
    CacheDecimal (getSymbolFilters symbol state).2 ∧
      ∀ filters, (getSymbolFilters symbol state).1 = .ok filters → filters.Decimal := by
  rw [getSymbolFilters_eq]
  cases hcached : state.filtersCache.lookup symbol with
  | some filters =>
    refine ⟨h, ?_⟩
    intro found hfound
    cases hfound
    exact h _ (mem_of_lookup hcached)
  | none =>
    cases hloaded : loaded (state.transport exchangeInfo) with
    | error exc =>
      refine ⟨h, ?_⟩
      intro found hfound
      rw [freshFilters, hloaded] at hfound
      cases hfound
    | ok filters =>
      have hfilters := decimal_of_loaded hloaded
      refine ⟨hfilters, ?_⟩
      intro found hfound
      rw [freshFilters, hloaded, Raise.ok_bind] at hfound
      cases hlookup : filters.lookup symbol with
      | none =>
        rw [hlookup] at hfound
        cases hfound
      | some given =>
        rw [hlookup] at hfound
        cases hfound
        exact hfilters _ (mem_of_lookup hlookup)

-- An answer to an order fills it by decimals.
theorem decimal_of_applied {payload : Payload} (horder : order.Decimal)
    (h : applyExchangeOrderPayload order payload = .ok reply) : reply.Decimal := by
  unfold applyExchangeOrderPayload at h
  split at h
  · obtain ⟨executedQty, hexecuted, h⟩ := Raise.bind_eq_ok.mp h
    obtain ⟨avgPrice, havg, h⟩ := Raise.bind_eq_ok.mp h
    cases h
    refine ⟨horder.intent, ?_, ?_⟩
    · cases executedQty with
      | none => exact horder.filledQuantity
      | some executed => exact isDecimal_optionalDecimal hexecuted executed rfl
    · cases avgPrice with
      | none => exact horder.averageFillPrice
      | some price => exact isDecimal_optionalDecimal havg
  · cases h

theorem submitOrder_decimal (horder : order.Decimal) (h : (submitOrder order state).1 = .ok reply) :
    reply.Decimal := by
  obtain ⟨fields, -, happlied⟩ := submitOrder_eq_ok.mp h
  exact decimal_of_applied horder happlied

theorem queryOrder_decimal {symbol clientOrderId : String} {snapshot : ExchangeOrderSnapshot}
    (h : (queryOrder symbol clientOrderId state).1 = .ok (some snapshot)) : snapshot.Decimal := by
  have hquery : queryOrder symbol clientOrderId state = (.ok (some snapshot), state) :=
    Prod.ext h (queryOrder_state symbol clientOrderId)
  obtain ⟨⟨fields, -, hparsed⟩, -⟩ := queryOrder_eq_ok.mp hquery
  obtain ⟨averagePrice, haverage, hparsed⟩ := Raise.bind_eq_ok.mp hparsed
  obtain ⟨executedQuantity, hexecuted, hparsed⟩ := Raise.bind_eq_ok.mp hparsed
  cases hparsed
  exact ⟨isDecimal_of_decimal hexecuted, isDecimal_optionalDecimal haverage⟩

end BinanceRest

end DualSleeve
