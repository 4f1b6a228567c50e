import DualSleeve.Exchange.BinanceRest.Account
import DualSleeve.Exchange.BinanceRest.Theorems
import DualSleeve.Library.Run

namespace DualSleeve

open Library

-- A call of the adapter, or the exchange answers differently from here on.
inductive RestEvent where
  | exchange (transport : HttpRequest → Except PyError HttpResponse)
  | getSymbolFilters (symbol : String)
  | submitOrder (order : OrderRecord)
  | cancelOrder (clientOrderId symbol : String)
  | fetchOpenOrders
  | queryOrder (symbol clientOrderId : String)
  | fetchAccountSnapshot
  | fetchPositionSnapshots (symbol : Option String)
  | fetchMarkPrice (symbol : String)
  | fetchKlines (symbol interval : String) (limit : ℤ)

def exchangeInfo : HttpRequest := { method := "GET", path := "/fapi/v1/exchangeInfo" }

-- The exchange keeps its answer about the symbols.
def RestEvent.KeepsInfo (info : Except PyError HttpResponse) : RestEvent → Prop
  | .exchange transport => transport exchangeInfo = info
  | _ => True

namespace BinanceRest

def restStep (state : RestState) : RestEvent → RestState
  | .exchange transport => { state with transport }
  | .getSymbolFilters symbol => (getSymbolFilters symbol state).2
  | .submitOrder order => (submitOrder order state).2
  | .cancelOrder clientOrderId symbol => (cancelOrder clientOrderId symbol state).2
  | .fetchOpenOrders => (fetchOpenOrders state).2
  | .queryOrder symbol clientOrderId => (queryOrder symbol clientOrderId state).2
  | .fetchAccountSnapshot => (fetchAccountSnapshot state).2
  | .fetchPositionSnapshots symbol => (fetchPositionSnapshots symbol state).2
  | .fetchMarkPrice symbol => (fetchMarkPrice symbol state).2
  | .fetchKlines symbol interval limit => (fetchKlines symbol interval limit state).2

-- A response, read as `_request` reads it.
def read (info : Except PyError HttpResponse) : Except PyError Payload := do
  let response ← info
  if 400 ≤ response.statusCode then
    .error (.binanceApiError
      ("Binance API error " ++ toString response.statusCode ++ ": " ++ response.text))
  else
    response.json

-- The cache that an answer about the symbols makes.
def loaded (info : Except PyError HttpResponse) : Except PyError (List (String × SymbolFilters)) := do
  let payload ← read info
  parseSymbols (match payload with
    | .exchangeInfo symbols => symbols
    | _ => [])

-- What an adapter without a cache would answer about a symbol.
def freshFilters (info : Except PyError HttpResponse) (symbol : String) : Except PyError SymbolFilters := do
  let filters ← loaded info
  match filters.lookup symbol with
  | some filters => return filters
  | none => .error (.binanceApiError ("symbol not found in exchangeInfo: " ++ symbol))

theorem request_eq (method path : String) (params : List (String × FieldValue)) (state : RestState) :
    request method path params state = (read (state.transport { method, path, params }), state) := by
  unfold request read
  rw [Program.get_bind]
  cases state.transport { method, path, params } with
  | error exc => rfl
  | ok response =>
    rw [Program.ofExcept_ok_bind, Raise.ok_bind]
    split <;> rfl

theorem loadExchangeInfo_eq (state : RestState) :
    loadExchangeInfo state = match loaded (state.transport exchangeInfo) with
      | .ok filters => (.ok (), { state with filtersCache := filters })
      | .error exc => (.error exc, state) := by
  have hrequest := request_eq "GET" "/fapi/v1/exchangeInfo" [] state
  unfold loadExchangeInfo loaded
  change _ = (read (state.transport exchangeInfo), state) at hrequest
  cases hread : read (state.transport exchangeInfo) with
  | error exc =>
    rw [hread] at hrequest
    rw [Program.bind_of_error hrequest]
    rfl
  | ok payload =>
    rw [hread] at hrequest
    rw [Program.bind_of_ok hrequest, Raise.ok_bind]
    cases parseSymbols _ with
    | error exc => rfl
    | ok filters => rfl

-- An answer from the cache, or a fresh one.
theorem getSymbolFilters_eq (symbol : String) (state : RestState) :
    getSymbolFilters symbol state = match state.filtersCache.lookup symbol with
      | some filters => (.ok filters, state)
      | none => (freshFilters (state.transport exchangeInfo) symbol,
          match loaded (state.transport exchangeInfo) with
          | .ok filters => { state with filtersCache := filters }
          | .error _ => state) := by
  unfold getSymbolFilters freshFilters
  rw [Program.get_bind]
  cases hcached : state.filtersCache.lookup symbol with
  | some filters =>
    rw [Option.isNone_some, if_neg Bool.false_ne_true]
    dsimp only
    rw [Program.get_bind, hcached]
    rfl
  | none =>
    rw [Option.isNone_none, if_pos rfl]
    have hload := loadExchangeInfo_eq state
    cases hloaded : loaded (state.transport exchangeInfo) with
    | error exc =>
      rw [hloaded] at hload
      rw [Program.bind_of_error hload]
      rfl
    | ok filters =>
      rw [hloaded] at hload
      rw [Program.bind_of_ok hload]
      dsimp only
      rw [Program.get_bind, Raise.ok_bind]
      dsimp only
      cases filters.lookup symbol <;> rfl

-- The cache is empty or what the exchange's answer makes.
structure CacheInvariant (info : Except PyError HttpResponse) (state : RestState) : Prop where
  answer : state.transport exchangeInfo = info
  cache : state.filtersCache = [] ∨ loaded info = .ok state.filtersCache

variable {info : Except PyError HttpResponse} {state : RestState}

theorem getSymbolFilters_fresh (h : CacheInvariant info state) (symbol : String) :
    (getSymbolFilters symbol state).1 = freshFilters info symbol := by
  rw [getSymbolFilters_eq, h.answer]
  cases hcached : state.filtersCache.lookup symbol with
  | none => rfl
  | some filters =>
    rcases h.cache with hempty | hloaded
    · rw [hempty] at hcached
      cases hcached
    · rw [freshFilters, hloaded, Raise.ok_bind, hcached]
      rfl

theorem cacheInvariant_getSymbolFilters (h : CacheInvariant info state) (symbol : String) :
    CacheInvariant info (getSymbolFilters symbol state).2 := by
  rw [getSymbolFilters_eq]
  cases state.filtersCache.lookup symbol with
  | some filters => exact h
  | none =>
    rw [h.answer]
    cases hloaded : loaded info with
    | error exc => exact h
    | ok filters => exact ⟨h.answer, .inr hloaded⟩

-- A call that asks once and works on the answer leaves the adapter as it was.
theorem request_bind_state {α : Type} {method path : String} {params : List (String × FieldValue)}
    {next : Payload → Remote RestState α} (hnext : ∀ payload, (next payload state).2 = state) :
    ((request method path params >>= next) state).2 = state := by
  have hrequest := request_eq method path params state
  cases hread : read (state.transport { method, path, params }) with
  | error exc =>
    rw [hread] at hrequest
    rw [Program.bind_of_error hrequest]
  | ok payload =>
    rw [hread] at hrequest
    rw [Program.bind_of_ok hrequest, hnext]

theorem submitOrder_state (order : OrderRecord) : (submitOrder order state).2 = state :=
  request_bind_state fun _ => rfl

theorem cancelOrder_state (clientOrderId symbol : String) : (cancelOrder clientOrderId symbol state).2 = state :=
  request_bind_state fun _ => rfl

theorem fetchOpenOrders_state : (fetchOpenOrders state).2 = state :=
  request_bind_state fun payload => by cases payload <;> rfl

theorem queryOrder_state (symbol clientOrderId : String) :
    (queryOrder symbol clientOrderId state).2 = state := by
  refine request_bind_state fun payload => ?_
  cases payload with
  | object fields =>
    dsimp only
    cases parseOrderSnapshot fields <;> rfl
  | _ => rfl

theorem fetchAccountSnapshot_state : (fetchAccountSnapshot state).2 = state :=
  request_bind_state fun payload => by cases payload <;> rfl

theorem fetchPositionSnapshots_state (symbol : Option String) :
    (fetchPositionSnapshots symbol state).2 = state :=
  request_bind_state fun payload => by cases payload <;> rfl

theorem fetchMarkPrice_state (symbol : String) : (fetchMarkPrice symbol state).2 = state :=
  request_bind_state fun payload => by cases payload <;> rfl

theorem fetchKlines_state (symbol interval : String) (limit : ℤ) :
    (fetchKlines symbol interval limit state).2 = state :=
  request_bind_state fun payload => by cases payload <;> rfl

theorem CacheInvariant.of_state {next : RestState} (h : CacheInvariant info state) (hstate : next = state) :
    CacheInvariant info next := by
  rw [hstate]
  exact h

theorem cacheInvariant_step (event : RestEvent) (h : CacheInvariant info state)
    (hkeeps : event.KeepsInfo info) : CacheInvariant info (restStep state event) := by
  cases event with
  | exchange transport => exact ⟨hkeeps, h.cache⟩
  | getSymbolFilters symbol => exact cacheInvariant_getSymbolFilters h symbol
  | submitOrder order => exact h.of_state (submitOrder_state order)
  | cancelOrder clientOrderId symbol => exact h.of_state (cancelOrder_state clientOrderId symbol)
  | fetchOpenOrders => exact h.of_state fetchOpenOrders_state
  | queryOrder symbol clientOrderId => exact h.of_state (queryOrder_state symbol clientOrderId)
  | fetchAccountSnapshot => exact h.of_state fetchAccountSnapshot_state
  | fetchPositionSnapshots symbol => exact h.of_state (fetchPositionSnapshots_state symbol)
  | fetchMarkPrice symbol => exact h.of_state (fetchMarkPrice_state symbol)
  | fetchKlines symbol interval limit => exact h.of_state (fetchKlines_state symbol interval limit)

-- Every entry of a cache is filed under its own symbol.
theorem parseSymbols_own {symbols : List SymbolInfo} {filters : List (String × SymbolFilters)}
    (h : parseSymbols symbols = .ok filters) : ∀ entry ∈ filters, entry.2.symbol = entry.1 := by
  refine Raise.foldlM_keeps (P := fun filters => ∀ entry ∈ filters, entry.2.symbol = entry.1) ?_ (by simp) h
  intro filters info next hfilters hnext
  obtain ⟨parsed, -, hparsed⟩ := Raise.bind_eq_ok.mp hnext
  cases parsed with
  | none =>
    cases hparsed
    exact hfilters
  | some parsed =>
    cases hparsed
    exact List.forall_mem_cons.mpr ⟨rfl, hfilters⟩

-- The filters of a symbol are those of this symbol.
theorem symbol_of_freshFilters {symbol : String} {filters : SymbolFilters}
    (h : freshFilters info symbol = .ok filters) : filters.symbol = symbol := by
  obtain ⟨cache, hloaded, h⟩ := Raise.bind_eq_ok.mp h
  obtain ⟨payload, -, hparsed⟩ := Raise.bind_eq_ok.mp hloaded
  cases hcached : cache.lookup symbol with
  | none =>
    rw [hcached] at h
    cases h
  | some found =>
    rw [hcached] at h
    cases h
    obtain ⟨before, after, hcache, -⟩ := List.lookup_eq_some_iff.mp hcached
    exact parseSymbols_own hparsed (symbol, filters) (by rw [hcache]; simp)

-- In every state of an adapter, whatever was called before and whatever the exchange answered
-- otherwise, a symbol's filters are what an adapter without a cache would fetch, raised errors
-- included, and they are those of the symbol that was asked for.
theorem filtersCache_transparent (transport : HttpRequest → Except PyError HttpResponse) (now : DateTime)
    (events : List RestEvent) (hinfo : ∀ event ∈ events, event.KeepsInfo (transport exchangeInfo)) :
    Run.Always restStep (fun reached => ∀ symbol,
        (getSymbolFilters symbol reached).1 =
          (getSymbolFilters symbol { reached with filtersCache := [] }).1 ∧
        ∀ filters, (getSymbolFilters symbol reached).1 = .ok filters → filters.symbol = symbol)
      { transport, now } events := by
  have hinvariant : Run.Always restStep (CacheInvariant (transport exchangeInfo)) { transport, now } events := by
    refine Run.always_of_step (fun state event h hkeeps => cacheInvariant_step event h hkeeps) ?_
      (Run.along_of_forall (fun event he _ => hinfo event he) _)
    exact ⟨rfl, .inl rfl⟩
  intro reached hreached symbol
  have h := hinvariant reached hreached
  have hempty : CacheInvariant (transport exchangeInfo) { reached with filtersCache := [] } :=
    ⟨h.answer, .inl rfl⟩
  rw [getSymbolFilters_fresh h, getSymbolFilters_fresh hempty]
  exact ⟨rfl, fun filters hfilters => symbol_of_freshFilters hfilters⟩

-- An exchange with one symbol, which goes down but for its answer about it.
def sampleInfo : Except PyError HttpResponse :=
  .ok (.ok (.exchangeInfo [⟨some "BTCUSDT", some [[("filterType", .text "LOT_SIZE"), ("stepSize", .text "0.01")]]⟩]))

def infoOnly (request : HttpRequest) : Except PyError HttpResponse :=
  if request = exchangeInfo then sampleInfo else .error (.otherError "connection refused")

theorem filtersCache_transparent_sample :
    Run.Always restStep (fun reached => ∀ symbol,
        (getSymbolFilters symbol reached).1 =
          (getSymbolFilters symbol { reached with filtersCache := [] }).1 ∧
        ∀ filters, (getSymbolFilters symbol reached).1 = .ok filters → filters.symbol = symbol)
      { transport := fun _ => sampleInfo, now := sampleClock }
      [.getSymbolFilters "BTCUSDT", .exchange infoOnly, .fetchOpenOrders, .getSymbolFilters "ETHUSDT"] := by
  refine filtersCache_transparent (fun _ => sampleInfo) sampleClock _ ?_
  simp only [List.mem_cons, List.not_mem_nil, or_false, forall_eq_or_imp, forall_eq]
  exact ⟨trivial, rfl, trivial, trivial⟩

end BinanceRest

end DualSleeve
