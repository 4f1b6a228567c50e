import DualSleeve.Execution.OrderRouter

namespace DualSleeve

open Library

variable {σ : Type}

namespace OrderRouter

theorem not_admits_of_blocked {safeMode : SafeModeController} {intent : OrderIntent}
    (hentry : intent.action = .entry) (hsafe : safeMode.allowsNewEntries = false) :
    ¬Admits safeMode intent := by
  intro h
  cases (h.1 hentry).symm.trans hsafe

theorem not_admits_of_notReduceOnly {safeMode : SafeModeController} {intent : OrderIntent}
    (hclose : intent.action ≠ .entry) (hreduce : intent.reduceOnly = false) :
    ¬Admits safeMode intent := by
  intro h
  cases (h.2 hclose).symm.trans hreduce

theorem transition_newOrder (normalized : OrderIntent) (now : DateTime) :
    OrderStateMachine.transition (newOrder normalized now) .submitted =
      .ok (submittedOrder normalized now) :=
  OrderStateMachine.transition_of_mem (by simp [newOrder, allowedTransitions])

theorem mode_eq_or_of_ne {mode : TradingMode} (h : mode ≠ .signalOnly) :
    (decide (mode = .paperLocal) || decide (mode = .exchangeTestnet)) = true := by
  cases mode with
  | signalOnly => exact absurd rfl h
  | paperLocal => rfl
  | exchangeTestnet => rfl

variable [DecimalContext]

-- Everything a call of `route` can do.
inductive Routed (router : OrderRouter σ) (intent : OrderIntent) (world : World σ) :
    Except PyError RouteResult → World σ → Prop
  | blocked (hentry : intent.action = .entry) (hsafe : world.safeMode.allowsNewEntries = false) :
      Routed router intent world (.ok ⟨false, none, .safeModeBlocksNewEntries⟩) world
  | notReduceOnly (hclose : intent.action ≠ .entry) (hreduce : intent.reduceOnly = false) :
      Routed router intent world (.ok ⟨false, none, .closeOrderMustBeReduceOnly⟩) world
  | noFilters (hgate : Admits world.safeMode intent) (exc : PyError) (outside : σ)
      (hfilters : router.exchange.getSymbolFilters intent.symbol world.outside = (.error exc, outside)) :
      Routed router intent world (.error exc) (world.after (.getSymbolFilters intent.symbol) outside)
  | filtered (hgate : Admits world.safeMode intent) (filters : SymbolFilters) (outside : σ)
      (hfilters : router.exchange.getSymbolFilters intent.symbol world.outside = (.ok filters, outside))
      (exc : PyError) (hnormal : normalizeOrderIntent intent filters = .error exc) :
      Routed router intent world (.error exc) (world.after (.getSymbolFilters intent.symbol) outside)
  | signalOnly (hgate : Admits world.safeMode intent) (filters : SymbolFilters) (outside : σ)
      (hfilters : router.exchange.getSymbolFilters intent.symbol world.outside = (.ok filters, outside))
      (normalized : OrderIntent) (hnormal : normalizeOrderIntent intent filters = .ok normalized)
      (hmode : router.mode = .signalOnly) :
      Routed router intent world
        (.ok ⟨true, some (newOrder normalized (router.now outside)), .signalOnlyNoSubmit⟩)
        (world.after (.getSymbolFilters intent.symbol) outside)
  | submitRaised (hgate : Admits world.safeMode intent) (filters : SymbolFilters) (outside : σ)
      (hfilters : router.exchange.getSymbolFilters intent.symbol world.outside = (.ok filters, outside))
      (normalized : OrderIntent) (hnormal : normalizeOrderIntent intent filters = .ok normalized)
      (hmode : router.mode ≠ .signalOnly) (exc : PyError) (final : σ)
      (hsubmit : router.exchange.submitOrder (submittedOrder normalized (router.now outside)) outside =
        (.error exc, final)) :
      Routed router intent world (.error exc)
        ((world.after (.getSymbolFilters intent.symbol) outside).after
          (.submitOrder (submittedOrder normalized (router.now outside))) final)
  | submitted (hgate : Admits world.safeMode intent) (filters : SymbolFilters) (outside : σ)
      (hfilters : router.exchange.getSymbolFilters intent.symbol world.outside = (.ok filters, outside))
      (normalized : OrderIntent) (hnormal : normalizeOrderIntent intent filters = .ok normalized)
      (hmode : router.mode ≠ .signalOnly) (order : OrderRecord) (final : σ)
      (hsubmit : router.exchange.submitOrder (submittedOrder normalized (router.now outside)) outside =
        (.ok order, final)) :
      Routed router intent world (.ok ⟨true, some order, .submittedToSimOrTestnet⟩)
        ((world.after (.getSymbolFilters intent.symbol) outside).after
          (.submitOrder (submittedOrder normalized (router.now outside))) final)

theorem route_routed (router : OrderRouter σ) (intent : OrderIntent) (world : World σ) :
    Routed router intent world (router.route intent world).1 (router.route intent world).2 := by
  unfold route
  rw [Program.get_bind]
  split
  · rename_i hblocked
    simp only [Bool.and_eq_true, Bool.not_eq_true', decide_eq_true_eq] at hblocked
    exact .blocked hblocked.2 hblocked.1
  rename_i hblocked
  split
  · rename_i hclose
    simp only [Bool.and_eq_true, Bool.not_eq_true', decide_eq_true_eq] at hclose
    exact .notReduceOnly hclose.1 hclose.2
  rename_i hclose
  have hgate : Admits world.safeMode intent := by
    simp only [Bool.and_eq_true, Bool.not_eq_true', decide_eq_true_eq, not_and,
      Bool.not_eq_false] at hblocked hclose
    exact ⟨fun he => by_contra fun hs => hblocked (by simpa using hs) he, hclose⟩
  cases hf : router.exchange.getSymbolFilters intent.symbol world.outside with
  | mk answer outside =>
    cases answer with
    | error exc =>
      rw [Program.bind_of_error (remote_of_eq hf)]
      exact .noFilters hgate exc outside hf
    | ok filters =>
      rw [Program.bind_of_ok (remote_of_eq hf)]
      cases hn : normalizeOrderIntent intent filters with
      | error exc => exact .filtered hgate filters outside hf exc hn
      | ok normalized =>
        rw [Program.ofExcept_ok_bind, Program.get_bind]
        by_cases hm : router.mode = .signalOnly
        · rw [if_pos hm]
          exact .signalOnly hgate filters outside hf normalized hn hm
        · rw [if_neg hm, if_pos (mode_eq_or_of_ne hm), transition_newOrder, Program.ofExcept_ok_bind]
          cases hs : router.exchange.submitOrder (submittedOrder normalized (router.now outside)) outside with
          | mk answer final =>
            cases answer with
            | error exc =>
              rw [Program.bind_of_error (remote_of_eq hs)]
              exact .submitRaised hgate filters outside hf normalized hn hm exc final hs
            | ok order =>
              rw [Program.bind_of_ok (remote_of_eq hs)]
              exact .submitted hgate filters outside hf normalized hn hm order final hs

-- One call hands over one order at most: the normalised intent at the time of the call.
theorem Routed.sentOrders_eq {router : OrderRouter σ} {intent : OrderIntent} {world after : World σ}
    {outcome : Except PyError RouteResult} (h : Routed router intent world outcome after) :
    sentOrders after.calls = sentOrders world.calls ∨
      ∃ filters outside normalized,
        router.exchange.getSymbolFilters intent.symbol world.outside = (.ok filters, outside) ∧
        normalizeOrderIntent intent filters = .ok normalized ∧
        sentOrders after.calls = sentOrders world.calls ++ [submittedOrder normalized (router.now outside)] := by
  cases h with
  | blocked => exact Or.inl rfl
  | notReduceOnly => exact Or.inl rfl
  | noFilters => exact Or.inl (by simp [sentOrders])
  | filtered => exact Or.inl (by simp [sentOrders])
  | signalOnly => exact Or.inl (by simp [sentOrders])
  | submitRaised _ filters outside hfilters normalized hnormal =>
    exact Or.inr ⟨filters, outside, normalized, hfilters, hnormal, by simp [sentOrders]⟩
  | submitted _ filters outside hfilters normalized hnormal =>
    exact Or.inr ⟨filters, outside, normalized, hfilters, hnormal, by simp [sentOrders]⟩

end OrderRouter

end DualSleeve
