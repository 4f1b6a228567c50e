import DualSleeve.Execution.SleeveBTestnetLoop.SentCaps

namespace DualSleeve

open Library Library.Grid Library.Significant

variable {σ : Type} {config : SleeveBAutoLoopConfig} {allocator : SleeveBExecutionAllocatorConfig}
  {candidate : SleeveBSignalCandidate} {account : AccountSnapshotV3}
  {positions : List ExchangePositionSnapshot} {filters : SymbolFilters}

-- Not worse than the entry price of the signal, and not yet at its stop.
def Brackets (candidate : SleeveBSignalCandidate) (price : ℚ) : Prop :=
  match candidate.side with
  | .long => candidate.stopPrice < price ∧ price ≤ candidate.entryPrice
  | .short => candidate.entryPrice ≤ price ∧ price < candidate.stopPrice

def BracketedOrder (candidate : SleeveBSignalCandidate) (order : OrderRecord) : Prop :=
  ∃ price, order.intent.price = some price ∧ Brackets candidate price

section Bracket

variable [DecimalContext]

-- There is a tick for the order. LONG: the limit price reaches one above the stop, and none
-- above the entry price; SHORT: one not below the entry price, and none at or beyond the stop.
def TickInBracket (config : SleeveBAutoLoopConfig) (candidate : SleeveBSignalCandidate)
    (filters : SymbolFilters) : Prop :=
  let limit := entryLimitPrice candidate config.limitPriceOffsetBps
  match candidate.side with
  | .long => (∃ tick, Reaches limit filters.tickSize tick ∧ candidate.stopPrice < tick) ∧
      ¬∃ tick, Reaches limit filters.tickSize tick ∧ candidate.entryPrice < tick
  | .short => (∃ tick, Reaches limit filters.tickSize tick ∧ candidate.entryPrice ≤ tick) ∧
      ¬∃ tick, Reaches limit filters.tickSize tick ∧ candidate.stopPrice ≤ tick

theorem brackets_limitPrice_iff (hentry : 0 < candidate.entryPrice) (htick : 0 < filters.tickSize)
    (hoffset : 0 ≤ config.limitPriceOffsetBps) (hbelow : config.limitPriceOffsetBps < 10000) :
    Brackets candidate (config.limitPrice candidate filters) ↔ TickInBracket config candidate filters := by
  have hlimit : 0 ≤ entryLimitPrice candidate config.limitPriceOffsetBps :=
    SleeveBAutoLoopConfig.entryLimitPrice_nonneg hentry hoffset hbelow
  unfold Brackets TickInBracket SleeveBAutoLoopConfig.limitPrice
  cases candidate.side with
  | long =>
    dsimp only
    rw [lt_floored_iff htick hlimit, ← not_lt, lt_floored_iff htick hlimit]
  | short =>
    dsimp only
    rw [le_floored_iff htick hlimit, ← not_le, le_floored_iff htick hlimit]

-- The order that is sent is bracketed exactly when there is a tick for it.
theorem sentOrder_bracketed_iff {router : OrderRouter σ} {world : World σ} {order : OrderRecord}
    {decision : SleeveBAllocationDecision} (hentry : 0 < candidate.entryPrice)
    (htick : 0 < filters.tickSize) (hstep : 0 < filters.stepSize)
    (hoffset : 0 ≤ config.limitPriceOffsetBps) (hbelow : config.limitPriceOffsetBps < 10000)
    (hallocate : allocator.allocate candidate account positions filters = .ok decision)
    (haccepted : decision.accepted = true)
    (hf : (router.exchange.getSymbolFilters candidate.symbol world.outside).1 = .ok filters)
    (hsent : sentOrders (router.route (config.allocationToIntent candidate decision) world).2.calls =
      sentOrders world.calls ++ [order]) :
    BracketedOrder candidate order ↔ TickInBracket config candidate filters := by
  obtain ⟨-, -, -, hprice⟩ := sent_of_accepted hentry htick hstep hallocate haccepted hf hsent
  rw [← brackets_limitPrice_iff hentry htick hoffset hbelow, BracketedOrder, hprice]
  simp only [Option.some.injEq, exists_eq_left']

end Bracket

section Exact

open scoped ExactDecimals

-- In exact arithmetic these are the multiples of the tick; none is above a LONG entry price.
theorem tickInBracket_iff_multiples (hentry : 0 < candidate.entryPrice) (htick : 0 < filters.tickSize)
    (hoffset : 0 ≤ config.limitPriceOffsetBps) :
    TickInBracket config candidate filters ↔
      match candidate.side with
      | .long => ∃ tick, OnGrid tick filters.tickSize ∧
          tick ≤ candidate.entryPrice * (1 - config.limitPriceOffsetBps / 10000) ∧ candidate.stopPrice < tick
      | .short =>
          (∃ tick, OnGrid tick filters.tickSize ∧
            tick ≤ candidate.entryPrice * (1 + config.limitPriceOffsetBps / 10000) ∧
              candidate.entryPrice ≤ tick) ∧
          ¬∃ tick, OnGrid tick filters.tickSize ∧
            tick ≤ candidate.entryPrice * (1 + config.limitPriceOffsetBps / 10000) ∧
              candidate.stopPrice ≤ tick := by
  unfold TickInBracket
  simp only [ExactDecimals.reaches_iff htick, and_assoc]
  cases hs : candidate.side with
  | long =>
    have hlimit : entryLimitPrice candidate config.limitPriceOffsetBps =
        candidate.entryPrice * (1 - config.limitPriceOffsetBps / 10000) := by
      rw [entryLimitPrice, hs]
      rfl
    have hbetter : ¬∃ tick, OnGrid tick filters.tickSize ∧
        tick ≤ entryLimitPrice candidate config.limitPriceOffsetBps ∧ candidate.entryPrice < tick := by
      rintro ⟨tick, -, hle, hlt⟩
      exact absurd (hle.trans (SleeveBAutoLoopConfig.entryLimitPrice_le rfl hentry hs hoffset)) (not_le.mpr hlt)
    dsimp only
    rw [and_iff_left hbetter, hlimit]
  | short =>
    have hlimit : entryLimitPrice candidate config.limitPriceOffsetBps =
        candidate.entryPrice * (1 + config.limitPriceOffsetBps / 10000) := by
      rw [entryLimitPrice, hs]
      rfl
    rw [hlimit]

end Exact

section Default

open scoped DefaultContext

-- Nor is one where the tick is a power of ten and the entry price has no more digits than
-- are kept.
theorem reached_le_entryPrice (hentry : 0 < candidate.entryPrice) (hside : candidate.side = .long)
    (hdigits : defaultContext.Representable candidate.entryPrice) {place : ℤ}
    (htick : filters.tickSize = 10 ^ place) (hoffset : 0 ≤ config.limitPriceOffsetBps)
    (hbelow : config.limitPriceOffsetBps < 10000) {tick : ℚ}
    (h : Reaches (entryLimitPrice candidate config.limitPriceOffsetBps) filters.tickSize tick) :
    tick ≤ candidate.entryPrice := by
  have hpos : (0 : ℚ) < 10 ^ place := zpow_pos (by norm_num) place
  have hlimit : 0 ≤ entryLimitPrice candidate config.limitPriceOffsetBps :=
    SleeveBAutoLoopConfig.entryLimitPrice_nonneg hentry hoffset hbelow
  have hbetter : entryLimitPrice candidate config.limitPriceOffsetBps ≤ candidate.entryPrice :=
    SleeveBAutoLoopConfig.entryLimitPrice_le (Format.round_eq_self hdigits hentry.le) hentry hside hoffset
  rw [htick] at h
  have hreached := le_floored_of_reaches hpos h
  rcases hlimit.eq_or_lt with hzero | hlimitPos
  · rw [← hzero] at hreached
    exact (hreached.trans (floored_nonpos hpos le_rfl)).trans hentry.le
  · have hrepresentable : defaultContext.Representable (entryLimitPrice candidate config.limitPriceOffsetBps) := by
      unfold entryLimitPrice at hlimitPos ⊢
      rw [hside] at hlimitPos ⊢
      exact representable_rounded hlimitPos
    rw [floored_power hlimit hrepresentable] at hreached
    exact (hreached.trans (truncateTo_le hpos hlimit)).trans hbetter

theorem sentOrder_bracketed_sample :
    ∃ order, sampleSent (sampleCandidate "BTCUSDT") = [order] ∧
      BracketedOrder (sampleCandidate "BTCUSDT") order := by
  have hlength : (sampleSent (sampleCandidate "BTCUSDT")).length = 1 := by decide +kernel
  obtain ⟨order, hsent⟩ := List.length_eq_one_iff.mp hlength
  have hallocate : SleeveBExecutionAllocatorConfig.allocate {} (sampleCandidate "BTCUSDT")
      sampleAnswers.account [] (marketFilters "BTCUSDT") = .ok (sampleDecision (sampleCandidate "BTCUSDT")) := by
    decide +kernel
  have hoffset : (0 : ℚ) ≤ SleeveBAutoLoopConfig.limitPriceOffsetBps {} := by decide +kernel
  have hbelow : SleeveBAutoLoopConfig.limitPriceOffsetBps {} < 10000 := by decide +kernel
  have hdigits : defaultContext.Representable (sampleCandidate "BTCUSDT").entryPrice :=
    ⟨100, 0, by decide, by norm_num [sampleCandidate]⟩
  have htick : (marketFilters "BTCUSDT").tickSize = 10 ^ (-1 : ℤ) := by decide +kernel
  have hbracket : TickInBracket {} (sampleCandidate "BTCUSDT") (marketFilters "BTCUSDT") := by
    refine ⟨⟨999 / 10, ⟨999, ?_, ?_⟩, ?_⟩, ?_⟩
    · decide +kernel
    · decide +kernel
    · decide +kernel
    · rintro ⟨tick, hreached, habove⟩
      exact absurd (reached_le_entryPrice (by decide +kernel) rfl hdigits htick hoffset hbelow hreached)
        (not_le.mpr habove)
  exact ⟨order, hsent, (sentOrder_bracketed_iff (by decide +kernel) (by decide +kernel) (by decide +kernel)
    hoffset hbelow hallocate rfl (sampleRouter_filters _) hsent).mpr hbracket⟩

-- The offset of a SHORT order is lost in the rounding, and the offset of a LONG one takes its
-- price below the stop.
def roundedShort : SleeveBSignalCandidate := ⟨"BTCUSDT", .short, 10004 / 100, 105, "auto-breakdown"⟩

def tightLong : SleeveBSignalCandidate := ⟨"BTCUSDT", .long, 100, 9996 / 100, "auto-breakout"⟩

theorem not_bracketed_of_price {price : ℚ} {order : OrderRecord} (hprice : order.intent.price = some price)
    (h : ¬Brackets candidate price) : ¬BracketedOrder candidate order := by
  intro hbracketed
  obtain ⟨other, hother, hbrackets⟩ := hbracketed
  obtain rfl := Option.some.inj (hprice.symm.trans hother)
  exact h hbrackets

theorem sentOrder_leaves_bracket :
    (OnLosingSide roundedShort ∧
      SleeveBExecutionAllocatorConfig.allocate {} roundedShort sampleAnswers.account []
        (marketFilters "BTCUSDT") = .ok (sampleDecision roundedShort) ∧
      ∃ order, sampleSent roundedShort = [order] ∧ ¬BracketedOrder roundedShort order) ∧
    OnLosingSide tightLong ∧
      SleeveBExecutionAllocatorConfig.allocate {} tightLong sampleAnswers.account []
        (marketFilters "BTCUSDT") = .ok (sampleDecision tightLong) ∧
      ∃ order, sampleSent tightLong = [order] ∧ ¬BracketedOrder tightLong order := by
  have hshortSide : (10004 / 100 : ℚ) < 105 := by norm_num
  have hlongSide : (9996 / 100 : ℚ) < 100 := by norm_num
  have hshort : (sampleSent roundedShort).map (·.intent.price) = [some 100] := by decide +kernel
  have hlong : (sampleSent tightLong).map (·.intent.price) = [some (999 / 10)] := by decide +kernel
  refine ⟨⟨hshortSide, by decide +kernel, ?_⟩, hlongSide, by decide +kernel, ?_⟩
  · obtain ⟨order, hsent, hprice⟩ := List.map_eq_singleton_iff.mp hshort
    refine ⟨order, hsent, not_bracketed_of_price hprice ?_⟩
    intro h
    exact absurd h.1 (by decide +kernel)
  · obtain ⟨order, hsent, hprice⟩ := List.map_eq_singleton_iff.mp hlong
    refine ⟨order, hsent, not_bracketed_of_price hprice ?_⟩
    intro h
    exact absurd h.1 (by decide +kernel)

end Default

end DualSleeve
