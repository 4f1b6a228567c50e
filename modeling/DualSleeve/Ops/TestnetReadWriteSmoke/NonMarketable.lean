import DualSleeve.Exchange.Filters.Context
import DualSleeve.Ops.TestnetReadWriteSmoke.Cleanup

namespace DualSleeve

open Library Library.Grid Library.Significant

-- The price is further from the mark price than the margin, on the side where it waits.
def NonMarketable (config : TestnetSmokeOrderConfig) (markPrice price : ℚ) : Prop :=
  (config.side = .buy → price < markPrice * (1 - config.nonMarketableMargin)) ∧
    (config.side = .sell → markPrice * (1 + config.nonMarketableMargin) < price)

-- A tick lies above the bound of a SELL and not above its limit price.
def HasTick (config : TestnetSmokeOrderConfig) (tickSize markPrice : ℚ) : Prop :=
  ∃ tick, OnGrid tick tickSize ∧ markPrice * (1 + config.nonMarketableMargin) < tick ∧ tick ≤ config.limitPrice

section Guard

variable [DecimalContext] {config : TestnetSmokeOrderConfig} {tickSize markPrice : ℚ}

-- Nothing that the limit price of a BUY can be floored to is at its bound; something that
-- the limit price of a SELL can be floored to is beyond it.
def StaysAway (config : TestnetSmokeOrderConfig) (tickSize markPrice : ℚ) : Prop :=
  (config.side = .buy → ¬∃ price, Reaches config.limitPrice tickSize price ∧
    markPrice * (1 - config.nonMarketableMargin) ≤ price) ∧
  (config.side = .sell → ∃ price, Reaches config.limitPrice tickSize price ∧
    markPrice * (1 + config.nonMarketableMargin) < price)

-- What the guard lets through.
structure Guarded (config : TestnetSmokeOrderConfig) (markPrice : ℚ) : Prop where
  markPrice_pos : 0 < markPrice
  margin_pos : 0 < config.nonMarketableMargin
  margin_lt_one : config.nonMarketableMargin < 1
  buy : config.side = .buy → config.limitPrice < config.maxBuyPrice markPrice
  sell : config.side = .sell → config.minSellPrice markPrice < config.limitPrice

theorem guarded_of_validated (hrequired : config.requireNonMarketable = true)
    (h : config.validateNonMarketable markPrice = .ok ()) : Guarded config markPrice := by
  unfold TestnetSmokeOrderConfig.validateNonMarketable at h
  rw [if_neg (by simp [hrequired])] at h
  split_ifs at h with hmark hmargin hbuy hsell
  rw [not_le] at hmark
  exact ⟨hmark, hmargin.1, hmargin.2, fun hside => not_le.mp fun hle => hbuy ⟨hside, hle⟩,
    fun hside => not_le.mp fun hle => hsell ⟨hside, hle⟩⟩

theorem Guarded.sell_pos (h : Guarded config markPrice) (hside : config.side = .sell) : 0 < config.limitPrice := by
  have hmargin : 0 ≤ rounded (1 + config.nonMarketableMargin) :=
    rounded_nonneg (add_nonneg zero_le_one h.margin_pos.le)
  exact (rounded_nonneg (mul_nonneg h.markPrice_pos.le hmargin)).trans_lt (h.sell hside)

-- A limit price that is not positive is floored to none that is.
theorem Guarded.floored_lt_iff (h : Guarded config markPrice) (htick : 0 < tickSize) :
    floored config.limitPrice tickSize < markPrice * (1 - config.nonMarketableMargin) ↔
      ¬∃ price, Reaches config.limitPrice tickSize price ∧
        markPrice * (1 - config.nonMarketableMargin) ≤ price := by
  rcases le_total 0 config.limitPrice with hlimit | hlimit
  · rw [← le_floored_iff htick hlimit, not_le]
  · have hbound : 0 < markPrice * (1 - config.nonMarketableMargin) :=
      mul_pos h.markPrice_pos (sub_pos.mpr h.margin_lt_one)
    refine iff_of_true ((floored_nonpos htick hlimit).trans_lt hbound) ?_
    rintro ⟨price, hreaches, hle⟩
    have hprice := (le_floored_of_reaches htick hreaches).trans (floored_nonpos htick hlimit)
    exact absurd (hle.trans hprice) (not_le.mpr hbound)

theorem nonMarketable_floored_iff (h : Guarded config markPrice) (htick : 0 < tickSize) :
    NonMarketable config markPrice (floored config.limitPrice tickSize) ↔
      StaysAway config tickSize markPrice := by
  refine and_congr (imp_congr_right fun _ => h.floored_lt_iff htick) (imp_congr_right fun hside => ?_)
  exact lt_floored_iff htick (h.sell_pos hside).le

end Guard

section Power

open scoped DefaultContext

variable {config : TestnetSmokeOrderConfig} {markPrice : ℚ}

-- The rounding of the bound lets no price of few enough digits through.
theorem Guarded.buy_lt (h : Guarded config markPrice) (hside : config.side = .buy) (hlimit : 0 ≤ config.limitPrice)
    (hdigits : defaultContext.Representable config.limitPrice)
    (hmargin : defaultContext.Representable (1 - config.nonMarketableMargin)) :
    config.limitPrice < markPrice * (1 - config.nonMarketableMargin) := by
  have hexact : rounded (1 - config.nonMarketableMargin) = 1 - config.nonMarketableMargin :=
    Format.round_eq_self hmargin (sub_nonneg.mpr h.margin_lt_one.le)
  have hguard := h.buy hside
  rw [TestnetSmokeOrderConfig.maxBuyPrice, hexact] at hguard
  by_contra hle
  have hrounded := rounded_mono (not_lt.mp hle)
  rw [show rounded config.limitPrice = config.limitPrice from Format.round_eq_self hdigits hlimit] at hrounded
  exact absurd hguard (not_lt.mpr hrounded)

-- With ticks that are powers of ten, and a limit price and a margin of few enough digits, a
-- BUY stays away, and a SELL does where some tick is left for it.
theorem staysAway_power (h : Guarded config markPrice) (hlimit : 0 ≤ config.limitPrice)
    (hdigits : defaultContext.Representable config.limitPrice)
    (hmargin : defaultContext.Representable (1 - config.nonMarketableMargin)) (place : ℤ) :
    StaysAway config (10 ^ place) markPrice ↔ config.side = .buy ∨ HasTick config (10 ^ place) markPrice := by
  have htick : (0 : ℚ) < 10 ^ place := zpow_pos (by norm_num) place
  rw [← nonMarketable_floored_iff h htick, floored_power hlimit hdigits]
  cases hside : config.side with
  | buy =>
    have hbelow := h.buy_lt hside hlimit hdigits hmargin
    refine iff_of_true ⟨fun _ => (truncateTo_le htick hlimit).trans_lt hbelow, ?_⟩ (.inl rfl)
    intro hsell
    rw [hside] at hsell
    cases hsell
  | sell =>
    rw [NonMarketable, HasTick, ← lt_truncateTo_iff htick hlimit]
    simp [hside]

end Power

variable {σ : Type}

namespace ReadWriteSmoke

variable [DecimalContext] (smoke : ReadWriteSmoke σ)

-- The order that is handed over is priced at the tick below the limit price the guard saw.
theorem submitted_nonMarketable_iff (config : TestnetSmokeOrderConfig) (acknowledge : Bool) (outside : σ)
    (order : OrderRecord) (answer : Except PyError OrderRecord) (hrequired : config.requireNonMarketable = true)
    (hsubmit : .submit order answer ∈ (smoke.recorded.runTestnetReadWriteSmokeWithExchange config acknowledge
      { outside := (outside, []) }).2.log) :
    ∃ ready middle filters after price,
      smoke.preflight config { outside } = (.ok ready, middle) ∧
      smoke.exchange.getSymbolFilters config.symbol middle.outside = (.ok filters, after) ∧
      order.intent.price = some price ∧
      (NonMarketable config ready.markPrice price ↔ StaysAway config filters.tickSize ready.markPrice) := by
  have hran := smoke.run_ran config acknowledge { outside := (outside, []) }
  generalize smoke.recorded.runTestnetReadWriteSmokeWithExchange config acknowledge
    { outside := (outside, []) } = result at hran hsubmit
  obtain ⟨outcome, final⟩ := result
  cases hran with
  | stopped exc _ hlog =>
    rw [hlog] at hsubmit
    cases hsubmit
  | went hacknowledged ready middle hready lifecycle calls hlifecycle _ _ hlog hok =>
    have hplain := (smoke.preflight_silent config).seenAs { outside := (outside, []) }
    rw [hready] at hplain
    have hguarded := guarded_of_validated hrequired (smoke.validated_of_preflight config hplain)
    rw [hlog] at hsubmit
    obtain ⟨filters, after, normalized, hfilters, hnormal, rfl⟩ := hlifecycle.makes_of_submit hsubmit
    obtain ⟨htick, hprice⟩ := normalizeOrderIntent_price hnormal rfl
    exact ⟨ready, _, filters, after, _, hplain, hfilters, hprice, nonMarketable_floored_iff hguarded htick⟩

end ReadWriteSmoke

section Samples

open scoped DefaultContext

-- The order of the sample as it is submitted at a price.
def smokeSubmitted (side : OrderSide) (limitPrice price : ℚ) : OrderRecord :=
  OrderRouter.submittedOrder { (smokeOrder side limitPrice).intent with price := some price } sampleClock

def smokeLog (side : OrderSide) (limitPrice : ℚ) : List OrderCall :=
  ((restingSmoke smokeFilters 1000).recorded.runTestnetReadWriteSmokeWithExchange
    (smokeOrder side limitPrice) true { outside := (.created, []) }).2.log

theorem submitted_nonMarketable_buy :
    ∃ ready middle filters after price,
      (restingSmoke smokeFilters 1000).preflight (smokeOrder .buy 700) { outside := .created } =
        (.ok ready, middle) ∧
      (restingSmoke smokeFilters 1000).exchange.getSymbolFilters "BTCUSDT" middle.outside =
        (.ok filters, after) ∧
      (smokeSubmitted .buy 700 700).intent.price = some price ∧
      NonMarketable (smokeOrder .buy 700) ready.markPrice price := by
  obtain ⟨ready, middle, filters, after, price, hready, hfilters, hprice, hiff⟩ :=
    ReadWriteSmoke.submitted_nonMarketable_iff (restingSmoke smokeFilters 1000) (smokeOrder .buy 700) true .created
      (smokeSubmitted .buy 700 700) (.ok (smokeSubmitted .buy 700 700)) rfl (by decide +kernel)
  have hmark : ready.markPrice = 1000 := by
    have hread : ((restingSmoke smokeFilters 1000).preflight (smokeOrder .buy 700)
        { outside := .created }).1.map SmokePreflight.markPrice = .ok 1000 := by
      decide +kernel
    rw [hready] at hread
    exact Except.ok.inj hread
  have htick : filters.tickSize = 1 / 10 := by
    cases hfilters
    rfl
  refine ⟨ready, middle, filters, after, price, hready, hfilters, hprice, hiff.mpr ⟨?_, fun hsell => ?_⟩⟩
  · rintro - ⟨reached, hreaches, hle⟩
    rw [htick] at hreaches
    have hreached := le_floored_of_reaches (by norm_num) hreaches
    have hfloored : floored (smokeOrder .buy 700).limitPrice (1 / 10) = 700 := by decide +kernel
    rw [hfloored] at hreached
    rw [hmark] at hle
    norm_num [smokeOrder] at hle
    linarith
  · cases hsell

-- The tick below the limit price of this SELL is the bound itself.
theorem sell_submitted_at_bound :
    (smokeOrder .sell (1200 + 1 / 20)).requireNonMarketable = true ∧
    .submit (smokeSubmitted .sell (1200 + 1 / 20) 1200) (.ok (smokeSubmitted .sell (1200 + 1 / 20) 1200)) ∈
      smokeLog .sell (1200 + 1 / 20) ∧
    ((restingSmoke smokeFilters 1000).preflight (smokeOrder .sell (1200 + 1 / 20))
      { outside := .created }).1.map SmokePreflight.markPrice = .ok 1000 ∧
    ¬NonMarketable (smokeOrder .sell (1200 + 1 / 20)) 1000 1200 := by
  refine ⟨rfl, by decide +kernel, by decide +kernel, ?_⟩
  intro h
  have hbound := h.2 rfl
  norm_num [smokeOrder] at hbound

end Samples

end DualSleeve
