import DualSleeve.Strategies.SleeveB.Average
import DualSleeve.Strategies.SleeveB.Trend
import DualSleeve.Strategies.SleeveBCandidateBuilder
import DualSleeve.Strategies.SleeveBReplay.Theorems

namespace DualSleeve

open Library Library.Raise
open scoped ExactDecimals

-- What reads a number of bars from the end does not change with the bars before them.

theorem trueRangeAt_append (earlier bars : List OhlcBar) {index : ℤ} (h : 1 ≤ index) :
    trueRangeAt (earlier ++ bars) (earlier.length + index) = trueRangeAt bars index := by
  unfold trueRangeAt itemAt
  rw [add_sub_assoc, Sequence.item?_append_right _ _ (by omega), Sequence.item?_append_right _ _ (by omega)]

theorem averageTrueRange_append (earlier : List OhlcBar) {bars : List OhlcBar} {period : ℤ}
    (h : period + 1 ≤ bars.length) :
    averageTrueRange (earlier ++ bars) period = averageTrueRange bars period := by
  have hlength : ((earlier ++ bars).length : ℤ) = earlier.length + bars.length := by
    rw [List.length_append, Nat.cast_add]
  unfold averageTrueRange
  rw [hlength, if_neg (by omega), if_neg (by omega), add_sub_assoc, Sequence.integers_add, List.mapM_map,
    mapM_congr fun index hindex => ?_]
  have hrange := Sequence.mem_integers.mp hindex
  exact trueRangeAt_append earlier bars (by omega)

theorem itemAt_last_append {α : Type} (earlier : List α) {values : List α} (h : values ≠ []) :
    itemAt (earlier ++ values) (-1) = itemAt values (-1) := by
  rw [itemAt, itemAt, Sequence.item?_neg_one, Sequence.item?_neg_one, List.getLast?_append_of_ne_nil _ h]

theorem donchianSignal_append (symbol : String) (regime : Regime) (earlier : List OhlcBar) {bars : List OhlcBar}
    {lookbackBars : ℤ} (hlookback : 0 ≤ lookbackBars) (hlength : lookbackBars + 1 ≤ bars.length) :
    donchianSignal symbol regime ((earlier ++ bars).map OhlcBar.close) ((earlier ++ bars).map OhlcBar.high)
        ((earlier ++ bars).map OhlcBar.low) lookbackBars =
      donchianSignal symbol regime (bars.map OhlcBar.close) (bars.map OhlcBar.high) (bars.map OhlcBar.low)
        lookbackBars := by
  have hne : bars.map OhlcBar.close ≠ [] := by
    intro hnil
    rw [List.map_eq_nil_iff] at hnil
    rw [hnil, List.length_nil] at hlength
    omega
  have hchannel : ∀ price : OhlcBar → ℚ, Sequence.slice ((earlier ++ bars).map price) (-lookbackBars - 1) (-1) =
      Sequence.slice (bars.map price) (-lookbackBars - 1) (-1) := by
    intro price
    rw [List.map_append]
    exact Sequence.slice_append_right _ _ (by omega) (by omega) (by rw [List.length_map]; omega)
      (by rw [List.length_map]; omega)
  unfold donchianSignal
  simp only [hchannel]
  rw [List.map_append, itemAt_last_append _ hne, List.length_append, List.length_map, List.length_map,
    if_neg (by omega : ¬ ((earlier.length + bars.length : ℕ) : ℤ) < lookbackBars + 1),
    if_neg (by omega : ¬ (bars.length : ℤ) < lookbackBars + 1)]

-- An average keeps a trace of all closes, and the trace fades with the number of closes after them.

-- The most that closes of the spread can still move an average after the count of closes.
def emaMemory (period : ℤ) (count : ℕ) (spread : ℚ) : ℚ := (1 - emaAlpha period) ^ count * spread

def Within (spread : ℚ) (closes : List ℚ) : Prop :=
  ∃ low, ∀ close ∈ closes, low ≤ close ∧ close ≤ low + spread

theorem final_near {period : ℤ} (hperiod : 1 ≤ period) {spread : ℚ} {earlier recent : List ℚ}
    (hne : recent ≠ []) (hwithin : Within spread (earlier ++ recent)) :
    |Ema.final (emaAlpha period) (earlier ++ recent) - Ema.final (emaAlpha period) recent| ≤
      emaMemory period recent.length spread := by
  obtain ⟨low, hrange⟩ := hwithin
  obtain ⟨hnonneg, hle⟩ := emaAlpha_between hperiod
  have hnear := Ema.abs_final_append_le hnonneg hle hne hrange
  rwa [add_sub_cancel_left] at hnear

-- Two numbers farther apart than they are moved stay in their order.
theorem lt_iff_of_moved {near far near' far' : ℚ} (h : |near' - near| + |far' - far| < |near - far|) :
    near' < far' ↔ near < far := by
  have hnear := abs_le.mp (le_refl |near' - near|)
  have hfar := abs_le.mp (le_refl |far' - far|)
  rcases abs_cases (near - far) with ⟨habs, hsign⟩ | ⟨habs, hsign⟩
  · constructor <;> intro hlt <;> linarith
  · constructor <;> intro hlt <;> linarith

theorem Regime.ofAverages_of_moved {last e50 e200 e50' e200' fast slow : ℚ} (h50 : |e50' - e50| ≤ fast)
    (h200 : |e200' - e200| ≤ slow) (hfast : fast < |last - e50|) (hslow : fast + slow < |e50 - e200|) :
    Regime.ofAverages last e50' e200' = Regime.ofAverages last e50 e200 := by
  have habove : e50' < last ↔ e50 < last := lt_iff_of_moved (by
    rw [sub_self, abs_zero, add_zero, abs_sub_comm e50 last]
    exact h50.trans_lt hfast)
  have hbelow : last < e50' ↔ last < e50 := lt_iff_of_moved (by
    rw [sub_self, abs_zero, zero_add]
    exact h50.trans_lt hfast)
  have hbull : e200' < e50' ↔ e200 < e50 := lt_iff_of_moved (by
    rw [abs_sub_comm e200 e50, add_comm]
    exact (add_le_add h50 h200).trans_lt hslow)
  have hbear : e50' < e200' ↔ e50 < e200 := lt_iff_of_moved ((add_le_add h50 h200).trans_lt hslow)
  unfold Regime.ofAverages
  simp only [gt_iff_lt, habove, hbelow, hbull, hbear]

-- The averages of the recent closes are so far apart that no earlier closes change their order.
structure RegimeSettled (earlier recent : List ℚ) (spread : ℚ) : Prop where
  within : Within spread (earlier ++ recent)
  gaps : ∃ last e50 e200, itemAt recent (-1) = .ok last ∧ lastEma recent 50 = .ok e50 ∧
    lastEma recent 200 = .ok e200 ∧ emaMemory 50 recent.length spread < |last - e50| ∧
    emaMemory 50 recent.length spread + emaMemory 200 recent.length spread < |e50 - e200|

theorem regime_of_settled {earlier recent : List ℚ} {spread : ℚ} (hlength : 200 ≤ recent.length)
    (h : RegimeSettled earlier recent spread) :
    regimeFromDailyClose (earlier ++ recent) = regimeFromDailyClose recent := by
  have hne : recent ≠ [] := by
    rintro rfl
    simp at hlength
  obtain ⟨last, e50, e200, hlast, h50, h200, hfast, hslow⟩ := h.gaps
  rw [lastEma_eq 50 (by norm_num) hne] at h50
  rw [lastEma_eq 200 (by norm_num) hne] at h200
  obtain rfl := Except.ok.inj h50
  obtain rfl := Except.ok.inj h200
  rw [itemAt_eq_ok, Sequence.item?_neg_one] at hlast
  rw [regimeFromDailyClose_of_length hlength hlast, regimeFromDailyClose_of_length
    (by rw [List.length_append]; omega) (by rw [List.getLast?_append_of_ne_nil _ hne]; exact hlast)]
  simp only [ExactDecimals.emaFinal_eq]
  rw [Regime.ofAverages_of_moved (final_near (by norm_num) hne h.within)
    (final_near (by norm_num) hne h.within) hfast hslow]

-- The last close is so far from its average, and from the limit of the extension, that no
-- earlier closes change the answer of the hourly filter.
structure TimingSettled (earlier recent : List OhlcBar) (cfg : SleeveBCandidateBuilderConfig) (spread : ℚ) :
    Prop where
  within : Within spread ((earlier ++ recent).map OhlcBar.close)
  gaps : ∃ last emaValue atrValue, itemAt recent (-1) = .ok last ∧
    lastEma (recent.map OhlcBar.close) cfg.oneHourEmaPeriod = .ok emaValue ∧
    builderAtr recent cfg.atrPeriod = .ok atrValue ∧
    emaMemory cfg.oneHourEmaPeriod recent.length spread < |last.close - emaValue| ∧
    emaMemory cfg.oneHourEmaPeriod recent.length spread <
      |(|last.close - emaValue| - atrValue * cfg.max1hExtensionAtr)|

theorem oneHourVerdict_of_moved (side : PositionSide) (last : OhlcBar) (cfg : SleeveBCandidateBuilderConfig)
    {emaValue emaValue' atrValue moved : ℚ} (hema : |emaValue' - emaValue| ≤ moved)
    (hclose : moved < |last.close - emaValue|)
    (hextension : moved < |(|last.close - emaValue| - atrValue * cfg.max1hExtensionAtr)|) :
    oneHourVerdict side last emaValue' atrValue cfg = oneHourVerdict side last emaValue atrValue cfg := by
  have habove : emaValue' < last.close ↔ emaValue < last.close := lt_iff_of_moved (by
    rw [sub_self, abs_zero, add_zero, abs_sub_comm emaValue]
    exact hema.trans_lt hclose)
  have hbelow : last.close < emaValue' ↔ last.close < emaValue := lt_iff_of_moved (by
    rw [sub_self, abs_zero, zero_add]
    exact hema.trans_lt hclose)
  cases side with
  | long =>
    unfold oneHourVerdict
    simp only [ExactDecimals.rounded_eq, hbelow]
    by_cases hlt : last.close < emaValue
    · rw [if_pos hlt, if_pos hlt]
    · have hover : atrValue * cfg.max1hExtensionAtr < last.close - emaValue' ↔
          atrValue * cfg.max1hExtensionAtr < last.close - emaValue := lt_iff_of_moved (by
        rw [sub_self, abs_zero, zero_add, sub_sub_sub_cancel_left, abs_sub_comm emaValue, abs_sub_comm (_ * _)]
        rw [abs_of_nonneg (sub_nonneg.mpr (not_lt.mp hlt))] at hextension
        exact hema.trans_lt hextension)
      simp only [gt_iff_lt, hover]
  | short =>
    unfold oneHourVerdict
    simp only [ExactDecimals.rounded_eq, gt_iff_lt, habove]
    by_cases hlt : emaValue < last.close
    · rw [if_pos hlt, if_pos hlt]
    · have hover : atrValue * cfg.max1hExtensionAtr < emaValue' - last.close ↔
          atrValue * cfg.max1hExtensionAtr < emaValue - last.close := lt_iff_of_moved (by
        rw [sub_self, abs_zero, zero_add, sub_sub_sub_cancel_right, abs_sub_comm (_ * _)]
        rw [abs_sub_comm last.close, abs_of_nonneg (sub_nonneg.mpr (not_lt.mp hlt))] at hextension
        exact hema.trans_lt hextension)
      simp only [hover]

theorem oneHourTiming_of_values (side : PositionSide) {bars : List OhlcBar} {cfg : SleeveBCandidateBuilderConfig}
    {last : OhlcBar} {emaValue atrValue : ℚ} (hlast : itemAt bars (-1) = .ok last)
    (hvalue : lastEma (bars.map OhlcBar.close) cfg.oneHourEmaPeriod = .ok emaValue)
    (hatr : builderAtr bars cfg.atrPeriod = .ok atrValue) :
    oneHourTiming side bars cfg = .ok (oneHourVerdict side last emaValue atrValue cfg) := by
  obtain ⟨averages, haverages, hvalue⟩ := bind_eq_ok.mp hvalue
  exact (bind_of_ok haverages).trans ((bind_of_ok hvalue).trans ((bind_of_ok hlast).trans (bind_of_ok hatr)))

theorem timing_of_settled (side : PositionSide) {earlier recent : List OhlcBar}
    {cfg : SleeveBCandidateBuilderConfig} {spread : ℚ} (hema : 1 ≤ cfg.oneHourEmaPeriod) (hne : recent ≠ [])
    (hlength : cfg.atrPeriod + 1 ≤ recent.length) (h : TimingSettled earlier recent cfg spread) :
    oneHourTiming side (earlier ++ recent) cfg = oneHourTiming side recent cfg := by
  obtain ⟨last, emaValue, atrValue, hlast, hvalue, hatr, hclose, hextension⟩ := h.gaps
  have hcloses : recent.map OhlcBar.close ≠ [] := by simpa using hne
  have hall : (earlier ++ recent).map OhlcBar.close ≠ [] := by simp [hne]
  have hperiod : 0 < cfg.oneHourEmaPeriod := by omega
  have hwithin := h.within
  rw [List.map_append] at hwithin
  have hnear := final_near hema hcloses hwithin
  rw [List.length_map, ← List.map_append] at hnear
  have hfull := oneHourTiming_of_values side ((itemAt_last_append earlier hne).trans hlast)
    (lastEma_eq _ hperiod hall) ((averageTrueRange_append earlier hlength).trans hatr)
  have hrecent := oneHourTiming_of_values side hlast hvalue hatr
  rw [lastEma_eq _ hperiod hcloses] at hvalue
  obtain rfl := Except.ok.inj hvalue
  rw [hfull, hrecent, oneHourVerdict_of_moved side last cfg hnear hclose hextension]

-- The data of a longer history: earlier bars before the ones at hand.
def SleeveBMarketData.preceded (recent earlier : SleeveBMarketData) : SleeveBMarketData where
  symbol := recent.symbol
  dailyBars := earlier.dailyBars ++ recent.dailyBars
  fourHourBars := earlier.fourHourBars ++ recent.fourHourBars
  oneHourBars := earlier.oneHourBars ++ recent.oneHourBars

-- The builder gets enough bars for each of its windows.
structure SleeveBMarketData.Suffices (recent : SleeveBMarketData) (cfg : SleeveBCandidateBuilderConfig) : Prop where
  daily : 200 ≤ recent.dailyBars.length
  donchian : cfg.donchianLookbackBars + 1 ≤ recent.fourHourBars.length
  fourHourAtr : cfg.atrPeriod + 1 ≤ recent.fourHourBars.length
  oneHour : cfg.require1hTiming → cfg.oneHourEmaPeriod ≤ recent.oneHourBars.length ∧
    cfg.atrPeriod + 1 ≤ recent.oneHourBars.length
  oneHourClose : recent.oneHourBars ≠ []

theorem SleeveBMarketData.Suffices.preceded {recent : SleeveBMarketData} {cfg : SleeveBCandidateBuilderConfig}
    (h : recent.Suffices cfg) (earlier : SleeveBMarketData) : (recent.preceded earlier).Suffices cfg where
  daily := by
    rw [SleeveBMarketData.preceded, List.length_append]
    exact h.daily.trans (Nat.le_add_left _ _)
  donchian := by
    rw [SleeveBMarketData.preceded, List.length_append]
    have := h.donchian
    omega
  fourHourAtr := by
    rw [SleeveBMarketData.preceded, List.length_append]
    have := h.fourHourAtr
    omega
  oneHour := fun hrequired => by
    rw [SleeveBMarketData.preceded, List.length_append]
    have := h.oneHour hrequired
    omega
  oneHourClose := by
    rw [SleeveBMarketData.preceded]
    exact List.append_ne_nil_of_right_ne_nil _ h.oneHourClose

theorem buildSleeveBCandidate_of_suffices {marketData : SleeveBMarketData} {cfg : SleeveBCandidateBuilderConfig}
    (h : marketData.Suffices cfg) :
    buildSleeveBCandidate marketData cfg = (do
      let regime ← regimeFromDailyClose (marketData.dailyBars.map OhlcBar.close)
      let signal ← donchianSignal marketData.symbol regime (marketData.fourHourBars.map OhlcBar.close)
        (marketData.fourHourBars.map OhlcBar.high) (marketData.fourHourBars.map OhlcBar.low)
        cfg.donchianLookbackBars
      buildFromSignal marketData cfg signal) := by
  have hdaily := h.daily
  have hdonchian := h.donchian
  have hatr := h.fourHourAtr
  rw [buildSleeveBCandidate, if_neg (by omega), if_neg (by omega), if_neg]
  rintro ⟨hrequired, hshort⟩
  have := h.oneHour hrequired
  omega

theorem buildFromSignal_preceded {recent : SleeveBMarketData} {cfg : SleeveBCandidateBuilderConfig}
    (h : recent.Suffices cfg) (earlier : SleeveBMarketData) (hlookback : 0 ≤ cfg.donchianLookbackBars)
    (htiming : cfg.require1hTiming → ∀ side,
      oneHourTiming side (recent.preceded earlier).oneHourBars cfg = oneHourTiming side recent.oneHourBars cfg)
    (signal : SleeveBSignal) :
    buildFromSignal (recent.preceded earlier) cfg signal = buildFromSignal recent cfg signal := by
  have hentry : ∀ side, entryTiming side (recent.preceded earlier).oneHourBars cfg =
      entryTiming side recent.oneHourBars cfg := by
    intro side
    unfold entryTiming
    split
    next hrequired => exact htiming hrequired side
    next => rfl
  have hlast : itemAt (recent.preceded earlier).fourHourBars (-1) = itemAt recent.fourHourBars (-1) := by
    refine itemAt_last_append _ fun hnil => ?_
    have hdonchian := h.donchian
    rw [hnil, List.length_nil] at hdonchian
    omega
  have hatr : builderAtr (recent.preceded earlier).fourHourBars cfg.atrPeriod =
      builderAtr recent.fourHourBars cfg.atrPeriod := averageTrueRange_append _ h.fourHourAtr
  have hprice : ∀ side price, refinedEntryPrice side price (recent.preceded earlier).oneHourBars cfg =
      refinedEntryPrice side price recent.oneHourBars cfg := by
    intro side price
    unfold refinedEntryPrice SleeveBMarketData.preceded
    rw [List.getLast?_append_of_ne_nil _ h.oneHourClose]
  unfold buildFromSignal
  simp only [hentry, hlast, hatr, hprice]
  rfl

-- The scan fetches a limited number of bars. Once they fill the windows, a longer history
-- comes to the same candidate: the four-hour bars before them never matter, and the daily and
-- hourly ones not where the averages settle the regime and the timing.
theorem candidate_of_recent_bars {recent : SleeveBMarketData} {cfg : SleeveBCandidateBuilderConfig}
    (earlier : SleeveBMarketData) {daySpread hourSpread : ℚ} (hlookback : 0 ≤ cfg.donchianLookbackBars)
    (hema : 1 ≤ cfg.oneHourEmaPeriod) (hsuffices : recent.Suffices cfg)
    (hregime : earlier.dailyBars = [] ∨ RegimeSettled (earlier.dailyBars.map OhlcBar.close)
      (recent.dailyBars.map OhlcBar.close) daySpread)
    (htiming : cfg.require1hTiming → earlier.oneHourBars = [] ∨
      TimingSettled earlier.oneHourBars recent.oneHourBars cfg hourSpread) :
    buildSleeveBCandidate (recent.preceded earlier) cfg = buildSleeveBCandidate recent cfg := by
  have hregimes : regimeFromDailyClose ((recent.preceded earlier).dailyBars.map OhlcBar.close) =
      regimeFromDailyClose (recent.dailyBars.map OhlcBar.close) := by
    rw [SleeveBMarketData.preceded, List.map_append]
    cases hregime with
    | inl hnone => rw [hnone, List.map_nil, List.nil_append]
    | inr hsettled => exact regime_of_settled (by rw [List.length_map]; exact hsuffices.daily) hsettled
  have htimings : cfg.require1hTiming → ∀ side,
      oneHourTiming side (recent.preceded earlier).oneHourBars cfg = oneHourTiming side recent.oneHourBars cfg := by
    intro hrequired side
    rw [SleeveBMarketData.preceded]
    cases htiming hrequired with
    | inl hnone => rw [hnone, List.nil_append]
    | inr hsettled =>
      exact timing_of_settled side hema hsuffices.oneHourClose (hsuffices.oneHour hrequired).2 hsettled
  rw [buildSleeveBCandidate_of_suffices (hsuffices.preceded earlier), buildSleeveBCandidate_of_suffices hsuffices,
    hregimes]
  refine congrArg _ (funext fun regime => ?_)
  rw [SleeveBMarketData.preceded, donchianSignal_append _ _ _ hlookback hsuffices.donchian]
  exact congrArg _ (funext fun signal => buildFromSignal_preceded hsuffices earlier hlookback htimings signal)

-- A market that rose from 100 to 200 in the middle of its history.
def risenMarket : SleeveBMarketData :=
  let bar (close : ℚ) : OhlcBar := ⟨"", close, close + 1, close - 1, close⟩
  { symbol := "BTCUSDT"
    dailyBars := List.replicate 100 (bar 100) ++ List.replicate 100 (bar 200)
    fourHourBars := [bar 200, bar 199, bar 202]
    oneHourBars := List.replicate 10 (bar 200) ++ [bar 202] }

theorem candidate_of_recent_bars_sample :
    let bar (close : ℚ) : OhlcBar := ⟨"", close, close + 1, close - 1, close⟩
    let cfg : SleeveBCandidateBuilderConfig := { donchianLookbackBars := 1, atrPeriod := 1, oneHourEmaPeriod := 3 }
    let earlier : SleeveBMarketData := ⟨"BTCUSDT", [bar 150, bar 120], [bar 500], [bar 180]⟩
    buildSleeveBCandidate (risenMarket.preceded earlier) cfg = buildSleeveBCandidate risenMarket cfg := by
  intro bar cfg earlier
  have hsuffices : risenMarket.Suffices cfg := by constructor <;> decide +kernel
  have hregime : RegimeSettled (earlier.dailyBars.map OhlcBar.close) (risenMarket.dailyBars.map OhlcBar.close) 100 := by
    refine ⟨⟨100, by decide +kernel⟩, 200, _, _, by decide +kernel,
      lastEma_eq 50 (by norm_num) (by decide +kernel),
      lastEma_eq 200 (by norm_num) (by decide +kernel), by decide +kernel, by decide +kernel⟩
  have htiming : TimingSettled earlier.oneHourBars risenMarket.oneHourBars cfg 22 := by
    refine ⟨⟨180, by decide +kernel⟩, bar 202, _, 3, by decide +kernel,
      lastEma_eq 3 (by norm_num) (by decide +kernel), by decide +kernel, by decide +kernel, by decide +kernel⟩
  exact candidate_of_recent_bars earlier (by decide) (by decide) hsuffices (.inr hregime) fun _ => .inr htiming

end DualSleeve
