import DualSleeve.Library.Drawdown
import DualSleeve.Strategies.SleeveBReplay.Theorems

namespace DualSleeve

open Library Library.Raise

theorem wins_add_losses (trades : List SleeveBTrade) :
    (trades.countP fun trade => trade.realizedPnl > 0) + (trades.countP fun trade => trade.realizedPnl ≤ 0) =
      trades.length := by
  have hsplit := List.length_eq_countP_add_countP (fun trade : SleeveBTrade => trade.realizedPnl > 0)
    (l := trades)
  simpa using hsplit.symm

section Summary

variable [DecimalContext]

-- The equity after the first `k` trades.
def equityAfter (trades : List SleeveBTrade) (k : ℕ) : ℚ :=
  sumOf ((trades.take k).map SleeveBTrade.realizedPnl)

theorem equityAfter_zero (trades : List SleeveBTrade) : equityAfter trades 0 = 0 := rfl

theorem equityAfter_length (trades : List SleeveBTrade) :
    equityAfter trades trades.length = sumOf (trades.map SleeveBTrade.realizedPnl) := by
  rw [equityAfter, List.take_length]

theorem equityAfter_append {trades : List SleeveBTrade} {k : ℕ} (hk : k ≤ trades.length)
    (later : List SleeveBTrade) : equityAfter (trades ++ later) k = equityAfter trades k := by
  rw [equityAfter, equityAfter, List.take_append_of_le_length hk]

-- The running sum of the loop is the equity after the trades so far.
theorem equityLoop_eq (trades : List SleeveBTrade) :
    trades.foldl (fun (curve : List ℚ × ℚ) trade =>
        (curve.1 ++ [rounded (curve.2 + trade.realizedPnl)], rounded (curve.2 + trade.realizedPnl)))
          ([], 0) =
      ((List.range trades.length).map fun k => equityAfter trades (k + 1),
        equityAfter trades trades.length) := by
  induction trades using List.reverseRecOn with
  | nil => rfl
  | append_singleton trades trade ih =>
    have hrunning : equityAfter (trades ++ [trade]) (trades.length + 1) =
        rounded (equityAfter trades trades.length + trade.realizedPnl) := by
      have hlength : trades.length + 1 = (trades ++ [trade]).length := by simp
      rw [hlength, equityAfter_length, equityAfter_length, List.map_append, List.map_singleton, sumOf_concat]
    have hcurve : ((List.range trades.length).map fun k => equityAfter (trades ++ [trade]) (k + 1)) =
        (List.range trades.length).map fun k => equityAfter trades (k + 1) := by
      refine List.map_congr_left fun k hk => equityAfter_append ?_ _
      exact Nat.succ_le_of_lt (List.mem_range.mp hk)
    rw [List.foldl_append, ih, List.length_append, List.length_singleton, List.range_succ, List.map_append,
      hcurve, hrunning]
    simp [hrunning]

theorem equityCurve_eq (trades : List SleeveBTrade) :
    equityCurve trades = (List.range trades.length).map fun k => equityAfter trades (k + 1) := by
  rw [equityCurve, equityLoop_eq]

-- The drawdown is the deepest fall of the equity, from any point on.
theorem maxDrawdown_isLeast (trades : List SleeveBTrade) :
    IsLeast (Drawdown.changes (fun value peak => rounded (value - peak)) (equityAfter trades) trades.length)
      (maxDrawdown (equityCurve trades)) := by
  have htracks := Drawdown.tracks_foldl (fun value peak => rounded (value - peak))
    (fun value _ _ hle => rounded_mono (sub_le_sub_left hle value)) (equityAfter trades) trades.length
  rw [← equityCurve_eq, equityAfter_zero, sub_self, rounded_zero] at htracks
  exact htracks.fall

-- A trade of some replay whose config has this `unit_r`.
def FromReplay (unitR : ℚ) (trade : SleeveBTrade) : Prop :=
  ∃ symbol dailyBars fourHourBars cfg result, runSleeveBReplay symbol dailyBars fourHourBars cfg = .ok result ∧
    cfg.unitR = unitR ∧ trade ∈ result.trades

theorem grossR_mul_of_fromReplay (hexact : ∀ x : ℚ, rounded x = x) {unitR : ℚ} {trade : SleeveBTrade}
    (h : FromReplay unitR trade) : trade.grossR * unitR = trade.realizedPnl := by
  obtain ⟨symbol, dailyBars, fourHourBars, cfg, result, hresult, rfl, htrade⟩ := h
  obtain ⟨log, hlog, rfl⟩ := runSleeveBReplay_eq_ok.mp hresult
  obtain ⟨⟨index, _⟩, hentry, rfl⟩ := List.mem_map.mp htrade
  obtain ⟨_, _, _, hround⟩ := hlog.round_of_mem (mem_entries.mp hentry)
  obtain ⟨hnone, _⟩ | ⟨side, opened, hopened, _, hsimulated⟩ := hround
  · cases hnone
  · cases hopened
    obtain ⟨entryBar, stopDistance, final, hfinal, rfl⟩ := simulateTrade_eq_ok.mp hsimulated
    show rounded (final.realized / cfg.unitR) * cfg.unitR = final.realized
    rw [hexact, div_mul_cancel₀ _ hfinal.unit_ne]

theorem totalR_mul (hexact : ∀ x : ℚ, rounded x = x) {unitR : ℚ} {trades : List SleeveBTrade}
    (h : ∀ trade ∈ trades, FromReplay unitR trade) :
    sumOf (trades.map SleeveBTrade.grossR) * unitR = sumOf (trades.map SleeveBTrade.realizedPnl) := by
  rw [sumOf_of_exact hexact, sumOf_of_exact hexact]
  induction trades with
  | nil => simp
  | cons trade trades ih =>
    rw [List.map_cons, List.sum_cons, List.map_cons, List.sum_cons, add_mul,
      grossR_mul_of_fromReplay hexact (h trade List.mem_cons_self),
      ih fun later hlater => h later (List.mem_cons_of_mem trade hlater)]

-- What the summary says of any trades: the deepest fall of the equity, its end, the two
-- kinds of trades, and, for trades of a replay, their sum in units of R where nothing is rounded.
theorem summary_correct (symbol : String) (trades : List SleeveBTrade) :
    IsLeast {change | ∃ i j, i ≤ j ∧ j ≤ trades.length ∧
          change = rounded (equityAfter trades j - equityAfter trades i)}
        (summarize symbol trades).maxDrawdown ∧
      (summarize symbol trades).maxDrawdown ≤ 0 ∧
      (summarize symbol trades).maxDrawdown ≤ (summarize symbol trades).totalPnl ∧
      (summarize symbol trades).totalPnl = equityAfter trades trades.length ∧
      (summarize symbol trades).wins + (summarize symbol trades).losses = (summarize symbol trades).trades ∧
      (summarize symbol trades).trades = trades.length ∧
      ((∀ x : ℚ, rounded x = x) → ∀ unitR, (∀ trade ∈ trades, FromReplay unitR trade) →
        (summarize symbol trades).totalR * unitR = (summarize symbol trades).totalPnl) := by
  have hleast : IsLeast {change | ∃ i j, i ≤ j ∧ j ≤ trades.length ∧
      change = rounded (equityAfter trades j - equityAfter trades i)} (maxDrawdown (equityCurve trades)) :=
    maxDrawdown_isLeast trades
  refine ⟨hleast, ?_, ?_, (equityAfter_length trades).symm, wins_add_losses trades, rfl,
    fun hexact unitR htrades => totalR_mul hexact htrades⟩
  · exact hleast.2 ⟨0, 0, le_rfl, Nat.zero_le _, by rw [sub_self, rounded_zero]⟩
  · have hwhole := hleast.2 ⟨0, trades.length, Nat.zero_le _, le_rfl, rfl⟩
    rw [equityAfter_zero, sub_zero, equityAfter_length, rounded_sumOf] at hwhole
    exact hwhole

end Summary

-- The trade of the breakout.
open scoped ExactDecimals in
theorem summary_correct_breakout :
    ∃ result, runSleeveBReplay "BTCUSDT" risingDays breakoutBars shortReplayConfig = .ok result ∧
      result.trades.length = 1 ∧
      (summarize "BTCUSDT" result.trades).totalR * 800 = (summarize "BTCUSDT" result.trades).totalPnl := by
  have htrades : (runSleeveBReplay "BTCUSDT" risingDays breakoutBars shortReplayConfig).map
      (fun result => result.trades.length) = .ok 1 := by
    decide +kernel
  obtain ⟨result, hresult, hlength⟩ := map_eq_ok.mp htrades
  refine ⟨result, hresult, hlength, ?_⟩
  exact (summary_correct "BTCUSDT" result.trades).2.2.2.2.2.2 ExactDecimals.rounded_eq 800
    fun trade htrade => ⟨_, _, _, _, result, hresult, rfl, htrade⟩

-- A trade stopped out at a distance of 7, which 800 is no multiple of.

def roundedLossBars : List OhlcBar := [
  ⟨"1", 99, 99.5, 98.5, 99⟩, ⟨"2", 99, 99.5, 98.5, 99⟩, ⟨"3", 99, 101, 98.2, 100⟩, ⟨"4", 100, 100, 92, 92⟩]

open scoped DefaultContext in
theorem totalR_loses_digits :
    ∃ result, runSleeveBReplay "BTCUSDT" steadyDays roundedLossBars shortReplayConfig = .ok result ∧
      (∀ trade ∈ result.trades, FromReplay 800 trade) ∧
      result.summary.totalR * 800 = -800 ∧
      result.summary.totalPnl = -(800 + 1 / 10 ^ 25) := by
  have htraded : (simulateTrade "BTCUSDT" .long roundedLossBars 2 shortReplayConfig).map (fun trade =>
      (trade.barsHeld, trade.realizedPnl, trade.grossR)) = .ok (1, -(800 + 1 / 10 ^ 25), -1) := by
    decide +kernel
  obtain ⟨trade, htrade, hvalues⟩ := map_eq_ok.mp htraded
  obtain ⟨hheld, hvalues⟩ := Prod.mk.inj hvalues
  obtain ⟨hrealized, hgross⟩ := Prod.mk.inj hvalues
  have hlong : replaySignal "BTCUSDT" steadyDays roundedLossBars shortReplayConfig 2 =
      .ok ⟨"BTCUSDT", some .long, some "DONCHIAN", .breakoutLong⟩ :=
    (replaySignal_steadyDays "BTCUSDT" (by rfl) (by decide)).trans (by decide +kernel)
  have hquiet : replaySignal "BTCUSDT" steadyDays roundedLossBars shortReplayConfig 3 =
      .ok ⟨"BTCUSDT", none, none, .noEntry⟩ :=
    (replaySignal_steadyDays "BTCUSDT" (by rfl) (by decide)).trans (by decide +kernel)
  have hlog : Replayed "BTCUSDT" steadyDays roundedLossBars shortReplayConfig
      shortReplayConfig.startIndex [(2, some trade), (3, none)] := by
    refine .enter (by decide) hlong rfl htrade ?_
    rw [hheld]
    exact .pass (by decide) hquiet rfl (.done (by decide))
  have hrun := runSleeveBReplay_eq_ok.mpr ⟨_, hlog, rfl⟩
  refine ⟨_, hrun, fun _ hmem => ⟨_, _, _, _, _, hrun, rfl, hmem⟩, ?_, ?_⟩
  · show sumOf [trade.grossR] * 800 = -800
    rw [hgross]
    decide +kernel
  · show sumOf [trade.realizedPnl] = _
    rw [hrealized]
    decide +kernel

end DualSleeve
