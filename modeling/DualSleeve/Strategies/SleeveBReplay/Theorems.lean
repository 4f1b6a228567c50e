import DualSleeve.Strategies.SleeveBReplay
import DualSleeve.Strategies.SleeveB.Theorems

namespace DualSleeve

open Library Library.Raise

def OhlcBar.ClosesInside (bar : OhlcBar) : Prop := bar.low ≤ bar.close ∧ bar.close ≤ bar.high

instance (bar : OhlcBar) : Decidable bar.ClosesInside :=
  inferInstanceAs (Decidable (_ ∧ _))

def OhlcBar.OpensInside (bar : OhlcBar) : Prop := bar.low ≤ bar.openPrice ∧ bar.openPrice ≤ bar.high

instance (bar : OhlcBar) : Decidable bar.OpensInside :=
  inferInstanceAs (Decidable (_ ∧ _))

theorem divide_eq_ok {x y value : ℚ} : divide x y = .ok value ↔ y ≠ 0 ∧ value = x / y := by
  unfold divide
  by_cases hy : y ≠ 0
  · rw [if_pos hy, Except.ok.injEq]
    exact ⟨fun h => ⟨hy, h.symm⟩, fun h => h.2.symm⟩
  · rw [if_neg hy]
    by_cases hx : x = 0
    · simp [hx, hy]
    · simp [hx, hy]

theorem length_upTo {bars : List OhlcBar} {index : ℤ} (hlow : 0 ≤ index) (hhigh : index < bars.length) :
    ((Sequence.upTo bars (index + 1)).length : ℤ) = index + 1 := by
  rw [Sequence.upTo_of_nonneg (by omega), List.length_take]
  omega

theorem last_upTo {bars : List OhlcBar} {index : ℤ} {bar : OhlcBar} (hlow : 0 ≤ index)
    (hbar : itemAt bars index = .ok bar) :
    (Sequence.upTo bars (index + 1)).getLast? = some bar := by
  rw [itemAt_eq_ok, Sequence.item?_of_nonneg hlow] at hbar
  rw [Sequence.upTo_of_nonneg (by omega), show (index + 1).toNat = index.toNat + 1 by omega]
  rw [List.take_add_one, hbar]
  exact List.getLast?_concat

theorem channel_map {α β : Type} (f : α → β) (values : List α) (lookbackBars : ℤ) :
    channel (values.map f) lookbackBars = (channel values lookbackBars).map f :=
  Sequence.slice_map f values _ _

-- The trades of the rounds with their entry indices, in order.
def entries (log : List (ℤ × Option SleeveBTrade)) : List (ℤ × SleeveBTrade) :=
  log.filterMap fun round => round.2.map fun trade => (round.1, trade)

@[simp] theorem entries_nil : entries [] = [] := rfl

@[simp] theorem entries_none (index : ℤ) (log : List (ℤ × Option SleeveBTrade)) :
    entries ((index, none) :: log) = entries log := rfl

@[simp] theorem entries_some (index : ℤ) (trade : SleeveBTrade) (log : List (ℤ × Option SleeveBTrade)) :
    entries ((index, some trade) :: log) = (index, trade) :: entries log := rfl

theorem mem_entries {log : List (ℤ × Option SleeveBTrade)} {index : ℤ} {trade : SleeveBTrade} :
    (index, trade) ∈ entries log ↔ (index, some trade) ∈ log := by
  simp [entries]

section Replay

variable [DecimalContext]

theorem OhlcBar.trueRange_nonneg (bar : OhlcBar) (previousClose : ℚ) :
    0 ≤ bar.trueRange previousClose :=
  (rounded_nonneg (abs_nonneg _)).trans (le_max_right _ _)

theorem trueRangeAt_of_items {bars : List OhlcBar} {index : ℤ} {current previous : OhlcBar}
    (hcurrent : itemAt bars index = .ok current) (hprevious : itemAt bars (index - 1) = .ok previous) :
    trueRangeAt bars index = .ok (current.trueRange previous.close) := by
  rw [trueRangeAt, hcurrent, ok_bind, hprevious, ok_bind]
  rfl

theorem trueRangeAt_nonneg {bars : List OhlcBar} {index : ℤ} {value : ℚ}
    (h : trueRangeAt bars index = .ok value) : 0 ≤ value := by
  obtain ⟨current, -, h⟩ := bind_eq_ok.mp h
  obtain ⟨previous, -, h⟩ := bind_eq_ok.mp h
  exact Except.ok.inj h ▸ current.trueRange_nonneg previous.close

-- With a full window the average true range exists, and it is positive as soon as the last
-- bar has moved.
theorem averageTrueRange_ok (bars : List OhlcBar) {period : ℤ} (hperiod : 1 ≤ period)
    (hlength : period + 1 ≤ bars.length) :
    ∃ atrValue, averageTrueRange bars period = .ok atrValue ∧
      ∀ value, trueRangeAt bars (bars.length - 1) = .ok value → 0 < value → 0 < atrValue := by
  obtain ⟨trueRanges, hranges⟩ := mapM_ok (trueRangeAt bars)
      (Sequence.integers (bars.length - period) bars.length) fun index hindex => by
    have hrange := Sequence.mem_integers.mp hindex
    obtain ⟨current, hcurrent⟩ := itemAt_ok bars index (by omega) (by omega)
    obtain ⟨previous, hprevious⟩ := itemAt_ok bars (index - 1) (by omega) (by omega)
    exact ⟨_, trueRangeAt_of_items hcurrent hprevious⟩
  have hperiodQ : (0 : ℚ) < period := by exact_mod_cast hperiod
  refine ⟨rounded (sumOf trueRanges / period), ?_, ?_⟩
  · rw [averageTrueRange, if_neg (by omega), hranges, ok_bind, divide_of_ne_zero _ (ne_of_gt hperiodQ)]
    rfl
  · intro value hvalue hpos
    have hnonneg : ∀ range ∈ trueRanges, 0 ≤ range := by
      intro range hrange
      obtain ⟨index, -, hindex⟩ := (mem_mapM hranges).mp hrange
      exact trueRangeAt_nonneg hindex
    have hmem : value ∈ trueRanges :=
      (mem_mapM hranges).mpr ⟨_, Sequence.mem_integers.mpr ⟨by omega, by omega⟩, hvalue⟩
    exact rounded_pos (div_pos (sumOf_pos hnonneg ⟨value, hmem, hpos⟩) hperiodQ)

-- The quantity of a trade: the risk budget over the stop distance, at most the notional cap.
def SleeveBReplayConfig.quantity (cfg : SleeveBReplayConfig) (entry stopDistance : ℚ) : ℚ :=
  min (rounded (cfg.unitR / stopDistance)) (rounded (rounded (cfg.sleeveEquity * cfg.maxLeverage) / entry))

-- The trade record that a finished simulation returns.
def TradePlan.record (plan : TradePlan) (symbol : String) (entryBar : OhlcBar) (unitR : ℚ)
    (final : TradeState) : SleeveBTrade where
  symbol := symbol
  side := plan.side
  entryTime := entryBar.timestamp
  entryPrice := plan.entry
  initialStop := plan.initialStop
  quantity := plan.quantity
  notional := rounded (plan.quantity * plan.entry)
  exitTime := final.exitTime
  exitPrice := final.exitPrice
  exitReason := final.exitReason
  realizedPnl := final.realized
  grossR := rounded (final.realized / unitR)
  barsHeld := final.barsHeld
  tpHits := final.tpHits

-- A simulation past its checks: the entry bar, the plan made from it, and the loop over
-- the bars after it.
structure Simulated (side : PositionSide) (bars : List OhlcBar) (entryIndex : ℤ)
    (cfg : SleeveBReplayConfig) (entryBar : OhlcBar) (stopDistance : ℚ) (final : TradeState) : Prop where
  entryBar_eq : itemAt bars entryIndex = .ok entryBar
  atr_eq : ∃ atrValue, replayAtr (Sequence.upTo bars (entryIndex + 1)) cfg.atrPeriod = .ok atrValue ∧
    stopDistance = rounded (atrValue * cfg.stopAtrMultiple)
  stop_pos : 0 < stopDistance
  entry_ne : entryBar.close ≠ 0
  unit_ne : cfg.unitR ≠ 0
  final_eq :
    let plan := tradePlan side entryBar.close stopDistance (cfg.quantity entryBar.close stopDistance) cfg
    plan.closeAtEnd bars entryIndex
      (plan.tradeLoop 1 (Sequence.onward bars (entryIndex + 1)) (plan.opening entryBar)) = .ok final

-- `simulateTrade` returns exactly the records of the simulations past its checks.
theorem simulateTrade_eq_ok {symbol : String} {side : PositionSide} {bars : List OhlcBar}
    {entryIndex : ℤ} {cfg : SleeveBReplayConfig} {trade : SleeveBTrade} :
    simulateTrade symbol side bars entryIndex cfg = .ok trade ↔
      ∃ entryBar stopDistance final,
        Simulated side bars entryIndex cfg entryBar stopDistance final ∧
        trade = (tradePlan side entryBar.close stopDistance
          (cfg.quantity entryBar.close stopDistance) cfg).record symbol entryBar cfg.unitR final := by
  unfold simulateTrade
  constructor
  · intro h
    obtain ⟨entryBar, hentry, h⟩ := bind_eq_ok.mp h
    obtain ⟨atrValue, hatr, h⟩ := bind_eq_ok.mp h
    by_cases hstop : rounded (atrValue * cfg.stopAtrMultiple) ≤ 0
    · rw [if_pos hstop] at h
      cases h
    rw [if_neg hstop] at h
    obtain ⟨byRisk, hrisk, h⟩ := bind_eq_ok.mp h
    obtain ⟨byNotional, hnotional, h⟩ := bind_eq_ok.mp h
    obtain ⟨final, hfinal, h⟩ := bind_eq_ok.mp h
    obtain ⟨grossR, hgross, h⟩ := bind_eq_ok.mp h
    obtain ⟨-, rfl⟩ := divide_eq_ok.mp hrisk
    obtain ⟨hne, rfl⟩ := divide_eq_ok.mp hnotional
    obtain ⟨hunit, rfl⟩ := divide_eq_ok.mp hgross
    refine ⟨entryBar, rounded (atrValue * cfg.stopAtrMultiple), final,
      ⟨hentry, ⟨atrValue, hatr, rfl⟩, lt_of_not_ge hstop, hne, hunit, hfinal⟩, ?_⟩
    exact (Except.ok.inj h).symm
  · intro h
    obtain ⟨entryBar, stopDistance, final, h, rfl⟩ := h
    obtain ⟨atrValue, hatr, rfl⟩ := h.atr_eq
    rw [h.entryBar_eq, ok_bind, hatr, ok_bind, if_neg (not_le_of_gt h.stop_pos)]
    refine bind_eq_ok.mpr ⟨_, divide_of_ne_zero _ (ne_of_gt h.stop_pos), ?_⟩
    refine bind_eq_ok.mpr ⟨_, divide_of_ne_zero _ h.entry_ne, ?_⟩
    refine bind_eq_ok.mpr ⟨final, h.final_eq, ?_⟩
    exact bind_eq_ok.mpr ⟨_, divide_of_ne_zero _ h.unit_ne, rfl⟩

variable {symbol : String} {dailyBars fourHourBars : List OhlcBar} {cfg : SleeveBReplayConfig}

-- The close of a bar has left the channel of the bars before it, in the direction of the
-- regime of the days it sees.

def BreaksUp (dailyBars bars : List OhlcBar) (lookbackBars index : ℤ) (bar : OhlcBar) : Prop :=
  regimeFromDailyClose (dailyClosesUntil dailyBars bar.timestamp) = .ok .bull ∧
    ∀ earlier ∈ channel (Sequence.upTo bars (index + 1)) lookbackBars, earlier.high < bar.close

def BreaksDown (dailyBars bars : List OhlcBar) (lookbackBars index : ℤ) (bar : OhlcBar) : Prop :=
  regimeFromDailyClose (dailyClosesUntil dailyBars bar.timestamp) = .ok .bear ∧
    ∀ earlier ∈ channel (Sequence.upTo bars (index + 1)) lookbackBars, bar.close < earlier.low

-- The signal that the replay reads once the channel is full.
theorem replaySignal_at (symbol : String) (dailyBars : List OhlcBar)
    (hlookback : 1 ≤ cfg.donchianLookbackBars) {index : ℤ} {bar : OhlcBar}
    (hgate : cfg.donchianLookbackBars ≤ index) (hindex : index < fourHourBars.length)
    (hbar : itemAt fourHourBars index = .ok bar) :
    ∃ regime signal,
      regimeFromDailyClose (dailyClosesUntil dailyBars bar.timestamp) = .ok regime ∧
      donchianSignal symbol regime ((Sequence.upTo fourHourBars (index + 1)).map OhlcBar.close)
        ((Sequence.upTo fourHourBars (index + 1)).map OhlcBar.high)
        ((Sequence.upTo fourHourBars (index + 1)).map OhlcBar.low) cfg.donchianLookbackBars = .ok signal ∧
      replaySignal symbol dailyBars fourHourBars cfg index = .ok signal ∧
      (signal.side = some .long ↔
        BreaksUp dailyBars fourHourBars cfg.donchianLookbackBars index bar) ∧
      (signal.side = some .short ↔
        BreaksDown dailyBars fourHourBars cfg.donchianLookbackBars index bar) := by
  have hlength := length_upTo (by omega) hindex
  have hclose : ((Sequence.upTo fourHourBars (index + 1)).map OhlcBar.close).getLast? =
      some bar.close := by
    rw [List.getLast?_map, last_upTo (by omega) hbar]
    rfl
  obtain ⟨regime, hregime⟩ := regimeFromDailyClose_ok (dailyClosesUntil dailyBars bar.timestamp)
  obtain ⟨signal, hsignal, hlong, hshort⟩ := donchianSignal_ok symbol regime
    ((Sequence.upTo fourHourBars (index + 1)).map OhlcBar.high)
    ((Sequence.upTo fourHourBars (index + 1)).map OhlcBar.low)
    hlookback (by rw [List.length_map]; omega) (by simp) (by simp) hclose
  refine ⟨regime, signal, hregime, hsignal, ?_, ?_, ?_⟩
  · rw [replaySignal, hbar, ok_bind, hregime, ok_bind]
    exact hsignal
  · rw [hlong, BreaksUp, hregime, Except.ok.injEq, channel_map, List.forall_mem_map]
  · rw [hshort, BreaksDown, hregime, Except.ok.injEq, channel_map, List.forall_mem_map]

-- The rounds of the replay from an index on: each index it evaluates, with the trade it
-- opened there, if any.
inductive Replayed (symbol : String) (dailyBars fourHourBars : List OhlcBar) (cfg : SleeveBReplayConfig) :
    ℤ → List (ℤ × Option SleeveBTrade) → Prop where
  | done {index : ℤ} (hend : fourHourBars.length ≤ index) :
    Replayed symbol dailyBars fourHourBars cfg index []
  | pass {index : ℤ} {signal : SleeveBSignal} {log : List (ℤ × Option SleeveBTrade)}
    (hindex : index < fourHourBars.length)
    (hsignal : replaySignal symbol dailyBars fourHourBars cfg index = .ok signal)
    (hside : signal.side = none)
    (rest : Replayed symbol dailyBars fourHourBars cfg (index + 1) log) :
    Replayed symbol dailyBars fourHourBars cfg index ((index, none) :: log)
  | enter {index : ℤ} {signal : SleeveBSignal} {side : PositionSide} {trade : SleeveBTrade}
    {log : List (ℤ × Option SleeveBTrade)}
    (hindex : index < fourHourBars.length)
    (hsignal : replaySignal symbol dailyBars fourHourBars cfg index = .ok signal)
    (hside : signal.side = some side)
    (htrade : simulateTrade symbol side fourHourBars index cfg = .ok trade)
    (rest : Replayed symbol dailyBars fourHourBars cfg (index + max trade.barsHeld 1) log) :
    Replayed symbol dailyBars fourHourBars cfg index ((index, some trade) :: log)

-- With a round of fuel for each bar left, the loop ends only past the last bar.
theorem replayed_of_replayLoop {fuel : ℕ} {index : ℤ} {trades result : List SleeveBTrade}
    (hfuel : fourHourBars.length - index ≤ fuel)
    (h : replayLoop symbol dailyBars fourHourBars cfg fuel index trades = .ok result) :
    ∃ log, Replayed symbol dailyBars fourHourBars cfg index log ∧
      result = trades ++ (entries log).map Prod.snd := by
  induction fuel generalizing index trades with
  | zero =>
    refine ⟨[], .done (by omega), ?_⟩
    simpa using (Except.ok.inj h).symm
  | succ fuel ih =>
    rw [replayLoop] at h
    by_cases hindex : index < fourHourBars.length
    · rw [if_pos hindex] at h
      obtain ⟨signal, hsignal, h⟩ := bind_eq_ok.mp h
      cases hside : signal.side with
      | none =>
        rw [hside] at h
        obtain ⟨log, hlog, hresult⟩ := ih (by omega) h
        exact ⟨_, .pass hindex hsignal hside hlog, hresult⟩
      | some side =>
        rw [hside] at h
        obtain ⟨trade, htrade, h⟩ := bind_eq_ok.mp h
        obtain ⟨log, hlog, hresult⟩ := ih (by omega) h
        refine ⟨_, .enter hindex hsignal hside htrade hlog, ?_⟩
        simpa using hresult
    · rw [if_neg hindex] at h
      refine ⟨[], .done (by omega), ?_⟩
      simpa using (Except.ok.inj h).symm

-- Conversely the loop goes through any such rounds.
theorem replayLoop_of_replayed {fuel : ℕ} {index : ℤ} {trades : List SleeveBTrade}
    {log : List (ℤ × Option SleeveBTrade)} (hfuel : fourHourBars.length - index ≤ fuel)
    (h : Replayed symbol dailyBars fourHourBars cfg index log) :
    replayLoop symbol dailyBars fourHourBars cfg fuel index trades =
      .ok (trades ++ (entries log).map Prod.snd) := by
  induction h generalizing fuel trades with
  | @done index hend =>
    cases fuel with
    | zero => simp [replayLoop]
    | succ fuel =>
      rw [replayLoop, if_neg (by omega)]
      simp
  | @pass index signal log hindex hsignal hside rest ih =>
    cases fuel with
    | zero => omega
    | succ fuel =>
      rw [replayLoop, if_pos hindex, hsignal, ok_bind, hside]
      exact ih (by omega)
  | @enter index signal side trade log hindex hsignal hside htrade rest ih =>
    cases fuel with
    | zero => omega
    | succ fuel =>
      rw [replayLoop, if_pos hindex, hsignal, ok_bind, hside]
      show (simulateTrade symbol side fourHourBars index cfg >>= _) = _
      rw [htrade, ok_bind, ih (by omega)]
      simp

-- The runs that return are the ones with rounds up to the last bar.
theorem runSleeveBReplay_eq_ok {result : SleeveBReplayResult} :
    runSleeveBReplay symbol dailyBars fourHourBars cfg = .ok result ↔
      ∃ log, Replayed symbol dailyBars fourHourBars cfg cfg.startIndex log ∧
        result = ⟨symbol, (entries log).map Prod.snd,
          summarize symbol ((entries log).map Prod.snd)⟩ := by
  unfold runSleeveBReplay
  constructor
  · intro h
    obtain ⟨trades, htrades, h⟩ := bind_eq_ok.mp h
    obtain ⟨log, hlog, rfl⟩ := replayed_of_replayLoop (by omega) htrades
    exact ⟨log, hlog, (Except.ok.inj h).symm⟩
  · intro h
    obtain ⟨log, hlog, rfl⟩ := h
    rw [replayLoop_of_replayed (by omega) hlog]
    rfl

namespace Replayed

variable {index : ℤ} {log : List (ℤ × Option SleeveBTrade)}

theorem le_of_mem (h : Replayed symbol dailyBars fourHourBars cfg index log)
    {round : ℤ × Option SleeveBTrade} (hround : round ∈ log) : index ≤ round.1 := by
  induction h with
  | done hend => simp at hround
  | @pass index signal log hindex hsignal hside rest ih =>
    cases List.mem_cons.mp hround with
    | inl hhead => exact le_of_eq (congrArg Prod.fst hhead).symm
    | inr htail => exact (by omega : index ≤ index + 1).trans (ih htail)
  | @enter index signal side trade log hindex hsignal hside htrade rest ih =>
    cases List.mem_cons.mp hround with
    | inl hhead => exact le_of_eq (congrArg Prod.fst hhead).symm
    | inr htail => exact (by omega : index ≤ index + max trade.barsHeld 1).trans (ih htail)

-- The trades do not overlap: each is entered no earlier than the exit of the one before.
theorem entries_pairwise (h : Replayed symbol dailyBars fourHourBars cfg index log) :
    (entries log).Pairwise fun earlier later =>
      earlier.1 < later.1 ∧ earlier.1 + earlier.2.barsHeld ≤ later.1 := by
  induction h with
  | done hend => exact List.Pairwise.nil
  | pass hindex hsignal hside rest ih => exact ih
  | @enter index signal side trade log hindex hsignal hside htrade rest ih =>
    refine List.pairwise_cons.mpr ⟨?_, ih⟩
    intro later hlater
    have hle := rest.le_of_mem (mem_entries.mp hlater)
    refine ⟨?_, ?_⟩
    · show index < later.1
      omega
    · show index + trade.barsHeld ≤ later.1
      omega

-- A round reads the signal at its index and opens a trade exactly when it has a side.
theorem round_of_mem (h : Replayed symbol dailyBars fourHourBars cfg index log)
    {evaluated : ℤ} {opened : Option SleeveBTrade} (hround : (evaluated, opened) ∈ log) :
    evaluated < fourHourBars.length ∧
      ∃ signal, replaySignal symbol dailyBars fourHourBars cfg evaluated = .ok signal ∧
        (opened = none ∧ signal.side = none ∨
          ∃ side trade, opened = some trade ∧ signal.side = some side ∧
            simulateTrade symbol side fourHourBars evaluated cfg = .ok trade) := by
  induction h with
  | done hend => simp at hround
  | pass hindex hsignal hside rest ih =>
    cases List.mem_cons.mp hround with
    | inl hhead =>
      obtain ⟨rfl, rfl⟩ := Prod.mk.inj hhead
      exact ⟨hindex, _, hsignal, Or.inl ⟨rfl, hside⟩⟩
    | inr htail => exact ih htail
  | enter hindex hsignal hside htrade rest ih =>
    cases List.mem_cons.mp hround with
    | inl hhead =>
      obtain ⟨rfl, rfl⟩ := Prod.mk.inj hhead
      exact ⟨hindex, _, hsignal, Or.inr ⟨_, _, rfl, hside, htrade⟩⟩
    | inr htail => exact ih htail

end Replayed

end Replay

-- The samples: days that rise, and a breakout that is stopped out two bars later.

def risingDays : List OhlcBar :=
  (List.range 200).map fun n => ⟨"0", n + 1, n + 1, n + 1, n + 1⟩

def breakoutBars : List OhlcBar := [
  ⟨"1", 10, 11, 9, 10⟩, ⟨"2", 10, 11, 9, 10⟩, ⟨"3", 10, 13, 9, 12⟩, ⟨"4", 12, 14, 11, 13⟩,
  ⟨"5", 13, 13, 1, 2⟩]

def shortReplayConfig : SleeveBReplayConfig where
  donchianLookbackBars := 1
  atrPeriod := 1

open scoped ExactDecimals in
example : (runSleeveBReplay "BTCUSDT" risingDays breakoutBars shortReplayConfig).map (fun result =>
    result.trades.map fun trade => (trade.entryPrice, trade.initialStop, trade.exitReason, trade.barsHeld))
        = .ok [(12, 2, .stopLoss, 2)] := by
  decide +kernel

-- Days at one level, which the averages keep in 28 digits, and a rise on the last of them.

def steadyDays : List OhlcBar := List.replicate 199 ⟨"0", 100, 101, 99, 100⟩ ++ [⟨"0", 100, 106, 99, 105⟩]

section Rounding

open scoped DefaultContext

theorem regime_steadyDays : regimeFromDailyClose (steadyDays.map OhlcBar.close) = .ok .bull := by
  have hlevel : ∀ close ∈ (List.replicate 199 (⟨"0", 100, 101, 99, 100⟩ : OhlcBar)).map OhlcBar.close,
      close = 100 := by
    rw [List.map_replicate]
    exact fun close hclose => List.eq_of_mem_replicate hclose
  rw [steadyDays, List.map_append]
  refine (regimeFromDailyClose_of_level 105 ?_ hlevel (by decide +kernel) (by decide +kernel)).trans ?_
  · rw [List.length_map, List.length_replicate]
  · decide +kernel

theorem replaySignal_steadyDays (symbol : String) {fourHourBars : List OhlcBar} {cfg : SleeveBReplayConfig}
    {index : ℤ} {bar : OhlcBar} (hbar : itemAt fourHourBars index = .ok bar) (hstamp : "0" ≤ bar.timestamp) :
    replaySignal symbol steadyDays fourHourBars cfg index =
      donchianSignal symbol .bull ((Sequence.upTo fourHourBars (index + 1)).map OhlcBar.close)
        ((Sequence.upTo fourHourBars (index + 1)).map OhlcBar.high)
        ((Sequence.upTo fourHourBars (index + 1)).map OhlcBar.low) cfg.donchianLookbackBars := by
  have hall : ∀ day ∈ steadyDays, decide (day.timestamp ≤ bar.timestamp) = true := by
    intro day hday
    have hday : day.timestamp = "0" := by
      rcases List.mem_append.mp hday with hmem | hmem
      · rw [List.eq_of_mem_replicate hmem]
      · rw [List.mem_singleton.mp hmem]
    exact decide_eq_true (hday ▸ hstamp)
  rw [replaySignal, hbar, ok_bind, dailyClosesUntil, List.filter_eq_self.mpr hall, regime_steadyDays, ok_bind]

end Rounding

end DualSleeve
