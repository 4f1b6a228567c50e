import DualSleeve.Strategies.SleeveBReplay.BuilderAgreement

namespace DualSleeve

open Library Library.Raise

@[mk_iff]
structure OhlcBar.WellFormed (bar : OhlcBar) : Prop where
  low_pos : 0 < bar.low
  low_le_open : bar.low ≤ bar.openPrice
  open_le_high : bar.openPrice ≤ bar.high
  low_le_close : bar.low ≤ bar.close
  close_le_high : bar.close ≤ bar.high

instance (bar : OhlcBar) : Decidable bar.WellFormed :=
  decidable_of_iff' _ (OhlcBar.wellFormed_iff bar)

theorem OhlcBar.WellFormed.closesInside {bar : OhlcBar} (h : bar.WellFormed) : bar.ClosesInside :=
  ⟨h.low_le_close, h.close_le_high⟩

theorem OhlcBar.WellFormed.close_pos {bar : OhlcBar} (h : bar.WellFormed) : 0 < bar.close :=
  h.low_pos.trans_le h.low_le_close

-- The last bar of the channel is the one before the breakout.
theorem previous_mem_channel {bars : List OhlcBar} {lookbackBars : ℤ} {previous : OhlcBar}
    (hlookback : 1 ≤ lookbackBars) (hlength : lookbackBars + 1 ≤ bars.length)
    (hprevious : itemAt bars (bars.length - 2) = .ok previous) : previous ∈ channel bars lookbackBars := by
  rw [channel_eq (by omega) hlength]
  rw [itemAt_eq_ok, Sequence.item?_of_nonneg (by omega)] at hprevious
  have hplace : bars.length - 1 - lookbackBars.toNat + (lookbackBars.toNat - 1) =
      ((bars.length : ℤ) - 2).toNat := by omega
  have hitem : (bars.dropLast.drop (bars.length - 1 - lookbackBars.toNat))[lookbackBars.toNat - 1]? =
      some previous := by
    rw [List.getElem?_drop, hplace, List.getElem?_dropLast, if_pos (by omega), hprevious]
  exact List.mem_of_getElem? hitem

section Completeness

variable [DecimalContext]

-- An entry of the market at the index: a breakout in the direction of the regime.
def BreaksOut (dailyBars bars : List OhlcBar) (lookbackBars index : ℤ) : Prop :=
  ∃ bar, itemAt bars index = .ok bar ∧
    (BreaksUp dailyBars bars lookbackBars index bar ∨ BreaksDown dailyBars bars lookbackBars index bar)

-- Every candidate of the builder is entered by the replay, or falls into one of its trades.
def MissesNoEntry (symbol : String) (dailyBars fourHourBars : List OhlcBar) (cfg : SleeveBReplayConfig)
    (builder : SleeveBCandidateBuilderConfig) : Prop :=
  ∀ index bar build, 0 ≤ index → itemAt fourHourBars index = .ok bar →
    buildSleeveBCandidate (marketDataAt symbol dailyBars fourHourBars index bar) builder = .ok build →
    build.candidate.isSome →
    ∃ result log, runSleeveBReplay symbol dailyBars fourHourBars cfg = .ok result ∧
      Replayed symbol dailyBars fourHourBars cfg cfg.startIndex log ∧
      result.trades = (entries log).map Prod.snd ∧
      ∃ entry ∈ entries log,
        entry.1 = index ∨ entry.1 < index ∧ index < entry.1 + entry.2.barsHeld

variable {symbol : String} {dailyBars fourHourBars : List OhlcBar} {cfg : SleeveBReplayConfig}
  {builder : SleeveBCandidateBuilderConfig} {index : ℤ}

-- Where the builder has a candidate, its data is long enough and the bar is a breakout.
theorem candidate_iff (symbol : String) (hcfg : MatchingConfigs cfg builder)
    (hlookback : 1 ≤ cfg.donchianLookbackBars) (hatr : 1 ≤ cfg.atrPeriod) {bar : OhlcBar} (hindex : 0 ≤ index)
    (hbar : itemAt fourHourBars index = .ok bar) :
    (∃ build, buildSleeveBCandidate (marketDataAt symbol dailyBars fourHourBars index bar) builder =
        .ok build ∧ build.candidate.isSome) ↔
      cfg.startIndex - 1 ≤ index ∧ BreaksOut dailyBars fourHourBars cfg.donchianLookbackBars index := by
  have hlt := index_lt_of_item hindex hbar
  by_cases hgate : cfg.startIndex - 1 ≤ index
  · have hlong : cfg.donchianLookbackBars ≤ index := by
      unfold SleeveBReplayConfig.startIndex at hgate
      omega
    obtain ⟨signal, atrValue, build, hsignal, -, hbuild, hcandidate⟩ :=
      buildSleeveBCandidate_at symbol dailyBars hcfg hlookback hatr hgate hlt hbar
    obtain ⟨-, signal', -, -, hsignal', hup, hdown⟩ :=
      replaySignal_at symbol dailyBars hlookback hlong hlt hbar
    obtain rfl := Except.ok.inj (hsignal.symm.trans hsignal')
    have hside : build.candidate.isSome ↔ signal.side = some .long ∨ signal.side = some .short := by
      rw [hcandidate, Option.isSome_map]
      cases signal.side with
      | none => simp
      | some side => cases side <;> simp
    rw [hup, hdown] at hside
    constructor
    · intro h
      obtain ⟨build', hbuild', hsome⟩ := h
      obtain rfl := Except.ok.inj (hbuild.symm.trans hbuild')
      exact ⟨hgate, bar, hbar, hside.mp hsome⟩
    · intro h
      obtain ⟨-, bar', hbar', hbreak⟩ := h
      obtain rfl := Except.ok.inj (hbar.symm.trans hbar')
      exact ⟨build, hbuild, hside.mpr hbreak⟩
  · refine ⟨fun h => ?_, fun h => absurd h.1 hgate⟩
    exfalso
    obtain ⟨build, hbuild, hsome⟩ := h
    have hlength := length_upTo hindex hlt
    unfold SleeveBReplayConfig.startIndex at hgate
    unfold buildSleeveBCandidate at hbuild
    by_cases hdaily : (marketDataAt symbol dailyBars fourHourBars index bar).dailyBars.length < 200
    · rw [if_pos hdaily] at hbuild
      obtain rfl := Except.ok.inj hbuild
      cases hsome
    · have hshort : ((marketDataAt symbol dailyBars fourHourBars index bar).fourHourBars.length : ℤ) <
          max (builder.donchianLookbackBars + 1) (builder.atrPeriod + 1) := by
        rw [marketDataAt, hlength, hcfg.lookback_eq, hcfg.atr_eq]
        omega
      rw [if_neg hdaily, if_pos hshort] at hbuild
      obtain rfl := Except.ok.inj hbuild
      cases hsome

theorem OhlcBar.trueRange_pos {bar : OhlcBar} {previousClose : ℚ}
    (h : bar.high ≠ previousClose ∨ bar.low ≠ previousClose) : 0 < bar.trueRange previousClose := by
  have hmoved : ∀ price, price ≠ previousClose → 0 < rounded |rounded (price - previousClose)| :=
    fun price hne => rounded_pos (abs_pos.mpr (rounded_ne_zero (sub_ne_zero.mpr hne)))
  rcases h with hhigh | hlow
  · exact lt_max_of_lt_left (lt_max_of_lt_right (hmoved _ hhigh))
  · exact lt_max_of_lt_right (hmoved _ hlow)

-- A bar that closes outside the channel has moved away from the close before it, so the
-- average true range is positive.
theorem atr_pos_of_breakout {bars : List OhlcBar} {lookbackBars period : ℤ} {bar : OhlcBar}
    (hlookback : 1 ≤ lookbackBars) (hperiod : 1 ≤ period) (hbars : ∀ bar ∈ bars, bar.ClosesInside)
    (hlength : max (lookbackBars + 1) (period + 1) ≤ bars.length) (hlast : bars.getLast? = some bar)
    (hbreak : (∀ earlier ∈ channel bars lookbackBars, earlier.high < bar.close) ∨
      ∀ earlier ∈ channel bars lookbackBars, bar.close < earlier.low) :
    ∃ atrValue, averageTrueRange bars period = .ok atrValue ∧ 0 < atrValue := by
  obtain ⟨atrValue, hatrValue, hpos⟩ := averageTrueRange_ok bars hperiod (by omega)
  refine ⟨atrValue, hatrValue, ?_⟩
  obtain ⟨previous, hprevious⟩ := itemAt_ok bars (bars.length - 2) (by omega) (by omega)
  have hmem := previous_mem_channel hlookback (by omega) hprevious
  have hinside := hbars bar (List.mem_of_getLast? hlast)
  have hinside' := hbars previous (mem_of_item (by omega) hprevious)
  refine hpos (bar.trueRange previous.close) (trueRangeAt_of_items ?_ ?_) ?_
  · rw [itemAt_eq_ok, Sequence.item?_of_nonneg (by omega), ← hlast, List.getLast?_eq_getElem?]
    congr 1
    omega
  · rw [show (bars.length : ℤ) - 1 - 1 = bars.length - 2 by omega, hprevious]
  · apply OhlcBar.trueRange_pos
    cases hbreak with
    | inl hup =>
      have hleft := hup previous hmem
      exact .inl (by linarith [hinside'.2, hinside.2] : previous.close < bar.high).ne'
    | inr hdown =>
      have hleft := hdown previous hmem
      exact .inr (by linarith [hinside'.1, hinside.1] : bar.low < previous.close).ne

theorem atr_pos_of_breaksOut (hlookback : 1 ≤ cfg.donchianLookbackBars) (hatr : 1 ≤ cfg.atrPeriod)
    (hbars : ∀ bar ∈ fourHourBars, bar.ClosesInside) (hgate : cfg.startIndex - 1 ≤ index)
    (hindex : index < fourHourBars.length)
    (hbreak : BreaksOut dailyBars fourHourBars cfg.donchianLookbackBars index) :
    ∃ atrValue, replayAtr (Sequence.upTo fourHourBars (index + 1)) cfg.atrPeriod = .ok atrValue ∧
      0 < atrValue := by
  unfold SleeveBReplayConfig.startIndex at hgate
  have hlength := length_upTo (by omega) hindex
  obtain ⟨bar, hbar, hdirection⟩ := hbreak
  have hsoFar : ∀ bar ∈ Sequence.upTo fourHourBars (index + 1), bar.ClosesInside := fun bar hmem =>
    hbars bar (List.mem_of_mem_take hmem)
  refine atr_pos_of_breakout hlookback hatr hsoFar (by omega) (last_upTo (by omega) hbar) ?_
  exact hdirection.imp (fun hup => hup.2) (fun hdown => hdown.2)

-- Whatever is left of a trade can be closed, for there is a last bar.
theorem closeAtEnd_ok {bar : OhlcBar} (hbar : itemAt fourHourBars index = .ok bar) (plan : TradePlan)
    (state : TradeState) : ∃ final, plan.closeAtEnd fourHourBars index state = .ok final := by
  unfold TradePlan.closeAtEnd
  by_cases hopen : state.remainingFraction > 0
  · rw [if_pos hopen]
    cases hlast : fourHourBars.getLast? with
    | none =>
      rw [List.getLast?_eq_none_iff] at hlast
      subst hlast
      rw [itemAt_eq_ok] at hbar
      simp [Sequence.item?] at hbar
    | some last => exact ⟨_, bind_of_ok (itemAt_last hlast)⟩
  · rw [if_neg hopen]
    exact ⟨_, rfl⟩

-- Past its checks a simulation returns.
theorem simulateTrade_ok (symbol : String) (side : PositionSide) {bar : OhlcBar} {atrValue : ℚ}
    (hbar : itemAt fourHourBars index = .ok bar)
    (hatr : replayAtr (Sequence.upTo fourHourBars (index + 1)) cfg.atrPeriod = .ok atrValue)
    (hstop : 0 < rounded (atrValue * cfg.stopAtrMultiple)) (hentry : bar.close ≠ 0) (hunit : cfg.unitR ≠ 0) :
    ∃ trade, simulateTrade symbol side fourHourBars index cfg = .ok trade := by
  obtain ⟨final, hfinal⟩ := closeAtEnd_ok hbar _ _
  exact ⟨_, simulateTrade_eq_ok.mpr ⟨bar, _, final,
    ⟨hbar, ⟨atrValue, hatr, rfl⟩, hstop, hentry, hunit, hfinal⟩, rfl⟩⟩

-- A replay whose entries can all be simulated gets through to the last bar.
theorem exists_replayed (rounds : ℕ) (hrounds : fourHourBars.length - index ≤ rounds)
    (hsignal : ∀ place, index ≤ place → place < fourHourBars.length →
      ∃ signal, replaySignal symbol dailyBars fourHourBars cfg place = .ok signal ∧
        ∀ side, signal.side = some side →
          ∃ trade, simulateTrade symbol side fourHourBars place cfg = .ok trade) :
    ∃ log, Replayed symbol dailyBars fourHourBars cfg index log := by
  induction rounds generalizing index with
  | zero => exact ⟨_, .done (by omega)⟩
  | succ rounds ih =>
    by_cases hindex : index < fourHourBars.length
    · obtain ⟨signal, hread, htrade⟩ := hsignal index le_rfl hindex
      cases hside : signal.side with
      | none =>
        obtain ⟨log, hlog⟩ := ih (by omega : fourHourBars.length - (index + 1) ≤ rounds)
          fun place hplace hlt => hsignal place (by omega) hlt
        exact ⟨_, .pass hindex hread hside hlog⟩
      | some side =>
        obtain ⟨trade, htrade⟩ := htrade side hside
        obtain ⟨log, hlog⟩ := ih
          (by omega : fourHourBars.length - (index + max trade.barsHeld 1) ≤ rounds)
          fun place hplace hlt => hsignal place (by omega) hlt
        exact ⟨_, .enter hindex hread hside htrade hlog⟩
    · exact ⟨_, .done (by omega)⟩

-- Every index with an entry signal is entered or falls into a trade.
theorem Replayed.covers {log : List (ℤ × Option SleeveBTrade)}
    (h : Replayed symbol dailyBars fourHourBars cfg index log) {place : ℤ} {signal : SleeveBSignal}
    (hle : index ≤ place) (hlt : place < fourHourBars.length)
    (hsignal : replaySignal symbol dailyBars fourHourBars cfg place = .ok signal)
    (hside : signal.side ≠ none) :
    ∃ entry ∈ entries log, entry.1 = place ∨ entry.1 < place ∧ place < entry.1 + entry.2.barsHeld := by
  induction h with
  | done hend => omega
  | @pass index signal' log hindex hsignal' hside' rest ih =>
    have hne : index ≠ place := by
      intro heq
      subst heq
      obtain rfl := Except.ok.inj (hsignal.symm.trans hsignal')
      exact hside hside'
    exact ih (by omega)
  | @enter index signal' side trade log hindex hsignal' hside' htrade rest ih =>
    by_cases hnear : place < index + max trade.barsHeld 1
    · refine ⟨(index, trade), List.mem_cons_self, ?_⟩
      by_cases heq : index = place
      · exact Or.inl heq
      · refine Or.inr ⟨?_, ?_⟩
        · show index < place
          omega
        · show place < index + trade.barsHeld
          omega
    · obtain ⟨entry, hentry, hcover⟩ := ih (by omega)
      exact ⟨entry, List.mem_cons_of_mem _ hentry, hcover⟩

theorem averageTrueRange_nonneg {bars : List OhlcBar} {period : ℤ} {atrValue : ℚ} (hperiod : 1 ≤ period)
    (h : averageTrueRange bars period = .ok atrValue) : 0 ≤ atrValue := by
  unfold averageTrueRange at h
  by_cases hshort : (bars.length : ℤ) < period + 1
  · rw [if_pos hshort] at h
    cases h
  rw [if_neg hshort] at h
  obtain ⟨trueRanges, hranges, h⟩ := bind_eq_ok.mp h
  obtain ⟨average, haverage, h⟩ := bind_eq_ok.mp h
  obtain ⟨-, rfl⟩ := divide_eq_ok.mp haverage
  obtain rfl := Except.ok.inj h
  have hperiodQ : (0 : ℚ) ≤ period := by exact_mod_cast (by omega : 0 ≤ period)
  refine rounded_nonneg (div_nonneg (sumOf_nonneg fun range hrange => ?_) hperiodQ)
  obtain ⟨index, -, hindex⟩ := (mem_mapM hranges).mp hrange
  exact trueRangeAt_nonneg hindex

-- A trade of the rounds has passed the checks of its simulation.
theorem Replayed.simulated_of_entry {log : List (ℤ × Option SleeveBTrade)}
    (h : Replayed symbol dailyBars fourHourBars cfg index log) (hatr : 1 ≤ cfg.atrPeriod)
    {entry : ℤ × SleeveBTrade} (hentry : entry ∈ entries log) :
    0 < cfg.stopAtrMultiple ∧ cfg.unitR ≠ 0 := by
  obtain ⟨place, trade⟩ := entry
  have hround := mem_entries.mp hentry
  obtain ⟨-, signal, -, hopened⟩ := h.round_of_mem hround
  cases hopened with
  | inl hnone => cases hnone.1
  | inr hsome =>
    obtain ⟨side, trade', -, -, htrade⟩ := hsome
    obtain ⟨bar, stopDistance, final, hsimulated, -⟩ := simulateTrade_eq_ok.mp htrade
    obtain ⟨atrValue, hatrValue, rfl⟩ := hsimulated.atr_eq
    have hstop := pos_of_rounded_pos hsimulated.stop_pos
    exact ⟨pos_of_mul_pos_right hstop (averageTrueRange_nonneg hatr hatrValue), hsimulated.unit_ne⟩

-- With a positive stop multiple and risk unit, every entry signal of bars that close inside
-- their range, at no zero price, can be traded.
theorem signal_simulated (symbol : String) (dailyBars : List OhlcBar)
    (hlookback : 1 ≤ cfg.donchianLookbackBars) (hatr : 1 ≤ cfg.atrPeriod)
    (hbars : ∀ bar ∈ fourHourBars, bar.ClosesInside) (hprices : ∀ bar ∈ fourHourBars, bar.close ≠ 0)
    (hmultiple : 0 < cfg.stopAtrMultiple) (hunit : cfg.unitR ≠ 0) (hgate : cfg.startIndex - 1 ≤ index)
    (hlt : index < fourHourBars.length) :
    ∃ signal, replaySignal symbol dailyBars fourHourBars cfg index = .ok signal ∧
      (signal.side ≠ none ↔ BreaksOut dailyBars fourHourBars cfg.donchianLookbackBars index) ∧
      ∀ side, signal.side = some side →
        ∃ trade, simulateTrade symbol side fourHourBars index cfg = .ok trade := by
  have hlong : cfg.donchianLookbackBars ≤ index := by
    unfold SleeveBReplayConfig.startIndex at hgate
    omega
  obtain ⟨bar, hbar⟩ := itemAt_ok fourHourBars index (by omega) hlt
  obtain ⟨-, signal, -, -, hsignal, hup, hdown⟩ :=
    replaySignal_at symbol dailyBars hlookback hlong hlt hbar
  have hside : signal.side ≠ none ↔
      BreaksOut dailyBars fourHourBars cfg.donchianLookbackBars index := by
    constructor
    · intro h
      refine ⟨bar, hbar, ?_⟩
      rw [← hup, ← hdown]
      cases hcase : signal.side with
      | none => exact absurd hcase h
      | some side => cases side <;> simp
    · intro h hnone
      obtain ⟨bar', hbar', hdirection⟩ := h
      obtain rfl := Except.ok.inj (hbar.symm.trans hbar')
      rw [← hup, ← hdown, hnone] at hdirection
      simp at hdirection
  refine ⟨signal, hsignal, hside, fun side hsome => ?_⟩
  obtain ⟨atrValue, hatrValue, hpos⟩ := atr_pos_of_breaksOut hlookback hatr hbars hgate hlt
    (hside.mp (by simp [hsome]))
  have hentry := hprices bar (mem_of_item (by omega) hbar)
  exact simulateTrade_ok symbol side hbar hatrValue (rounded_pos (mul_pos hpos hmultiple)) hentry hunit

-- A breakout the builder accepts is a candidate, which the replay then has to cover.
theorem MissesNoEntry.covers (h : MissesNoEntry symbol dailyBars fourHourBars cfg builder)
    (hcfg : MatchingConfigs cfg builder) (hlookback : 1 ≤ cfg.donchianLookbackBars)
    (hatr : 1 ≤ cfg.atrPeriod) (hindex : 0 ≤ index) (hgate : cfg.startIndex - 1 ≤ index)
    (hbreak : BreaksOut dailyBars fourHourBars cfg.donchianLookbackBars index) :
    ∃ log, Replayed symbol dailyBars fourHourBars cfg cfg.startIndex log ∧
      ∃ entry ∈ entries log,
        entry.1 = index ∨ entry.1 < index ∧ index < entry.1 + entry.2.barsHeld := by
  obtain ⟨bar, hbar, hdirection⟩ := hbreak
  obtain ⟨build, hbuild, hsome⟩ :=
    (candidate_iff symbol hcfg hlookback hatr hindex hbar).mpr ⟨hgate, bar, hbar, hdirection⟩
  obtain ⟨result, log, -, hlog, -, hentry⟩ := h index bar build hindex hbar hbuild hsome
  exact ⟨log, hlog, hentry⟩

-- The replay enters every candidate exactly when the market does not break out at the
-- first index the builder accepts, which the replay skips, and the config lets later
-- breakouts be traded.
theorem missesNoEntry_iff (hcfg : MatchingConfigs cfg builder) (hlookback : 1 ≤ cfg.donchianLookbackBars)
    (hatr : 1 ≤ cfg.atrPeriod) (hbars : ∀ bar ∈ fourHourBars, bar.WellFormed) :
    MissesNoEntry symbol dailyBars fourHourBars cfg builder ↔
      ¬ BreaksOut dailyBars fourHourBars cfg.donchianLookbackBars
          (max cfg.donchianLookbackBars cfg.atrPeriod) ∧
        ((∀ index, max cfg.donchianLookbackBars cfg.atrPeriod < index →
            ¬ BreaksOut dailyBars fourHourBars cfg.donchianLookbackBars index) ∨
          0 < cfg.stopAtrMultiple ∧ cfg.unitR ≠ 0) := by
  have hstart : cfg.startIndex = max cfg.donchianLookbackBars cfg.atrPeriod + 1 := by
    unfold SleeveBReplayConfig.startIndex
    omega
  constructor
  · intro h
    refine ⟨fun hbreak => ?_, ?_⟩
    · -- No round is as early as the first index the builder accepts.
      obtain ⟨log, hlog, entry, hentry, hplace⟩ := h.covers hcfg hlookback hatr (by omega) (by omega) hbreak
      have hle := hlog.le_of_mem (mem_entries.mp hentry)
      omega
    · by_cases hquiet : ∀ index, max cfg.donchianLookbackBars cfg.atrPeriod < index →
          ¬ BreaksOut dailyBars fourHourBars cfg.donchianLookbackBars index
      · exact Or.inl hquiet
      · obtain ⟨index, hindex⟩ := not_forall.mp hquiet
        obtain ⟨hlater, hbreak⟩ := Classical.not_imp.mp hindex
        obtain ⟨log, hlog, entry, hentry, -⟩ :=
          h.covers hcfg hlookback hatr (by omega) (by omega) (not_not.mp hbreak)
        exact Or.inr (hlog.simulated_of_entry hatr hentry)
  · intro h index bar build hindex hbar hbuild hsome
    obtain ⟨hfirst, hlater⟩ := h
    obtain ⟨hgate, hbreak⟩ :=
      (candidate_iff symbol hcfg hlookback hatr hindex hbar).mp ⟨build, hbuild, hsome⟩
    have hne : max cfg.donchianLookbackBars cfg.atrPeriod ≠ index := fun heq => hfirst (heq ▸ hbreak)
    have hlt := index_lt_of_item hindex hbar
    cases hlater with
    | inl hquiet => exact absurd hbreak (hquiet index (by omega))
    | inr hconfig =>
      obtain ⟨hmultiple, hunit⟩ := hconfig
      have hinside : ∀ bar ∈ fourHourBars, bar.ClosesInside := fun bar hmem =>
        (hbars bar hmem).closesInside
      have hprices : ∀ bar ∈ fourHourBars, bar.close ≠ 0 := fun bar hmem =>
        ne_of_gt (hbars bar hmem).close_pos
      obtain ⟨log, hlog⟩ := exists_replayed fourHourBars.length
        (by omega : fourHourBars.length - cfg.startIndex ≤ fourHourBars.length)
        fun place hplace hlt => by
          obtain ⟨signal, hsignal, -, htrade⟩ := signal_simulated symbol dailyBars hlookback hatr hinside
            hprices hmultiple hunit (by omega : cfg.startIndex - 1 ≤ place) hlt
          exact ⟨signal, hsignal, htrade⟩
      obtain ⟨signal, hsignal, hside, -⟩ := signal_simulated symbol dailyBars hlookback hatr hinside
        hprices hmultiple hunit hgate hlt
      exact ⟨_, log, runSleeveBReplay_eq_ok.mpr ⟨log, hlog, rfl⟩, hlog, rfl,
        hlog.covers (by omega) hlt hsignal (hside.mpr hbreak)⟩

end Completeness

-- A breakout at the second bar: enough for the builder, and before the replay's first index.

def earlyBreakoutBars : List OhlcBar := [
  ⟨"1", 10, 11, 9, 10⟩, ⟨"2", 10, 13, 9, 12⟩, ⟨"3", 12, 13, 11, 12⟩]

section Samples

open scoped ExactDecimals

theorem replay_misses_first_breakout :
    (∀ bar ∈ earlyBreakoutBars, bar.WellFormed) ∧
      (buildSleeveBCandidate (marketDataAt "BTCUSDT" risingDays earlyBreakoutBars 1
        ⟨"2", 10, 13, 9, 12⟩) shortBuilderConfig).map (fun build => build.candidate.isSome) =
          .ok true ∧
      (runSleeveBReplay "BTCUSDT" risingDays earlyBreakoutBars shortReplayConfig).map
        SleeveBReplayResult.trades = .ok [] ∧
      ¬ MissesNoEntry "BTCUSDT" risingDays earlyBreakoutBars shortReplayConfig shortBuilderConfig := by
  have hcandidate : (buildSleeveBCandidate (marketDataAt "BTCUSDT" risingDays earlyBreakoutBars 1
      ⟨"2", 10, 13, 9, 12⟩) shortBuilderConfig).map (fun build => build.candidate.isSome) =
        .ok true := by
    decide +kernel
  have hquiet : (runSleeveBReplay "BTCUSDT" risingDays earlyBreakoutBars shortReplayConfig).map
      SleeveBReplayResult.trades = .ok [] := by
    decide +kernel
  refine ⟨by decide +kernel, hcandidate, hquiet, fun h => ?_⟩
  obtain ⟨build, hbuild, hsome⟩ := map_eq_ok.mp hcandidate
  obtain ⟨result, log, hrun, -, htrades, entry, hentry, -⟩ :=
    h 1 ⟨"2", 10, 13, 9, 12⟩ build (by decide) rfl hbuild hsome
  rw [hrun] at hquiet
  have hnone : (entries log).map Prod.snd = [] := htrades.symm.trans (Except.ok.inj hquiet)
  rw [List.map_eq_nil_iff] at hnone
  rw [hnone] at hentry
  cases hentry

theorem missesNoEntry_iff_breakout :
    MissesNoEntry "BTCUSDT" risingDays breakoutBars shortReplayConfig shortBuilderConfig := by
  have hcfg : MatchingConfigs shortReplayConfig shortBuilderConfig := ⟨rfl, rfl, rfl, rfl⟩
  refine (missesNoEntry_iff hcfg (by decide) (by decide) (by decide +kernel)).mpr ⟨?_, Or.inr ?_⟩
  · intro hbreak
    obtain ⟨bar, hbar, hdirection⟩ := hbreak
    obtain rfl := Except.ok.inj hbar
    have hmem : (⟨"1", 10, 11, 9, 10⟩ : OhlcBar) ∈ channel (Sequence.upTo breakoutBars 2) 1 := by
      decide +kernel
    cases hdirection with
    | inl hup => exact absurd (hup.2 _ hmem) (by norm_num)
    | inr hdown => exact absurd (hdown.2 _ hmem) (by norm_num)
  · exact ⟨by norm_num [shortReplayConfig], by norm_num [shortReplayConfig]⟩

end Samples

end DualSleeve
