import DualSleeve.Strategies.SleeveBReplay.Completeness

namespace DualSleeve

open Library Library.Raise

@[mk_iff]
structure SleeveBCandidateBuilderConfig.Usable (cfg : SleeveBCandidateBuilderConfig) : Prop where
  lookback_pos : 1 ≤ cfg.donchianLookbackBars
  atr_pos : 1 ≤ cfg.atrPeriod
  ema_pos : 1 ≤ cfg.oneHourEmaPeriod
  multiple_pos : 0 < cfg.stopAtrMultiple

@[mk_iff]
structure SleeveBReplayConfig.Usable (cfg : SleeveBReplayConfig) : Prop where
  lookback_pos : 1 ≤ cfg.donchianLookbackBars
  atr_pos : 1 ≤ cfg.atrPeriod
  multiple_pos : 0 < cfg.stopAtrMultiple
  unit_pos : 0 < cfg.unitR

instance (cfg : SleeveBCandidateBuilderConfig) : Decidable cfg.Usable :=
  decidable_of_iff' _ (SleeveBCandidateBuilderConfig.usable_iff cfg)

instance (cfg : SleeveBReplayConfig) : Decidable cfg.Usable :=
  decidable_of_iff' _ (SleeveBReplayConfig.usable_iff cfg)

theorem SleeveBReplayConfig.Usable.startIndex_nonneg {cfg : SleeveBReplayConfig} (h : cfg.Usable) :
    0 ≤ cfg.startIndex := by
  have hlookback := h.lookback_pos
  unfold SleeveBReplayConfig.startIndex
  omega

section Totality

variable [DecimalContext]

-- But for the rounding, the stop of a candidate is on the side of the loss.
def SleeveBSignalCandidate.StopsLoss (candidate : SleeveBSignalCandidate) : Prop :=
  match candidate.side with
  | .long => ∃ stop, stop < candidate.entryPrice ∧ candidate.stopPrice = rounded stop
  | .short => ∃ stop, candidate.entryPrice < stop ∧ candidate.stopPrice = rounded stop

theorem runSleeveBReplay_ok (symbol : String) (dailyBars : List OhlcBar) {fourHourBars : List OhlcBar}
    {cfg : SleeveBReplayConfig} (hcfg : cfg.Usable)
    (hbars : ∀ bar ∈ fourHourBars, bar.ClosesInside ∧ 0 < bar.low) :
    ∃ result, runSleeveBReplay symbol dailyBars fourHourBars cfg = .ok result := by
  have hprices : ∀ bar ∈ fourHourBars, bar.close ≠ 0 := fun bar hbar =>
    ne_of_gt ((hbars bar hbar).2.trans_le (hbars bar hbar).1.1)
  obtain ⟨log, hlog⟩ := exists_replayed fourHourBars.length
    (by have hstart := hcfg.startIndex_nonneg; omega :
      fourHourBars.length - cfg.startIndex ≤ fourHourBars.length)
    fun place hplace hlt => by
      obtain ⟨signal, hsignal, -, htrade⟩ := signal_simulated symbol dailyBars hcfg.lookback_pos
        hcfg.atr_pos (fun bar hbar => (hbars bar hbar).1) hprices hcfg.multiple_pos
        (ne_of_gt hcfg.unit_pos) (by omega : cfg.startIndex - 1 ≤ place) hlt
      exact ⟨signal, hsignal, htrade⟩
  exact ⟨_, runSleeveBReplay_eq_ok.mpr ⟨log, hlog, rfl⟩⟩

end Totality

open scoped ExactDecimals in
-- Where nothing is rounded, the stop is strictly on that side.
theorem ExactDecimals.stopsLoss_iff (candidate : SleeveBSignalCandidate) :
    candidate.StopsLoss ↔ match candidate.side with
      | .long => candidate.stopPrice < candidate.entryPrice
      | .short => candidate.entryPrice < candidate.stopPrice := by
  unfold SleeveBSignalCandidate.StopsLoss
  cases candidate.side with
  | long => exact ⟨fun ⟨_, hlt, heq⟩ => heq.trans_lt hlt, fun hlt => ⟨_, hlt, rfl⟩⟩
  | short => exact ⟨fun ⟨_, hlt, heq⟩ => hlt.trans_eq heq.symm, fun hlt => ⟨_, hlt, rfl⟩⟩

section Rounding

open scoped DefaultContext

end Rounding

end DualSleeve
