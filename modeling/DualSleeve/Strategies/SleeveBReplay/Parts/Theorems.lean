import DualSleeve.Strategies.SleeveBReplay.Parts
import DualSleeve.Strategies.SleeveBReplay.PrefixStability
import Mathlib.Data.List.Induction

namespace DualSleeve

open Library Library.Raise
open scoped ExactDecimals

theorem pnl_eq (side : PositionSide) (entry price quantity : ℚ) :
    pnl side entry price quantity = gain side entry price * quantity := by
  cases side <;> rfl

@[simp] theorem gain_entry (side : PositionSide) (entry : ℚ) : gain side entry entry = 0 := by
  cases side <;> exact sub_self entry

@[simp] theorem gain_profitAt (side : PositionSide) (entry distance : ℚ) :
    gain side entry (profitAt side entry distance) = distance := by
  cases side
  · exact add_sub_cancel_left entry distance
  · exact sub_sub_cancel entry distance

@[simp] theorem gain_stopAt (side : PositionSide) (entry stopDistance : ℚ) :
    gain side entry (stopAt side entry stopDistance) = -stopDistance := by
  cases side
  · exact sub_sub_cancel_left entry stopDistance
  · exact sub_add_cancel_left entry stopDistance

-- The initial stop lies away from the entry.
theorem stopAt_ne (side : PositionSide) (entry : ℚ) {stopDistance : ℚ} (h : 0 < stopDistance) :
    entry ≠ stopAt side entry stopDistance := by
  intro heq
  have hgain := gain_stopAt side entry stopDistance
  rw [← heq, gain_entry] at hgain
  linarith

-- A target is hit when the best price of the bar gains as much, the stop when its worst
-- price gains no more.

theorem targetHit_iff (side : PositionSide) (bar : OhlcBar) (entry price : ℚ) :
    targetHit side bar price = true ↔ gain side entry price ≤ gain side entry (bar.best side) := by
  cases side
  · exact decide_eq_true_iff.trans (sub_le_sub_iff_right entry).symm
  · exact decide_eq_true_iff.trans (sub_le_sub_iff_left entry).symm

theorem stopHit_iff (side : PositionSide) (bar : OhlcBar) (entry price : ℚ) :
    stopHit side bar price = true ↔ gain side entry (bar.worst side) ≤ gain side entry price := by
  cases side
  · exact decide_eq_true_iff.trans (sub_le_sub_iff_right entry).symm
  · exact decide_eq_true_iff.trans (sub_le_sub_iff_left entry).symm

@[simp] theorem openPart_nil : openPart [] = 1 := rfl

theorem openPart_concat (taken : List Target) (tp : Target) :
    openPart (taken ++ [tp]) = openPart taken - min tp.fraction (openPart taken) := by
  rw [openPart, List.foldl_append]
  rfl

theorem openPart_nonneg (taken : List Target) : 0 ≤ openPart taken := by
  induction taken using List.reverseRecOn with
  | nil => exact zero_le_one
  | append_singleton taken tp ih =>
    rw [openPart_concat]
    exact sub_nonneg.mpr (min_le_right _ _)

theorem partsFrom_append (before first second : List Target) :
    partsFrom before (first ++ second) = partsFrom before first ++ partsFrom (before ++ first) second := by
  induction first generalizing before with
  | nil => rw [List.nil_append, List.append_nil, partsFrom, List.nil_append]
  | cons tp first ih =>
    rw [List.cons_append, partsFrom, partsFrom, ih, List.append_assoc, List.cons_append, List.cons_append,
      List.nil_append]

theorem mem_partsFrom {part : ClosedPart} {before tps : List Target} (h : part ∈ partsFrom before tps) :
    ∃ earlier tp later, tps = earlier ++ tp :: later ∧
      part = ⟨.target tp.label, tp.price, min tp.fraction (openPart (before ++ earlier)),
        (before ++ earlier).map Target.label⟩ := by
  induction tps generalizing before with
  | nil => cases h
  | cons first tps ih =>
    cases List.mem_cons.mp h with
    | inl hhead => exact ⟨[], first, tps, rfl, by rw [hhead, List.append_nil]⟩
    | inr htail =>
      obtain ⟨earlier, tp, later, rfl, hpart⟩ := ih htail
      exact ⟨first :: earlier, tp, later, rfl, by rw [hpart, List.append_cons before first earlier]⟩

-- What is closed at targets and what is left make up the whole.
theorem fractions_partsFrom (before tps : List Target) :
    ((partsFrom before tps).map ClosedPart.fraction).sum = openPart before - openPart (before ++ tps) := by
  induction tps generalizing before with
  | nil => rw [List.append_nil, sub_self, partsFrom, List.map_nil, List.sum_nil]
  | cons tp tps ih =>
    rw [partsFrom, List.map_cons, List.sum_cons, ih, List.append_cons before tp tps, openPart_concat]
    show min tp.fraction (openPart before) + _ = _
    ring

namespace TradePlan

variable {plan : TradePlan}

@[simp] theorem weightedGain_nil : plan.weightedGain [] = 0 := rfl

theorem weightedGain_cons (part : ClosedPart) (parts : List ClosedPart) :
    plan.weightedGain (part :: parts) =
      part.fraction * gain plan.side plan.entry part.price + plan.weightedGain parts := by
  rw [weightedGain, List.map_cons, List.sum_cons]
  rfl

theorem weightedGain_append (first second : List ClosedPart) :
    plan.weightedGain (first ++ second) = plan.weightedGain first + plan.weightedGain second := by
  rw [weightedGain, List.map_append, List.sum_append]
  rfl

@[simp] theorem weightedGain_singleton (part : ClosedPart) :
    plan.weightedGain [part] = part.fraction * gain plan.side plan.entry part.price := by
  rw [weightedGain_cons, weightedGain_nil, add_zero]

-- A pnl booked on a part of the quantity adds its weighted gain.
theorem realized_concat {realized fraction price : ℚ} {parts : List ClosedPart}
    (h : realized = plan.quantity * plan.weightedGain parts) (closedBy : ClosedBy)
    (hits : List TakeProfit) :
    realized + pnl plan.side plan.entry price (plan.quantity * fraction) =
      plan.quantity * plan.weightedGain (parts ++ [⟨closedBy, price, fraction, hits⟩]) := by
  rw [weightedGain_append, weightedGain_singleton, pnl_eq, h]
  ring

theorem stopInForce_nil : plan.stopInForce [] = plan.initialStop := rfl

theorem stopInForce_of_hit {taken : List Target} (h : .tp1 ∈ taken.map Target.label) :
    plan.stopInForce taken = plan.entry :=
  if_pos h

theorem stopInForce_of_not_hit {taken : List Target} (h : .tp1 ∉ taken.map Target.label) :
    plan.stopInForce taken = plan.initialStop :=
  if_neg h

theorem stopInForce_concat (taken : List Target) (tp : Target) :
    plan.stopInForce (taken ++ [tp]) =
      if tp.label = .tp1 then plan.entry else plan.stopInForce taken := by
  by_cases hlabel : tp.label = .tp1
  · rw [if_pos hlabel, stopInForce_of_hit (by simp [hlabel])]
  · rw [if_neg hlabel]
    by_cases htaken : .tp1 ∈ taken.map Target.label
    · rw [stopInForce_of_hit htaken, stopInForce_of_hit (by simp [htaken])]
    · have hnone : .tp1 ∉ (taken ++ [tp]).map Target.label := by
        rw [List.map_append, List.mem_append, List.map_singleton, List.mem_singleton]
        exact not_or.mpr ⟨htaken, fun heq => hlabel heq.symm⟩
      rw [stopInForce_of_not_hit htaken, stopInForce_of_not_hit hnone]

-- A stop away from the entry tells by its price whether TP1 was hit.
theorem stopReason_iff (hne : plan.entry ≠ plan.initialStop) (taken : List Target) :
    (if plan.stopInForce taken = plan.initialStop then ExitReason.stopLoss else .breakevenStop) =
      .breakevenStop ↔ .tp1 ∈ taken.map Target.label := by
  by_cases htp1 : .tp1 ∈ taken.map Target.label
  · rw [stopInForce_of_hit htp1, if_neg hne]
    exact iff_of_true rfl htp1
  · rw [stopInForce_of_not_hit htp1, if_pos rfl]
    exact iff_of_false nofun htp1

theorem reachedOf_cons_of_hit {bar : OhlcBar} {taken tps : List Target} {tp : Target}
    (hnew : tp.label ∉ taken.map Target.label) (hlabels : tp.label ∉ tps.map Target.label)
    (hhit : targetHit plan.side bar tp.price = true) :
    plan.reachedOf bar taken (tp :: tps) = tp :: plan.reachedOf bar (taken ++ [tp]) tps := by
  rw [reachedOf, List.filter_cons_of_pos (by simp [hnew, hhit]), reachedOf]
  congr 1
  refine List.filter_congr fun later hlater => ?_
  have hne : later.label ≠ tp.label := fun heq => hlabels (heq ▸ List.mem_map_of_mem hlater)
  simp [hne]

theorem reachedOf_cons_of_not {bar : OhlcBar} {taken tps : List Target} {tp : Target}
    (h : ¬ (tp.label ∉ taken.map Target.label ∧ targetHit plan.side bar tp.price = true)) :
    plan.reachedOf bar taken (tp :: tps) = plan.reachedOf bar taken tps := by
  rw [reachedOf, List.filter_cons_of_neg (by simpa using h)]
  rfl

end TradePlan

namespace Standing

variable {plan : TradePlan} {taken : List Target} {state : TradeState} {bar : OhlcBar}

theorem opening (plan : TradePlan) (entryBar : OhlcBar) : Standing plan [] (plan.opening entryBar) where
  hits := rfl
  remaining := rfl
  stop := rfl
  realized := (mul_zero _).symm
  notStopped := ⟨nofun, nofun⟩

theorem reach (h : Standing plan taken state) (offset : ℤ) (bar : OhlcBar) :
    Standing plan taken (state.reach offset bar) :=
  ⟨h.hits, h.remaining, h.stop, h.realized, h.notStopped⟩

-- A target that is closed joins the ones taken.
theorem closeTarget (h : Standing plan taken state) (tp : Target) :
    Standing plan (taken ++ [tp]) (plan.closeTarget state tp) where
  hits := by
    rw [List.map_append, ← h.hits]
    rfl
  remaining := by
    rw [openPart_concat, ← h.remaining]
    rfl
  stop := by
    rw [TradePlan.stopInForce_concat, ← h.stop]
    rfl
  realized := by
    rw [partsFrom_append, List.nil_append, partsFrom, partsFrom, ← h.remaining]
    exact TradePlan.realized_concat h.realized _ _
  notStopped := ⟨nofun, nofun⟩

-- Running through targets with different labels takes the ones reached, and closes their
-- parts in turn.
theorem takeTargets_aux (h : Standing plan taken state) (bar : OhlcBar) {tps : List Target}
    (hlabels : (tps.map Target.label).Nodup) :
    Standing plan (taken ++ plan.reachedOf bar taken tps) (tps.foldl (plan.takeTarget bar) state) ∧
      plan.targetParts bar state tps = partsFrom taken (plan.reachedOf bar taken tps) := by
  induction tps generalizing taken state with
  | nil =>
    refine ⟨?_, rfl⟩
    rw [TradePlan.reachedOf, List.filter_nil, List.append_nil]
    exact h
  | cons tp tps ih =>
    rw [List.map_cons, List.nodup_cons] at hlabels
    rw [List.foldl_cons, TradePlan.targetParts, TradePlan.takeTarget, TradePlan.targetPart, h.hits]
    by_cases hold : tp.label ∈ taken.map Target.label
    · rw [if_pos hold, if_pos hold, TradePlan.reachedOf_cons_of_not (fun hnew => hnew.1 hold)]
      exact ih h hlabels.2
    · rw [if_neg hold, if_neg hold]
      by_cases hhit : targetHit plan.side bar tp.price = true
      · rw [if_pos hhit, if_pos hhit, TradePlan.reachedOf_cons_of_hit hold hlabels.1 hhit]
        obtain ⟨hnext, hparts⟩ := ih (h.closeTarget tp) hlabels.2
        rw [hparts, h.remaining, List.append_cons]
        exact ⟨hnext, rfl⟩
      · rw [if_neg hhit, if_neg hhit, TradePlan.reachedOf_cons_of_not (fun hnew => hhit hnew.2)]
        exact ih h hlabels.2

theorem takeTargets (h : Standing plan taken state) (bar : OhlcBar)
    (hlabels : (plan.tps.map Target.label).Nodup) :
    Standing plan (taken ++ plan.reached bar taken) (plan.takeTargets bar state) ∧
      plan.targetParts bar state plan.tps = partsFrom taken (plan.reached bar taken) :=
  h.takeTargets_aux bar hlabels

end Standing

theorem TradePlan.takeTargets_exit (plan : TradePlan) (bar : OhlcBar) (state : TradeState) :
    (plan.takeTargets bar state).barsHeld = state.barsHeld ∧
      (plan.takeTargets bar state).exitTime = state.exitTime := by
  have htake (state : TradeState) (tp : Target) :
      (plan.takeTarget bar state tp).barsHeld = state.barsHeld ∧
        (plan.takeTarget bar state tp).exitTime = state.exitTime := by
    unfold TradePlan.takeTarget
    by_cases hold : tp.label ∈ state.tpHits
    · rw [if_pos hold]
      exact ⟨rfl, rfl⟩
    · rw [if_neg hold]
      by_cases hhit : targetHit plan.side bar tp.price = true
      · rw [if_pos hhit]
        exact ⟨rfl, rfl⟩
      · rw [if_neg hhit]
        exact ⟨rfl, rfl⟩
  unfold TradePlan.takeTargets
  induction plan.tps generalizing state with
  | nil => exact ⟨rfl, rfl⟩
  | cons tp tps ih =>
    obtain ⟨hbars, htime⟩ := ih (plan.takeTarget bar state tp)
    exact ⟨hbars.trans (htake state tp).1, htime.trans (htake state tp).2⟩

namespace Standing

variable {plan : TradePlan} {taken : List Target} {state : TradeState} {bar : OhlcBar} {offset : ℤ}

-- What one bar does to a trade that stands, with the parts it closes: the stop comes first,
-- then the targets, then the end of the time.

theorem onBar_of_stop (h : Standing plan taken state)
    (hstop : stopHit plan.side bar (plan.stopInForce taken) = true) :
    plan.onBar offset bar state = .done (plan.stopOut (state.reach offset bar)) ∧
      plan.barParts offset bar state =
        [⟨.stop, plan.stopInForce taken, openPart taken, taken.map Target.label⟩] := by
  rw [← h.stop] at hstop
  rw [TradePlan.onBar, TradePlan.barParts, if_pos hstop, if_pos hstop, ← h.stop, ← h.remaining, ← h.hits]
  exact ⟨rfl, rfl⟩

theorem onBar_of_not_stop (h : Standing plan taken state) (offset : ℤ)
    (hlabels : (plan.tps.map Target.label).Nodup)
    (hstop : stopHit plan.side bar (plan.stopInForce taken) = false) :
    ∃ next, Standing plan (taken ++ plan.reached bar taken) next ∧
      next.ExitsAt offset bar (taken ++ plan.reached bar taken) ∧
      plan.onBar offset bar state = plan.endBar offset bar next ∧
      plan.barParts offset bar state =
        partsFrom taken (plan.reached bar taken) ++ plan.endParts offset bar next := by
  obtain ⟨hnext, hparts⟩ := (h.reach offset bar).takeTargets bar hlabels
  obtain ⟨hbars, htime⟩ := plan.takeTargets_exit bar (state.reach offset bar)
  rw [← h.stop] at hstop
  refine ⟨_, hnext, ⟨hbars, htime, hnext.hits⟩, ?_, ?_⟩
  · exact if_neg (ne_true_of_eq_false hstop)
  · rw [TradePlan.barParts, if_neg (ne_true_of_eq_false hstop), hparts]

theorem endBar_of_filled (h : Standing plan taken state) (hclosed : openPart taken ≤ 0) :
    plan.endBar offset bar state = .done state ∧ plan.endParts offset bar state = [] := by
  rw [← h.remaining] at hclosed
  exact ⟨if_pos hclosed, if_pos hclosed⟩

theorem endBar_of_timedOut (h : Standing plan taken state) (hopen : 0 < openPart taken)
    (htime : plan.timeStopBars ≤ offset) :
    plan.endBar offset bar state = .done (plan.timeOut bar state) ∧
      plan.endParts offset bar state = [⟨.barClose, bar.close, openPart taken, taken.map Target.label⟩] := by
  rw [← h.remaining] at hopen
  rw [TradePlan.endBar, TradePlan.endParts, if_neg (not_le_of_gt hopen), if_neg (not_le_of_gt hopen),
    if_pos htime, if_pos htime, h.remaining, h.hits]
  exact ⟨rfl, rfl⟩

theorem endBar_of_held (h : Standing plan taken state) (hopen : 0 < openPart taken)
    (htime : offset < plan.timeStopBars) :
    plan.endBar offset bar state = .yield state ∧ plan.endParts offset bar state = [] := by
  rw [← h.remaining] at hopen
  rw [TradePlan.endBar, TradePlan.endParts, if_neg (not_le_of_gt hopen), if_neg (not_le_of_gt hopen),
    if_neg (not_le_of_gt htime), if_neg (not_le_of_gt htime)]
  exact ⟨rfl, rfl⟩

end Standing

namespace TradePlan

variable {plan : TradePlan} {offset : ℤ} {bar : OhlcBar} {later : List OhlcBar} {state next : TradeState}

theorem loop_of_done (h : plan.onBar offset bar state = .done next) :
    plan.tradeLoop offset (bar :: later) state = next ∧
      plan.loopParts offset (bar :: later) state = plan.barParts offset bar state := by
  rw [tradeLoop, loopParts, h]
  exact ⟨rfl, List.append_nil _⟩

theorem loop_of_yield (h : plan.onBar offset bar state = .yield next) :
    plan.tradeLoop offset (bar :: later) state = plan.tradeLoop (offset + 1) later next ∧
      plan.loopParts offset (bar :: later) state =
        plan.barParts offset bar state ++ plan.loopParts (offset + 1) later next := by
  rw [tradeLoop, loopParts, h]
  exact ⟨rfl, rfl⟩

-- A trade that is closed by the loop ends there.
theorem end_of_closed {bars : List OhlcBar} {entryIndex : ℤ} {final : TradeState} {atEnd : List ClosedPart}
    (hclosed : state.remainingFraction ≤ 0) (hend : plan.closeAtEnd bars entryIndex state = .ok final)
    (hparts : partsAtEnd bars state = .ok atEnd) : final = state ∧ atEnd = [] := by
  rw [closeAtEnd_of_closed hclosed] at hend
  rw [partsAtEnd, if_neg (not_lt_of_ge hclosed)] at hparts
  exact ⟨(Except.ok.inj hend).symm, (Except.ok.inj hparts).symm⟩

end TradePlan

theorem partsAtEnd_ok {plan : TradePlan} {bars : List OhlcBar} {entryIndex : ℤ} {state final : TradeState}
    (h : plan.closeAtEnd bars entryIndex state = .ok final) :
    ∃ atEnd, partsAtEnd bars state = .ok atEnd := by
  unfold partsAtEnd
  by_cases hopen : state.remainingFraction > 0
  · rw [TradePlan.closeAtEnd, if_pos hopen] at h
    obtain ⟨lastBar, hlast, -⟩ := bind_eq_ok.mp h
    rw [if_pos hopen]
    exact ⟨_, bind_of_ok hlast⟩
  · rw [if_neg hopen]
    exact ⟨_, rfl⟩

theorem Held.open_pos {plan : TradePlan} {before : List OhlcBar} {taken : List Target}
    (h : Held plan before taken) : 0 < openPart taken := by
  cases h with
  | opened => exact one_pos
  | held bar hheld hstop hopen htime => exact hopen

-- The last of the bars that are held did not end the trade either.
theorem Held.last {plan : TradePlan} {before : List OhlcBar} {taken : List Target} {bar : OhlcBar}
    (h : Held plan before taken) (hlast : before.getLast? = some bar) :
    ∃ earlier first, before = earlier ++ [bar] ∧ Held plan earlier first ∧
      stopHit plan.side bar (plan.stopInForce first) = false ∧
      0 < openPart (first ++ plan.reached bar first) ∧ taken = first ++ plan.reached bar first := by
  cases h with
  | opened => cases hlast
  | @held earlier first last hheld hstop hopen htime =>
    obtain rfl := Option.some.inj (List.getLast?_concat.symm.trans hlast)
    exact ⟨earlier, first, rfl, hheld, hstop, hopen, rfl⟩

theorem Held.taken_nil {plan : TradePlan} {before : List OhlcBar} {taken : List Target}
    (h : Held plan before taken) (hbefore : before = []) : taken = [] := by
  cases h with
  | opened => rfl
  | held bar hheld hstop hopen htime => simp at hbefore

section Run

variable {plan : TradePlan} {bars before later : List OhlcBar} {entryIndex : ℤ} {taken : List Target}
  {state final : TradeState} {atEnd : List ClosedPart}

-- With no bar left, what is open is closed at the last bar.
theorem outcome_at_end (hheld : Held plan before taken) (hstate : Standing plan taken state)
    (hend : plan.closeAtEnd bars entryIndex state = .ok final) (hparts : partsAtEnd bars state = .ok atEnd) :
    Outcome plan bars entryIndex before final (partsFrom [] taken ++ atEnd) ∧
      final.realized = plan.quantity * plan.weightedGain (partsFrom [] taken ++ atEnd) := by
  have hopen : 0 < state.remainingFraction := hstate.remaining ▸ hheld.open_pos
  rw [TradePlan.closeAtEnd, if_pos hopen] at hend
  rw [partsAtEnd, if_pos hopen] at hparts
  obtain ⟨lastBar, hlast, hend⟩ := bind_eq_ok.mp hend
  obtain ⟨lastBar', hlast', hparts⟩ := bind_eq_ok.mp hparts
  obtain rfl := Except.ok.inj (hlast.symm.trans hlast')
  obtain rfl := Except.ok.inj hend
  obtain rfl := Except.ok.inj hparts
  rw [hstate.hits, hstate.remaining]
  exact ⟨.ranOut hheld hlast ⟨rfl, rfl, rfl⟩ rfl, TradePlan.realized_concat hstate.realized _ _⟩

-- The bars that are left bring a trade that stands to one of its outcomes, and all that is
-- realized is realized on the parts it closed.
theorem outcome_of_loop (hlabels : (plan.tps.map Target.label).Nodup) (hheld : Held plan before taken)
    (hstate : Standing plan taken state)
    (hend : plan.closeAtEnd bars entryIndex (plan.tradeLoop (before.length + 1) later state) = .ok final)
    (hparts : partsAtEnd bars (plan.tradeLoop (before.length + 1) later state) = .ok atEnd) :
    ∃ parts, parts = partsFrom [] taken ++ plan.loopParts (before.length + 1) later state ++ atEnd ∧
      Outcome plan bars entryIndex (before ++ later) final parts ∧
      final.realized = plan.quantity * plan.weightedGain parts := by
  induction later generalizing before taken state with
  | nil =>
    rw [TradePlan.loopParts, List.append_nil, List.append_nil]
    exact ⟨_, rfl, outcome_at_end hheld hstate hend hparts⟩
  | cons bar later ih =>
    by_cases hstop : stopHit plan.side bar (plan.stopInForce taken) = true
    · obtain ⟨hbar, hbarParts⟩ := hstate.onBar_of_stop hstop
      obtain ⟨hloop, hloopParts⟩ := TradePlan.loop_of_done hbar
      rw [hloop] at hend hparts
      obtain ⟨rfl, rfl⟩ := TradePlan.end_of_closed (le_refl 0) hend hparts
      rw [hloopParts, hbarParts, List.append_nil]
      refine ⟨_, rfl, .stopped rfl hheld hstop ⟨rfl, rfl, hstate.hits⟩ hstate.stop ?_, ?_⟩
      · rw [← hstate.stop]
        rfl
      · rw [← hstate.stop, ← hstate.remaining]
        exact TradePlan.realized_concat hstate.realized _ _
    · have hstop := Bool.eq_false_iff.mpr hstop
      obtain ⟨next, hnext, hexit, hbar, hbarParts⟩ :=
        hstate.onBar_of_not_stop (before.length + 1) hlabels hstop
      have hsofar : partsFrom [] (taken ++ plan.reached bar taken) =
          partsFrom [] taken ++ partsFrom taken (plan.reached bar taken) := partsFrom_append _ _ _
      by_cases hopen : 0 < openPart (taken ++ plan.reached bar taken)
      · by_cases htime : plan.timeStopBars ≤ before.length + 1
        · obtain ⟨hend', hendParts⟩ := hnext.endBar_of_timedOut hopen htime
          obtain ⟨hloop, hloopParts⟩ := TradePlan.loop_of_done (hbar.trans hend')
          rw [hloop] at hend hparts
          obtain ⟨rfl, rfl⟩ := TradePlan.end_of_closed (le_refl 0) hend hparts
          rw [hloopParts, hbarParts, hendParts, List.append_nil, ← List.append_assoc, ← hsofar]
          refine ⟨_, rfl, .timedOut rfl hheld hstop hopen htime ⟨hexit.1, hexit.2, hexit.3⟩ rfl, ?_⟩
          rw [← hnext.remaining]
          exact TradePlan.realized_concat hnext.realized _ _
        · have htime := lt_of_not_ge htime
          obtain ⟨hend', hendParts⟩ := hnext.endBar_of_held hopen htime
          obtain ⟨hloop, hloopParts⟩ := TradePlan.loop_of_yield (hbar.trans hend')
          have hlength : ((before ++ [bar]).length : ℤ) = before.length + 1 := by simp
          rw [hloop, ← hlength] at hend hparts
          obtain ⟨parts, hall, hrest⟩ := ih (.held bar hheld hstop hopen htime) hnext hend hparts
          rw [List.append_cons]
          refine ⟨parts, ?_, hrest⟩
          rw [hall, hsofar, hlength, hloopParts, hbarParts, hendParts, List.append_nil, List.append_assoc,
            List.append_assoc, List.append_assoc, List.append_assoc]
      · have hclosed := le_of_not_gt hopen
        obtain ⟨hend', hendParts⟩ := hnext.endBar_of_filled hclosed
        obtain ⟨hloop, hloopParts⟩ := TradePlan.loop_of_done (hbar.trans hend')
        rw [hloop] at hend hparts
        obtain ⟨rfl, rfl⟩ := TradePlan.end_of_closed (hnext.remaining ▸ hclosed) hend hparts
        rw [hloopParts, hbarParts, hendParts, List.append_nil, List.append_nil, ← hsofar]
        exact ⟨_, rfl, .filled rfl hheld hstop hclosed hexit hnext.notStopped, hnext.realized⟩

-- The loop gets to the end of the bars that are held.
theorem loop_of_held (hlabels : (plan.tps.map Target.label).Nodup) (hheld : Held plan before taken)
    (entryBar : OhlcBar) (later : List OhlcBar) :
    ∃ state, Standing plan taken state ∧
      plan.tradeLoop 1 (before ++ later) (plan.opening entryBar) =
        plan.tradeLoop (before.length + 1) later state ∧
      plan.loopParts 1 (before ++ later) (plan.opening entryBar) =
        partsFrom [] taken ++ plan.loopParts (before.length + 1) later state := by
  induction hheld generalizing later with
  | opened => exact ⟨_, .opening plan entryBar, rfl, rfl⟩
  | @held before taken bar hheld hstop hopen htime ih =>
    obtain ⟨state, hstate, hloop, hloopParts⟩ := ih (bar :: later)
    obtain ⟨next, hnext, -, hbar, hbarParts⟩ :=
      hstate.onBar_of_not_stop (before.length + 1) hlabels hstop
    obtain ⟨hend, hendParts⟩ := hnext.endBar_of_held hopen htime
    obtain ⟨hstep, hstepParts⟩ := TradePlan.loop_of_yield (hbar.trans hend)
    have hlength : ((before ++ [bar]).length : ℤ) = before.length + 1 := by simp
    rw [List.append_assoc, List.singleton_append, hlength, hloop, hloopParts, hstep, hstepParts, hbarParts,
      hendParts, List.append_nil, partsFrom_append, ← List.append_assoc]
    exact ⟨next, hnext, rfl, rfl⟩

end Run

theorem labels_tradePlan (side : PositionSide) (entry stopDistance quantity : ℚ)
    (cfg : SleeveBReplayConfig) :
    (tradePlan side entry stopDistance quantity cfg).tps.map Target.label = [.tp1, .tp2, .tp3] := rfl

theorem labels_nodup (side : PositionSide) (entry stopDistance quantity : ℚ) (cfg : SleeveBReplayConfig) :
    ((tradePlan side entry stopDistance quantity cfg).tps.map Target.label).Nodup := by
  rw [labels_tradePlan]
  decide

namespace Simulated

variable {side : PositionSide} {bars : List OhlcBar} {entryIndex : ℤ} {cfg : SleeveBReplayConfig}
  {entryBar : OhlcBar} {stopDistance : ℚ} {final : TradeState}

-- A simulation comes to one of the outcomes over the bars after the entry.
theorem outcome (h : Simulated side bars entryIndex cfg entryBar stopDistance final) :
    ∃ parts, closedParts side bars entryIndex cfg = .ok parts ∧
      Outcome (cfg.plan side entryBar.close stopDistance) bars entryIndex
        (Sequence.onward bars (entryIndex + 1)) final parts ∧
      final.realized = cfg.quantity entryBar.close stopDistance *
        (cfg.plan side entryBar.close stopDistance).weightedGain parts := by
  obtain ⟨atrValue, hatr, rfl⟩ := h.atr_eq
  obtain ⟨atEnd, hatEnd⟩ := partsAtEnd_ok h.final_eq
  obtain ⟨parts, hparts, houtcome, hrealized⟩ := outcome_of_loop (labels_nodup _ _ _ _ _) .opened
    (.opening (cfg.plan side entryBar.close (atrValue * cfg.stopAtrMultiple)) entryBar) h.final_eq hatEnd
  refine ⟨parts, ?_, houtcome, hrealized⟩
  rw [closedParts, h.entryBar_eq, ok_bind, hatr, ok_bind]
  refine (bind_of_ok hatEnd).trans ?_
  rw [hparts]
  rfl

-- There are no bars before an entry at -1, so no stop distance.
theorem index_ne (h : Simulated side bars entryIndex cfg entryBar stopDistance final) :
    entryIndex ≠ -1 := by
  intro hindex
  subst hindex
  obtain ⟨atrValue, hatr, hstop⟩ := h.atr_eq
  have hnone : Sequence.upTo bars (-1 + 1) = [] := Sequence.upTo_of_nonneg (by decide)
  rw [hnone, replayAtr, averageTrueRange] at hatr
  by_cases hshort : (([] : List OhlcBar).length : ℤ) < cfg.atrPeriod + 1
  · rw [if_pos hshort] at hatr
    cases hatr
  · rw [if_neg hshort] at hatr
    rw [List.length_nil] at hshort
    have hempty : Sequence.integers (([] : List OhlcBar).length - cfg.atrPeriod)
        ([] : List OhlcBar).length = [] := by
      rw [List.eq_nil_iff_forall_not_mem]
      intro index hindex
      have hrange := Sequence.mem_integers.mp hindex
      rw [List.length_nil] at hrange
      omega
    rw [hempty, List.mapM_nil] at hatr
    obtain ⟨trueRanges, hranges, hatr⟩ := bind_eq_ok.mp hatr
    obtain rfl := Except.ok.inj hranges
    obtain ⟨average, haverage, hatr⟩ := bind_eq_ok.mp hatr
    obtain ⟨-, rfl⟩ := divide_eq_ok.mp haverage
    obtain rfl := Except.ok.inj hatr
    have hpos := h.stop_pos
    rw [hstop] at hpos
    simp at hpos

theorem split (h : Simulated side bars entryIndex cfg entryBar stopDistance final) :
    ∃ earlier, bars = earlier ++ entryBar :: Sequence.onward bars (entryIndex + 1) ∧
      Sequence.place bars.length entryIndex = earlier.length :=
  Sequence.split_at_item h.index_ne (itemAt_eq_ok.mp h.entryBar_eq)

-- The last bar is the last one after the entry, or the entry itself.
theorem last (h : Simulated side bars entryIndex cfg entryBar stopDistance final) {lastBar : OhlcBar}
    (hlast : itemAt bars (-1) = .ok lastBar) :
    Sequence.onward bars (entryIndex + 1) = [] ∧ lastBar = entryBar ∨
      (Sequence.onward bars (entryIndex + 1)).getLast? = some lastBar := by
  obtain ⟨earlier, hsplit, -⟩ := h.split
  rw [itemAt_eq_ok, Sequence.item?_neg_one, hsplit, List.getLast?_append_cons] at hlast
  cases honward : Sequence.onward bars (entryIndex + 1) with
  | nil =>
    rw [honward] at hlast
    exact Or.inl ⟨rfl, (Option.some.inj hlast).symm⟩
  | cons bar later =>
    rw [honward, List.getLast?_cons_cons] at hlast
    exact Or.inr hlast

theorem exit (h : Simulated side bars entryIndex cfg entryBar stopDistance final)
    {parts : List ClosedPart} (houtcome : Outcome (cfg.plan side entryBar.close stopDistance) bars entryIndex
      (Sequence.onward bars (entryIndex + 1)) final parts) :
    Exit (cfg.plan side entryBar.close stopDistance) entryBar
      (Sequence.onward bars (entryIndex + 1)) parts := by
  cases houtcome with
  | stopped honward hheld hstop hexit hprice hreason => exact .stopped hheld
  | filled honward hheld hstop hclosed hexit hreason => exact .filled hheld
  | timedOut honward hheld hstop hopen htime hexit hreason =>
    exact .closed honward hheld hstop hopen (Or.inr htime)
  | ranOut hheld hlast hexit hreason =>
    cases h.last hlast with
    | inl hnone =>
      obtain ⟨honward, rfl⟩ := hnone
      obtain rfl := hheld.taken_nil honward
      exact .atEntry
    | inr hsome =>
      obtain ⟨before, first, honward, hfirst, hstop, hopen, rfl⟩ := hheld.last hsome
      exact .closed honward hfirst hstop hopen (Or.inl rfl)

-- The bar a trade has reached after a number of bars.
theorem itemAt_held (h : Simulated side bars entryIndex cfg entryBar stopDistance final)
    {before after : List OhlcBar} {bar : OhlcBar}
    (honward : Sequence.onward bars (entryIndex + 1) = before ++ bar :: after) :
    itemAt bars (entryIndex + (before.length + 1)) = .ok bar := by
  obtain ⟨earlier, hsplit, hplace⟩ := h.split
  rw [honward] at hsplit
  rw [itemAt_eq_ok]
  subst hsplit
  exact Sequence.item?_add hplace

-- What END_OF_DATA reports is the distance to the last bar.
theorem itemAt_end (h : Simulated side bars entryIndex cfg entryBar stopDistance final) :
    itemAt bars (entryIndex + max (bars.length - entryIndex - 1) 0) = itemAt bars (-1) := by
  obtain ⟨earlier, hsplit, hplace⟩ := h.split
  have hlength : 0 < bars.length := by
    rw [hsplit]
    simp
  have hlt : entryIndex < bars.length := by
    have hle := congrArg List.length hsplit
    rw [List.length_append, List.length_cons] at hle
    unfold Sequence.place at hplace
    by_cases hindex : entryIndex < 0
    · omega
    · rw [if_neg hindex] at hplace
      omega
  rw [show entryIndex + max (bars.length - entryIndex - 1) 0 = bars.length - 1 by omega, itemAt, itemAt,
    Sequence.item?_neg_one, Sequence.item?_of_nonneg (by omega), List.getLast?_eq_getElem?]
  congr 2
  omega

end Simulated

end DualSleeve
