import DualSleeve.Execution.PositionReconciliation

namespace DualSleeve

open Library

section Compare

variable [DecimalContext]

theorem comparePositions_consistent_iff {amountTolerance : ℚ}
    {localPositions remotePositions : List ExchangePositionSnapshot} :
    (comparePositions amountTolerance localPositions remotePositions).consistent = true ↔
      (∀ key, key ∈ localPositions.map ExchangePositionSnapshot.key ↔
        key ∈ remotePositions.map ExchangePositionSnapshot.key) ∧
      ∀ key ∈ localPositions.map ExchangePositionSnapshot.key,
        amountsMismatch amountTolerance localPositions remotePositions key = false :=
  KeyedDiff.isEmpty_iff

-- A position that both sides hold does not disagree with itself.
theorem amountsMismatch_of_mem {amountTolerance : ℚ} (htolerance : 0 ≤ amountTolerance)
    {localPositions remotePositions : List ExchangePositionSnapshot}
    (hlocal : (localPositions.map ExchangePositionSnapshot.key).Nodup)
    (hremote : (remotePositions.map ExchangePositionSnapshot.key).Nodup)
    {position : ExchangePositionSnapshot} (hl : position ∈ localPositions)
    (hr : position ∈ remotePositions) :
    amountsMismatch amountTolerance localPositions remotePositions position.key = false := by
  have hdistance : rounded |rounded (position.positionAmt - position.positionAmt)| = 0 := by simp
  rw [amountsMismatch, lastWithKey_of_mem hlocal hl, lastWithKey_of_mem hremote hr]
  dsimp only
  rw [hdistance]
  exact decide_eq_false (not_lt.mpr htolerance)

variable {store : PositionStore} {positions : List ExchangePositionSnapshot}

-- Comparing the written positions with themselves finds the positions of the store that
-- were not written over, and nothing else.
theorem comparePositions_upsertAll_consistent_iff {amountTolerance : ℚ}
    (htolerance : 0 ≤ amountTolerance)
    (hnodup : (positions.map ExchangePositionSnapshot.key).Nodup) :
    (comparePositions amountTolerance (PositionStore.listPositions (Table.upsertAll store positions))
      (positions.filter (!·.isFlat))).consistent = true ↔
        ∀ position ∈ store.listPositions,
          position.key ∈ positions.map ExchangePositionSnapshot.key := by
  have hremote : ((positions.filter (!·.isFlat)).map ExchangePositionSnapshot.key).Nodup :=
    hnodup.sublist (List.filter_sublist.map _)
  have hlisted : ∀ key ∈ (positions.filter (!·.isFlat)).map ExchangePositionSnapshot.key,
      key ∈ positions.map ExchangePositionSnapshot.key :=
    fun key hk => (List.filter_sublist.map _).subset hk
  rw [comparePositions_consistent_iff]
  constructor
  · intro h position hp
    by_contra hstale
    have hkept : position ∈ PositionStore.listPositions (Table.upsertAll store positions) :=
      (PositionStore.mem_listPositions_upsertAll hnodup).mpr (.inr ⟨hp, hstale⟩)
    exact hstale (hlisted _ ((h.1 position.key).mp (List.mem_map_of_mem hkept)))
  · intro hcovered
    -- no older position stays, so both sides list the same positions
    have hsame : ∀ position, position ∈ PositionStore.listPositions (Table.upsertAll store positions) ↔
        position ∈ positions.filter (!·.isFlat) := by
      intro position
      rw [PositionStore.mem_listPositions_upsertAll hnodup, or_iff_left]
      intro hstale
      exact hstale.2 (hcovered position hstale.1)
    refine ⟨?_, ?_⟩
    · intro key
      simp only [List.mem_map, hsame]
    · intro key hk
      obtain ⟨position, hp, rfl⟩ := List.mem_map.mp hk
      exact amountsMismatch_of_mem htolerance (PositionStore.nodup_key_listPositions _) hremote hp
        ((hsame position).mp hp)

end Compare

namespace PositionReconciler

variable {σ : Type} {reconciler : PositionReconciler σ} {world : World σ}
  {positions : List ExchangePositionSnapshot}

-- Asked for all positions, the exchange answers `positions`.
def Answers (reconciler : PositionReconciler σ) (outside : σ)
    (positions : List ExchangePositionSnapshot) (after : σ) : Prop :=
  reconciler.fetchPositionSnapshots none outside = (.ok positions, after)

theorem upsertPosition_of_storable {position : ExchangePositionSnapshot} (h : position.Storable)
    (world : World σ) :
    upsertPosition position world =
      (.ok (), { world with positions := Table.upsert world.positions position }) := by
  rw [upsertPosition, PositionStore.upsertPosition_of_storable h]

theorem upsertPosition_of_not_storable {position : ExchangePositionSnapshot} (h : ¬position.Storable)
    (world : World σ) : upsertPosition position world = (.error integerTooLarge, world) := by
  rw [upsertPosition, PositionStore.upsertPosition_of_not_storable h]

theorem storePositions_of_storable (hfits : ∀ position ∈ positions, position.Storable) (world : World σ) :
    storePositions positions world =
      (.ok (), { world with positions := Table.upsertAll world.positions positions }) := by
  induction positions generalizing world with
  | nil => rfl
  | cons position positions ih =>
    rw [List.forall_mem_cons] at hfits
    rw [storePositions, Program.bind_of_ok (upsertPosition_of_storable hfits.1 world), ih hfits.2]
    rfl

-- The first position that the table has no room for ends the loop; those before it stay.
theorem storePositions_of_not_storable (h : ∃ position ∈ positions, ¬position.Storable) (world : World σ) :
    ∃ after, storePositions positions world = (.error integerTooLarge, after) := by
  induction positions generalizing world with
  | nil =>
    obtain ⟨position, hp, _⟩ := h
    cases hp
  | cons position positions ih =>
    rw [storePositions]
    by_cases hfits : position.Storable
    · rw [Program.bind_of_ok (upsertPosition_of_storable hfits world)]
      apply ih
      obtain ⟨other, ho, hother⟩ := h
      cases ho with
      | head => exact absurd hfits hother
      | tail _ ho => exact ⟨other, ho, hother⟩
    · exact ⟨world, Program.bind_of_error (upsertPosition_of_not_storable hfits world)⟩

theorem refresh_of_answers {after : σ} (h : reconciler.Answers world.outside positions after)
    (hfits : ∀ position ∈ positions, position.Storable) :
    reconciler.refreshLocalPositionsFromExchange world =
      (.ok positions, { world.after (.fetchPositionSnapshots none) after with
        positions := Table.upsertAll world.positions positions }) := by
  unfold refreshLocalPositionsFromExchange
  rw [Program.bind_of_ok (remote_of_eq h), Program.bind_of_ok (storePositions_of_storable hfits _)]
  rfl

theorem refresh_raises {after : σ} (h : reconciler.Answers world.outside positions after)
    (hlarge : ∃ position ∈ positions, ¬position.Storable) :
    ∃ final, reconciler.refreshLocalPositionsFromExchange world = (.error integerTooLarge, final) := by
  obtain ⟨final, hstore⟩ := storePositions_of_not_storable hlarge
    (world.after (.fetchPositionSnapshots none) after)
  refine ⟨final, ?_⟩
  unfold refreshLocalPositionsFromExchange
  rw [Program.bind_of_ok (remote_of_eq h), Program.bind_of_error hstore]

section Reconcile

variable [DecimalContext]

-- The report is that of the comparison, and an inconsistent one enters the safe mode.
theorem reconcilePositions_of_answers (world : World σ) {after : σ}
    (h : reconciler.Answers world.outside positions after) :
    reconciler.reconcilePositions world =
      (.ok (comparePositions reconciler.amountTolerance world.positions.listPositions
          (positions.filter (!·.isFlat))),
        (world.after (.fetchPositionSnapshots none) after).settled
          (comparePositions reconciler.amountTolerance world.positions.listPositions
            (positions.filter (!·.isFlat))).consistent
          (.positionReconciliationMismatch
            (comparePositions reconciler.amountTolerance world.positions.listPositions
              (positions.filter (!·.isFlat))).missingOnExchange
            (comparePositions reconciler.amountTolerance world.positions.listPositions
              (positions.filter (!·.isFlat))).unknownOnLocal
            (comparePositions reconciler.amountTolerance world.positions.listPositions
              (positions.filter (!·.isFlat))).amountMismatches)) := by
  unfold reconcilePositions
  rw [Program.get_bind, Program.attempt_bind (remote_of_eq h)]
  exact settle_eq _ _ _ _

-- `refresh_local_positions_from_exchange`, and then `reconcile_positions`.
def refreshAndReconcile (reconciler : PositionReconciler σ) : Action σ PositionReconciliationReport := do
  let _ ← reconciler.refreshLocalPositionsFromExchange
  reconciler.reconcilePositions

-- The local view agrees with the exchange, and the safe mode was left alone.
def Repaired (safeMode : SafeModeController)
    (outcome : Except PyError PositionReconciliationReport × World σ) : Prop :=
  ∃ report, outcome.1 = .ok report ∧ report.consistent = true ∧ outcome.2.safeMode = safeMode

-- A refresh repairs the local view exactly when the table takes what the exchange lists,
-- and the exchange still lists every position that is open locally: a position it no longer
-- lists is never written over.
theorem refresh_repairs_iff (reconciler : PositionReconciler σ) (world : World σ) {again final : σ}
    (htolerance : 0 ≤ reconciler.amountTolerance)
    (hnodup : (positions.map ExchangePositionSnapshot.key).Nodup)
    (hanswer : reconciler.Answers world.outside positions again)
    (hstill : reconciler.Answers again positions final) :
    Repaired world.safeMode (reconciler.refreshAndReconcile world) ↔
      (∀ position ∈ positions, position.Storable) ∧
        ∀ position ∈ world.positions.listPositions,
          position.key ∈ positions.map ExchangePositionSnapshot.key := by
  by_cases hfits : ∀ position ∈ positions, position.Storable
  · have hreconcile := reconcilePositions_of_answers
      { world.after (.fetchPositionSnapshots none) again with
        positions := Table.upsertAll world.positions positions } hstill
    rw [and_iff_right hfits, ← comparePositions_upsertAll_consistent_iff htolerance hnodup,
      refreshAndReconcile, Program.bind_of_ok (refresh_of_answers hanswer hfits), hreconcile]
    constructor
    · intro h
      obtain ⟨report, hr, hc, _⟩ := h
      cases hr
      exact hc
    · intro hc
      refine ⟨_, rfl, hc, ?_⟩
      simp only [hc, World.settled_true, World.after_safeMode]
  · -- the exception of the refresh is not caught
    have hlarge : ∃ position ∈ positions, ¬position.Storable := by
      simpa only [not_forall, exists_prop] using hfits
    obtain ⟨final, hraised⟩ := refresh_raises hanswer hlarge
    rw [refreshAndReconcile, Program.bind_of_error hraised]
    refine iff_of_false ?_ fun h => hfits h.1
    intro h
    obtain ⟨report, hr, _⟩ := h
    cases hr

end Reconcile

section Samples

open scoped DefaultContext

-- An exchange that answers with the positions it holds.
def heldPositions : PositionReconciler (List ExchangePositionSnapshot) where
  fetchPositionSnapshots _ held := (.ok held, held)

def heldPosition (symbol : String) (positionAmt : ℚ) : ExchangePositionSnapshot where
  symbol
  positionSide := "BOTH"
  positionAmt

-- The local store holds one open position of BTCUSDT; the exchange holds `held`.
def openLocally (held : List ExchangePositionSnapshot) : World (List ExchangePositionSnapshot) where
  outside := held
  positions := Table.upsert (Table.empty positionSchema) (heldPosition "BTCUSDT" (1 / 100))

theorem refresh_repairs_sample :
    Repaired (openLocally [heldPosition "BTCUSDT" 0, heldPosition "BNBUSDT" 2]).safeMode
      (heldPositions.refreshAndReconcile
        (openLocally [heldPosition "BTCUSDT" 0, heldPosition "BNBUSDT" 2])) := by
  refine (refresh_repairs_iff heldPositions _ (le_refl 0) ?_ rfl rfl).mpr ⟨?_, ?_⟩
  · decide +kernel
  · decide +kernel
  · decide +kernel

-- The position was closed on the exchange, which no longer lists it.
theorem refresh_keeps_closed_position :
    (heldPositions.refreshAndReconcile (openLocally [])).2.safeMode.state = .safeMode ∧
      ¬Repaired (openLocally []).safeMode (heldPositions.refreshAndReconcile (openLocally [])) := by
  refine ⟨by decide +kernel, ?_⟩
  intro h
  obtain ⟨report, hr, hc, _⟩ := h
  have hreported : (heldPositions.refreshAndReconcile (openLocally [])).1.map
      PositionReconciliationReport.consistent = .ok false := by
    decide +kernel
  rw [hr, Except.map, hc] at hreported
  cases hreported

end Samples

end PositionReconciler

end DualSleeve
