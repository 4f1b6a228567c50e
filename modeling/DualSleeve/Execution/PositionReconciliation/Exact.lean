import DualSleeve.Execution.PositionReconciliation.Refresh

namespace DualSleeve

open Library

-- A list of positions as a function: the amount of the last position of a key, and 0 for a
-- key that no position has.
def signedAmount (positions : List ExchangePositionSnapshot) (key : PositionKey) : ℚ :=
  ((lastWithKey ExchangePositionSnapshot.key positions key).map (·.positionAmt)).getD 0

section SignedAmount

variable {positions : List ExchangePositionSnapshot}

theorem signedAmount_of_mem (hn : (positions.map ExchangePositionSnapshot.key).Nodup)
    {position : ExchangePositionSnapshot} (h : position ∈ positions) :
    signedAmount positions position.key = position.positionAmt := by
  rw [signedAmount, lastWithKey_of_mem hn h]
  rfl

theorem signedAmount_of_notMem {key : PositionKey}
    (h : key ∉ positions.map ExchangePositionSnapshot.key) : signedAmount positions key = 0 := by
  rw [signedAmount, lastWithKey_eq_none_iff.mpr h]
  rfl

-- A flat position reads like one that is not there.
theorem signedAmount_filter (hn : (positions.map ExchangePositionSnapshot.key).Nodup) (key : PositionKey) :
    signedAmount (positions.filter (!·.isFlat)) key = signedAmount positions key := by
  have hopen : ((positions.filter (!·.isFlat)).map ExchangePositionSnapshot.key).Nodup :=
    hn.sublist (List.filter_sublist.map _)
  by_cases hk : key ∈ positions.map ExchangePositionSnapshot.key
  · obtain ⟨position, hp, rfl⟩ := List.mem_map.mp hk
    rw [signedAmount_of_mem hn hp]
    by_cases hflat : position.positionAmt = 0
    · rw [hflat]
      apply signedAmount_of_notMem
      intro hlisted
      obtain ⟨other, ho, he⟩ := List.mem_map.mp hlisted
      have hother := List.mem_filter.mp ho
      have hsame : other = position := List.inj_on_of_nodup_map hn hother.1 hp he
      subst hsame
      simp [ExchangePositionSnapshot.isFlat, hflat] at hother
    · apply signedAmount_of_mem hopen
      exact List.mem_filter.mpr ⟨hp, by simpa [ExchangePositionSnapshot.isFlat] using hflat⟩
  · rw [signedAmount_of_notMem hk]
    apply signedAmount_of_notMem
    intro hlisted
    exact hk ((List.filter_sublist.map _).subset hlisted)

end SignedAmount

-- Of a key written more than once the store keeps the last position.
theorem find_upsertAll_positions (history : List ExchangePositionSnapshot) (key : PositionKey) :
    (Table.upsertAll (Table.empty positionSchema) history).find? key =
      lastWithKey ExchangePositionSnapshot.key history key := by
  rw [Table.find_upsertAll_empty (fun _ _ _ => rfl) (fun _ => rfl), lastWithKey_eq_getLast]
  have hkeys : ∀ row ∈ history.filter (positionSchema.key · = key), row.key = key := by
    intro row hrow
    exact of_decide_eq_true (List.mem_filter.mp hrow).2
  change _ = (history.filter (positionSchema.key · = key)).getLast?
  cases hwritten : history.filter (positionSchema.key · = key) with
  | nil => rfl
  | cons first later =>
    rw [hwritten] at hkeys
    rw [List.head?_cons, Option.bind_some, List.getLast?_eq_getLast_of_ne_nil (List.cons_ne_nil _ _),
      Option.map_some]
    have hfirst := hkeys first List.mem_cons_self
    have hlast := hkeys _ (List.getLast_mem (List.cons_ne_nil first later))
    exact congrArg some (positionSchema_conflict (hfirst.trans hlast.symm))

-- What is listed after a history of writes reads like the history.
theorem signedAmount_listPositions (history : List ExchangePositionSnapshot) (key : PositionKey) :
    signedAmount (PositionStore.listPositions (Table.upsertAll (Table.empty positionSchema) history)) key =
      signedAmount history key := by
  have hstored := (Table.upsertAll (Table.empty positionSchema) history).nodup
  have hread := signedAmount_filter hstored key
  have hlast : lastWithKey ExchangePositionSnapshot.key
      (Table.upsertAll (Table.empty positionSchema) history).rows key =
        lastWithKey ExchangePositionSnapshot.key history key :=
    (lastWithKey_eq_find hstored key).trans (find_upsertAll_positions history key)
  rw [PositionStore.listPositions, if_neg Bool.false_ne_true, hread, signedAmount, hlast, signedAmount]

-- Positions of distinct keys, none of them flat: what a comparison is given.
structure OpenOnce (positions : List ExchangePositionSnapshot) : Prop where
  nodup : (positions.map ExchangePositionSnapshot.key).Nodup
  open_of_mem : ∀ position ∈ positions, position.positionAmt ≠ 0

-- Of such positions exactly the listed keys have an amount.
theorem OpenOnce.mem_iff {positions : List ExchangePositionSnapshot} (h : OpenOnce positions)
    {key : PositionKey} :
    key ∈ positions.map ExchangePositionSnapshot.key ↔ signedAmount positions key ≠ 0 := by
  constructor
  · intro hk
    obtain ⟨position, hp, rfl⟩ := List.mem_map.mp hk
    rw [signedAmount_of_mem h.nodup hp]
    exact h.open_of_mem position hp
  · intro hamount
    by_contra hk
    exact hamount (signedAmount_of_notMem hk)

theorem openOnce_filter {positions : List ExchangePositionSnapshot}
    (hn : (positions.map ExchangePositionSnapshot.key).Nodup) :
    OpenOnce (positions.filter (!·.isFlat)) where
  nodup := hn.sublist (List.filter_sublist.map _)
  open_of_mem := by
    intro position hp
    simpa [ExchangePositionSnapshot.isFlat] using (List.mem_filter.mp hp).2

theorem openOnce_listPositions (store : PositionStore) : OpenOnce store.listPositions :=
  openOnce_filter store.nodup

-- What a report says of the two amounts it compares.
structure ExactReport (amountTolerance : ℚ) (localAmount remoteAmount : PositionKey → ℚ)
    (report : PositionReconciliationReport) : Prop where
  within : report.consistent = true → ∀ key, |localAmount key - remoteAmount key| ≤ amountTolerance
  equal_iff : amountTolerance = 0 → (report.consistent = true ↔ localAmount = remoteAmount)
  separated : KeyedDiff.Separated
    ⟨report.missingOnExchange, report.unknownOnLocal, report.amountMismatches⟩
  complete : ∀ key, amountTolerance < |localAmount key - remoteAmount key| →
    key ∈ report.missingOnExchange ∨ key ∈ report.unknownOnLocal ∨ key ∈ report.amountMismatches

section Compare

open scoped ExactDecimals

variable {amountTolerance : ℚ} {localPositions remotePositions : List ExchangePositionSnapshot}

-- On a key of both sides the comparison is that of the two amounts.
theorem amountsMismatch_iff {key : PositionKey}
    (hlocal : key ∈ localPositions.map ExchangePositionSnapshot.key)
    (hremote : key ∈ remotePositions.map ExchangePositionSnapshot.key) :
    amountsMismatch amountTolerance localPositions remotePositions key = true ↔
      amountTolerance < |signedAmount localPositions key - signedAmount remotePositions key| := by
  unfold amountsMismatch signedAmount
  cases hl : lastWithKey ExchangePositionSnapshot.key localPositions key with
  | none => exact absurd hlocal (lastWithKey_eq_none_iff.mp hl)
  | some localPosition =>
    cases hr : lastWithKey ExchangePositionSnapshot.key remotePositions key with
    | none => exact absurd hremote (lastWithKey_eq_none_iff.mp hr)
    | some remotePosition => exact decide_eq_true_iff

-- Two amounts that are too far apart are not both 0, so one side at least lists the key.
theorem comparePositions_complete (htolerance : 0 ≤ amountTolerance) {key : PositionKey}
    (hapart : amountTolerance < |signedAmount localPositions key - signedAmount remotePositions key|) :
    key ∈ (comparePositions amountTolerance localPositions remotePositions).missingOnExchange ∨
      key ∈ (comparePositions amountTolerance localPositions remotePositions).unknownOnLocal ∨
        key ∈ (comparePositions amountTolerance localPositions remotePositions).amountMismatches := by
  by_cases hl : key ∈ localPositions.map ExchangePositionSnapshot.key
  · by_cases hr : key ∈ remotePositions.map ExchangePositionSnapshot.key
    · have hmismatch := (amountsMismatch_iff hl hr).mpr hapart
      exact .inr (.inr (KeyedDiff.mem_mismatched.mpr ⟨⟨hl, hr⟩, hmismatch⟩))
    · left
      apply (KeyedDiff.mem_missing (amountsMismatch amountTolerance localPositions remotePositions)).mpr
      exact ⟨hl, hr⟩
  · by_cases hr : key ∈ remotePositions.map ExchangePositionSnapshot.key
    · right; left
      apply (KeyedDiff.mem_unknown (amountsMismatch amountTolerance localPositions remotePositions)).mpr
      exact ⟨hr, hl⟩
    · rw [signedAmount_of_notMem hl, signedAmount_of_notMem hr, sub_zero, abs_zero] at hapart
      exact absurd hapart (not_lt.mpr htolerance)

theorem comparePositions_within (htolerance : 0 ≤ amountTolerance)
    (hconsistent : (comparePositions amountTolerance localPositions remotePositions).consistent = true)
    (key : PositionKey) :
    |signedAmount localPositions key - signedAmount remotePositions key| ≤ amountTolerance := by
  obtain ⟨hkeys, hagree⟩ := comparePositions_consistent_iff.mp hconsistent
  by_cases hl : key ∈ localPositions.map ExchangePositionSnapshot.key
  · have hr := (hkeys key).mp hl
    apply not_lt.mp
    intro hapart
    have hmismatch := (amountsMismatch_iff hl hr).mpr hapart
    rw [hagree key hl] at hmismatch
    cases hmismatch
  · have hr : key ∉ remotePositions.map ExchangePositionSnapshot.key := fun h => hl ((hkeys key).mpr h)
    rw [signedAmount_of_notMem hl, signedAmount_of_notMem hr, sub_zero, abs_zero]
    exact htolerance

-- Equal amounts are held under equal keys, and none of them disagrees.
theorem comparePositions_consistent_of_eq (htolerance : 0 ≤ amountTolerance)
    (hlocal : OpenOnce localPositions) (hremote : OpenOnce remotePositions)
    (hequal : signedAmount localPositions = signedAmount remotePositions) :
    (comparePositions amountTolerance localPositions remotePositions).consistent = true := by
  have hkeys : ∀ key, key ∈ localPositions.map ExchangePositionSnapshot.key ↔
      key ∈ remotePositions.map ExchangePositionSnapshot.key := by
    intro key
    rw [hlocal.mem_iff, hremote.mem_iff, hequal]
  apply comparePositions_consistent_iff.mpr
  refine ⟨hkeys, ?_⟩
  intro key hl
  apply Bool.eq_false_iff.mpr
  intro hmismatch
  have hapart := (amountsMismatch_iff hl ((hkeys key).mp hl)).mp hmismatch
  rw [hequal, sub_self, abs_zero] at hapart
  exact absurd hapart (not_lt.mpr htolerance)

theorem comparePositions_exact (htolerance : 0 ≤ amountTolerance) (hlocal : OpenOnce localPositions)
    (hremote : OpenOnce remotePositions) :
    ExactReport amountTolerance (signedAmount localPositions) (signedAmount remotePositions)
      (comparePositions amountTolerance localPositions remotePositions) where
  within := comparePositions_within htolerance
  equal_iff := by
    intro hzero
    constructor
    · intro hconsistent
      funext key
      have hwithin := comparePositions_within htolerance hconsistent key
      rw [hzero] at hwithin
      exact sub_eq_zero.mp (abs_nonpos_iff.mp hwithin)
    · exact comparePositions_consistent_of_eq htolerance hlocal hremote
  separated := KeyedDiff.separated_keyedDiff _ _ _
  complete := fun _ => comparePositions_complete htolerance

end Compare

namespace PositionReconciler

variable {σ : Type}

section Exact

open scoped ExactDecimals

-- The report is exact for every history of calls, of which the ones that raise store nothing;
-- and the call enters the safe mode exactly when it reports an inconsistency.
theorem reconcile_exact (reconciler : PositionReconciler σ) (world : World σ)
    (history : List ExchangePositionSnapshot) {positions : List ExchangePositionSnapshot} {after : σ}
    (htolerance : 0 ≤ reconciler.amountTolerance)
    (hnodup : (positions.map ExchangePositionSnapshot.key).Nodup)
    (hanswer : reconciler.Answers world.outside positions after) :
    ∃ report final,
      reconciler.reconcilePositions
          { world with positions := PositionStore.afterCalls (Table.empty positionSchema) history } =
        (.ok report, final) ∧
      ExactReport reconciler.amountTolerance (signedAmount (history.filter (·.Storable)))
        (signedAmount positions) report ∧
      (report.consistent = true ↔ final.safeMode = world.safeMode) ∧
      (report.consistent = false ↔ ∃ reason, final.safeMode = world.safeMode.enter reason) := by
  have hlocal : signedAmount (PositionStore.listPositions
      (Table.upsertAll (Table.empty positionSchema) (history.filter (·.Storable)))) =
        signedAmount (history.filter (·.Storable)) :=
    funext (signedAmount_listPositions _)
  have hremote : signedAmount (positions.filter (!·.isFlat)) = signedAmount positions :=
    funext (signedAmount_filter hnodup)
  have hexact := comparePositions_exact htolerance
    (openOnce_listPositions
      (Table.upsertAll (Table.empty positionSchema) (history.filter (·.Storable))))
    (openOnce_filter hnodup)
  rw [hlocal, hremote] at hexact
  rw [PositionStore.afterCalls_eq]
  exact ⟨_, _, reconcilePositions_of_answers _ hanswer, hexact, World.settled_safeMode_iff _ _ _⟩

-- The table has no integer for the time of this update, so that storing it raises.
def lateUpdate : ExchangePositionSnapshot :=
  { heldPosition "BTCUSDT" 7 with updateTimeMs := some (2 ^ 63) }

-- BTCUSDT is opened and closed again.
def closedHistory : List ExchangePositionSnapshot :=
  [heldPosition "BTCUSDT" (1 / 100), heldPosition "BTCUSDT" 0, lateUpdate]

-- The exchange holds BTCUSDT flat, and BNBUSDT open.
theorem reconcile_exact_sample :
    ∃ report final,
      heldPositions.reconcilePositions
          { (openLocally [heldPosition "BTCUSDT" 0, heldPosition "BNBUSDT" 2]) with
            positions := PositionStore.afterCalls (Table.empty positionSchema) closedHistory } =
        (.ok report, final) ∧
      ExactReport 0 (signedAmount (closedHistory.filter (·.Storable)))
        (signedAmount [heldPosition "BTCUSDT" 0, heldPosition "BNBUSDT" 2]) report ∧
      (report.consistent = true ↔ final.safeMode = {}) ∧
      (report.consistent = false ↔ ∃ reason, final.safeMode = SafeModeController.enter {} reason) := by
  apply reconcile_exact heldPositions (openLocally [heldPosition "BTCUSDT" 0, heldPosition "BNBUSDT" 2])
    closedHistory (le_refl 0) _ rfl
  decide +kernel

end Exact

section Rounding

open scoped DefaultContext

-- 5.0000000000000000000000000004 is computed as 5; and a call that raises leaves no amount.
theorem reconcile_not_exact :
    (∃ report final,
      { heldPositions with amountTolerance := 5 }.reconcilePositions
          { (openLocally [heldPosition "BTCUSDT" (-4 / 10 ^ 28)]) with
            positions := PositionStore.afterCalls (Table.empty positionSchema) [heldPosition "BTCUSDT" 5] } =
        (.ok report, final) ∧
      report.consistent = true ∧
      5 < |signedAmount [heldPosition "BTCUSDT" 5] (toLex ("BTCUSDT", "BOTH")) -
        signedAmount [heldPosition "BTCUSDT" (-4 / 10 ^ 28)] (toLex ("BTCUSDT", "BOTH"))|) ∧
    ∃ report final,
      heldPositions.reconcilePositions
          { (openLocally []) with
            positions := PositionStore.afterCalls (Table.empty positionSchema) [lateUpdate] } =
        (.ok report, final) ∧
      report.consistent = true ∧ signedAmount [lateUpdate] (toLex ("BTCUSDT", "BOTH")) = 7 := by
  refine ⟨⟨_, _, reconcilePositions_of_answers _ rfl, ?_, ?_⟩, _, _, reconcilePositions_of_answers _ rfl, ?_, ?_⟩
  all_goals decide +kernel

end Rounding

end PositionReconciler

end DualSleeve
