import DualSleeve.Storage.OrderStore.Refinement
import DualSleeve.Storage.PositionStore.Columns

namespace DualSleeve

open Library

namespace SQLitePositionStore

variable {str : ℚ → String} {positions : List ExchangePositionSnapshot}

-- The texts in the table are those of the typed rows.
theorem afterUpserts_eq (str : ℚ → String) (positions : List ExchangePositionSnapshot) :
    afterUpserts str positions = (coding str).table (typedAfter positions) := by
  have hcall : ∀ store position, written str ((coding str).table store) position =
      (coding str).table (PositionStore.afterCalls store [position]) := by
    intro store position
    rw [PositionStore.afterCalls_eq]
    by_cases hfits : position.Storable
    · rw [written, upsertPosition, if_pos hfits, List.filter_cons, if_pos (decide_eq_true hfits)]
      exact Encoding.upsert_table (coding str) store position
    · rw [written, upsertPosition, if_neg hfits, List.filter_cons, if_neg (by simpa using hfits)]
      rfl
  have hcalls : ∀ store, positions.foldl (written str) ((coding str).table store) =
      (coding str).table (PositionStore.afterCalls store positions) := by
    induction positions with
    | nil => exact fun _ => rfl
    | cons position positions ih =>
      intro store
      rw [List.foldl_cons, hcall, ih]
      rfl
  exact hcalls (Table.empty positionSchema)

theorem key_of_lastWritten {key : PositionKey} {position : ExchangePositionSnapshot}
    (h : lastWritten positions key = some position) : position ∈ positions ∧ position.key = key := by
  have hmem := List.mem_filter.mp (List.mem_of_getLast? h)
  exact ⟨hmem.1, (of_decide_eq_true hmem.2).2⟩

-- The rows are the last snapshots of their keys.
theorem mem_typedAfter_iff {position : ExchangePositionSnapshot} :
    position ∈ (typedAfter positions).rows ↔ lastWritten positions position.key = some position := by
  rw [← find_typedAfter]
  exact Table.mem_rows_iff

theorem legible_rows (h : ∀ position ∈ positions, Legible str position) :
    ∀ row ∈ (typedAfter positions).rows, Legible str row :=
  fun row hrow => h row (key_of_lastWritten (mem_typedAfter_iff.mp hrow)).1

theorem getPosition_afterUpserts (h : ∀ position ∈ positions, Legible str position)
    (symbol positionSide : String) :
    getPosition (afterUpserts str positions) symbol positionSide =
      .ok (lastWritten positions (toLex (symbol, positionSide))) := by
  unfold getPosition
  rw [afterUpserts_eq, Encoding.find_table, find_typedAfter]
  cases hlast : lastWritten positions (toLex (symbol, positionSide)) with
  | none => rfl
  | some position =>
    change (positionOf (columns str position)).map some = _
    rw [positionOf_columns (h position (key_of_lastWritten hlast).1)]
    rfl

theorem listPositions_afterUpserts (h : ∀ position ∈ positions, Legible str position) (includeFlat : Bool) :
    listPositions (afterUpserts str positions) includeFlat =
      .ok ((typedAfter positions).listPositions includeFlat) := by
  have hread : (afterUpserts str positions).rows.mapM positionOf = .ok (typedAfter positions).rows := by
    rw [afterUpserts_eq, Encoding.table, List.mapM_map]
    have hrows := Raise.mapM_eq_ok_map (f := fun row => positionOf ((coding str).encode row)) (g := id)
      fun row hrow => positionOf_columns (legible_rows h row hrow)
    rwa [List.map_id] at hrows
  unfold listPositions PositionStore.listPositions
  rw [hread, Raise.ok_bind]
  cases includeFlat <;> rfl

theorem lastWritten_append_self (key : PositionKey) :
    lastWritten (positions ++ positions) key = lastWritten positions key := by
  unfold lastWritten
  rw [List.filter_append, List.getLast?_append]
  cases (positions.filter _).getLast? <;> rfl

theorem mem_keys_typedAfter {position : ExchangePositionSnapshot} (h : position ∈ positions)
    (hfits : position.Storable) : position.key ∈ (typedAfter positions).keys := by
  have hwritten : position ∈ positions.filter
      (fun row => row.Storable ∧ row.key = position.key) :=
    List.mem_filter.mpr ⟨h, decide_eq_true ⟨hfits, rfl⟩⟩
  rw [Table.mem_keys_iff, find_typedAfter, lastWritten]
  exact ⟨_, List.getLast?_eq_some_getLast (List.ne_nil_of_mem hwritten)⟩

-- Positions that are written again leave the table as it is.
theorem typedAfter_append_self : typedAfter (positions ++ positions) = typedAfter positions := by
  refine Table.ext_of_find ?_ fun key => ?_
  · unfold typedAfter
    rw [PositionStore.afterCalls_eq, PositionStore.afterCalls_eq, List.filter_append, Table.upsertAll_append]
    apply Table.keys_upsertAll_of_subset
    intro position h
    rw [← PositionStore.afterCalls_eq]
    have hmem := List.mem_filter.mp h
    exact mem_keys_typedAfter hmem.1 (of_decide_eq_true hmem.2)
  · rw [find_typedAfter, find_typedAfter, lastWritten_append_self]

-- Written from an empty table: a key reads as its last snapshot whose call did not raise,
-- whatever was written before it; the listed positions are the last snapshots, each key once, and without the flat
-- ones unless they are asked for; and writing everything again changes nothing.
theorem positionStore_refines_map (str : ℚ → String) (positions : List ExchangePositionSnapshot)
    (hstr : ∀ position ∈ positions, Legible str position) :
    (∀ symbol positionSide, getPosition (afterUpserts str positions) symbol positionSide =
      .ok (lastWritten positions (toLex (symbol, positionSide)))) ∧
    (∃ listed, listPositions (afterUpserts str positions) true = .ok listed ∧
      listPositions (afterUpserts str positions) false = .ok (listed.filter (!·.isFlat)) ∧
      (listed.map ExchangePositionSnapshot.key).Nodup ∧
      ∀ position, position ∈ listed ↔ lastWritten positions position.key = some position) ∧
    afterUpserts str (positions ++ positions) = afterUpserts str positions := by
  refine ⟨getPosition_afterUpserts hstr, ⟨(typedAfter positions).rows, ?_, ?_, ?_, ?_⟩, ?_⟩
  · exact listPositions_afterUpserts hstr true
  · exact listPositions_afterUpserts hstr false
  · exact (typedAfter positions).nodup
  · exact fun position => mem_typedAfter_iff
  · rw [afterUpserts_eq, afterUpserts_eq, typedAfter_append_self]

-- A position that is opened, and closed again; the last call raises.
def samplePositions : List ExchangePositionSnapshot :=
  [{ symbol := "BTCUSDT", positionSide := "BOTH", positionAmt := 1, entryPrice := some 100 },
    { symbol := "ETHUSDT", positionSide := "BOTH", positionAmt := 2 },
    { symbol := "BTCUSDT", positionSide := "BOTH", positionAmt := 0 },
    { symbol := "BTCUSDT", positionSide := "BOTH", positionAmt := 3, updateTimeMs := some (2 ^ 63) }]

theorem positionStore_refines_map_sample :
    getPosition (afterUpserts SQLiteOrderStore.hundredthsText samplePositions) "BTCUSDT" "BOTH" =
      .ok (some { symbol := "BTCUSDT", positionSide := "BOTH", positionAmt := 0 }) := by
  have hlegible : ∀ position ∈ samplePositions, Legible SQLiteOrderStore.hundredthsText position := by
    simp only [samplePositions, List.mem_cons, List.not_mem_nil, or_false, forall_eq_or_imp, forall_eq]
    refine ⟨⟨?_, ?_, ?_, ?_, ?_, ?_⟩, ⟨?_, ?_, ?_, ?_, ?_, ?_⟩, ⟨?_, ?_, ?_, ?_, ?_, ?_⟩,
      ⟨?_, ?_, ?_, ?_, ?_, ?_⟩⟩
    all_goals decide +kernel
  rw [(positionStore_refines_map SQLiteOrderStore.hundredthsText samplePositions hlegible).1]
  rfl

end SQLitePositionStore

end DualSleeve
