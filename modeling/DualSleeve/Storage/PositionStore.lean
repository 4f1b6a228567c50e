import DualSleeve.Core.Models
import DualSleeve.Library.Table
import Mathlib.Algebra.Ring.Int.Defs
import Mathlib.Data.String.Basic

namespace DualSleeve

open Library

-- The `positions` table; its columns are the fields of a snapshot.
def positionSchema : Schema PositionKey ExchangePositionSnapshot where
  key := ExchangePositionSnapshot.key
  conflict old row := { row with symbol := old.symbol, positionSide := old.positionSide }
  key_conflict _ _ := rfl

abbrev PositionStore := Table positionSchema

-- SQLite holds an INTEGER in 64 bits.
def ExchangePositionSnapshot.Storable (position : ExchangePositionSnapshot) : Prop :=
  ∀ time ∈ position.updateTimeMs, -2 ^ 63 ≤ time ∧ time < 2 ^ 63

instance (position : ExchangePositionSnapshot) : Decidable position.Storable :=
  inferInstanceAs (Decidable (∀ time ∈ position.updateTimeMs, -2 ^ 63 ≤ time ∧ time < 2 ^ 63))

-- The error of binding an integer that has no room there.
def integerTooLarge : PyError := .overflowError "Python int too large to convert to SQLite INTEGER"

namespace PositionStore

def upsertPosition (store : PositionStore) (position : ExchangePositionSnapshot) : Except PyError PositionStore :=
  if position.Storable then .ok (Table.upsert store position) else .error integerTooLarge

def getPosition (store : PositionStore) (symbol : String) (positionSide : String := "BOTH") :
    Option ExchangePositionSnapshot :=
  Table.find? store (toLex (symbol, positionSide))

def listPositions (store : PositionStore) (includeFlat : Bool := false) : List ExchangePositionSnapshot :=
  if includeFlat then store.rows else store.rows.filter (!·.isFlat)

end PositionStore

@[simp] theorem positionSchema_key (position : ExchangePositionSnapshot) :
    positionSchema.key position = position.key := rfl

-- A position written over another of its key replaces it whole.
theorem positionSchema_conflict {old row : ExchangePositionSnapshot} (h : old.key = row.key) :
    positionSchema.conflict old row = row := by
  obtain ⟨hs, hp⟩ := Prod.mk.inj (toLex.injective h)
  simp only [positionSchema, hs, hp]

namespace PositionStore

theorem upsertPosition_of_storable {position : ExchangePositionSnapshot} (h : position.Storable)
    (store : PositionStore) : store.upsertPosition position = .ok (Table.upsert store position) :=
  if_pos h

theorem upsertPosition_of_not_storable {position : ExchangePositionSnapshot} (h : ¬position.Storable)
    (store : PositionStore) : store.upsertPosition position = .error integerTooLarge :=
  if_neg h

-- The store after calls of `upsert_position`; one that raises leaves it as it was.
def afterCalls (store : PositionStore) (history : List ExchangePositionSnapshot) : PositionStore :=
  history.foldl (fun store position =>
    match store.upsertPosition position with
    | .ok written => written
    | .error _ => store) store

theorem afterCalls_eq (store : PositionStore) (history : List ExchangePositionSnapshot) :
    store.afterCalls history = Table.upsertAll store (history.filter (·.Storable)) := by
  induction history generalizing store with
  | nil => rfl
  | cons position history ih =>
    rw [afterCalls, List.foldl_cons, ← afterCalls, ih]
    by_cases hfits : position.Storable
    · rw [upsertPosition_of_storable hfits, List.filter_cons, if_pos (decide_eq_true hfits)]
      rfl
    · rw [upsertPosition_of_not_storable hfits, List.filter_cons, if_neg (by simpa using hfits)]

-- The positions after `positions` are written: those that are not flat, and the older
-- ones whose keys were not written.
theorem mem_listPositions_upsertAll {store : PositionStore} {positions : List ExchangePositionSnapshot}
    (hn : (positions.map ExchangePositionSnapshot.key).Nodup) {row : ExchangePositionSnapshot} :
    row ∈ listPositions (Table.upsertAll store positions) ↔
      row ∈ positions.filter (!·.isFlat) ∨
        row ∈ store.listPositions ∧ row.key ∉ positions.map ExchangePositionSnapshot.key := by
  have hrows : row ∈ (Table.upsertAll store positions).rows ↔ _ :=
    Table.mem_upsertAll_iff hn fun old row h => positionSchema_conflict h
  simp only [listPositions, Bool.false_eq_true, if_false, List.mem_filter, hrows, positionSchema_key]
  tauto

theorem nodup_key_listPositions (store : PositionStore) :
    (store.listPositions.map ExchangePositionSnapshot.key).Nodup :=
  store.nodup.sublist (List.filter_sublist.map _)

end PositionStore

end DualSleeve
