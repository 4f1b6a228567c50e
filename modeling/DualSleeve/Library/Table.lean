import Mathlib.Data.List.Induction
import Mathlib.Data.List.Nodup
import Mathlib.Logic.Function.Basic

namespace DualSleeve.Library

-- A table with a primary key. `conflict old row` is what is stored when `row` is
-- inserted over `old` (ON CONFLICT DO UPDATE); it keeps the key of the stored row.
structure Schema (κ ρ : Type*) where
  key : ρ → κ
  conflict : ρ → ρ → ρ
  key_conflict : ∀ old row, key (conflict old row) = key old

structure Table {κ ρ : Type*} (schema : Schema κ ρ) where
  rows : List ρ
  nodup : (rows.map schema.key).Nodup

namespace Schema

variable {κ ρ : Type*} [DecidableEq κ] (schema : Schema κ ρ)

-- Insert a row: over the row that has its key, or else at the end.
def write (row : ρ) : List ρ → List ρ
  | [] => [row]
  | old :: rest =>
      if schema.key old = schema.key row then schema.conflict old row :: rest
      else old :: write row rest

theorem map_key_write (row : ρ) (rows : List ρ) :
    (schema.write row rows).map schema.key =
      if schema.key row ∈ rows.map schema.key then rows.map schema.key
      else rows.map schema.key ++ [schema.key row] := by
  induction rows with
  | nil => simp [write]
  | cons old rest ih =>
    by_cases h : schema.key old = schema.key row
    · simp [write, h, schema.key_conflict]
    · have hne : schema.key row ≠ schema.key old := Ne.symm h
      simp only [write, h, ite_false, List.map_cons, ih, List.mem_cons, hne, false_or]
      split <;> rfl

theorem nodup_write (row : ρ) {rows : List ρ} (h : (rows.map schema.key).Nodup) :
    ((schema.write row rows).map schema.key).Nodup := by
  rw [map_key_write]
  split
  · exact h
  · rename_i hn
    exact List.Nodup.append h (List.nodup_singleton _) (by simpa using hn)

theorem find_write (row : ρ) (rows : List ρ) (k : κ) :
    (schema.write row rows).find? (fun r => schema.key r = k) =
      if k = schema.key row then
        some ((rows.find? fun r => schema.key r = schema.key row).elim row (schema.conflict · row))
      else rows.find? fun r => schema.key r = k := by
  induction rows with
  | nil => by_cases hk : k = schema.key row <;> simp [write, hk, eq_comm]
  | cons old rest ih =>
    by_cases h : schema.key old = schema.key row
    · by_cases hk : k = schema.key row
      · simp [write, h, hk, schema.key_conflict]
      · have hne : schema.key row ≠ k := Ne.symm hk
        simp [write, h, hk, hne, schema.key_conflict]
    · simp only [write, h, ite_false, List.find?_cons, ih]
      by_cases hk : k = schema.key row
      · simp [hk, h]
      · by_cases ho : schema.key old = k <;> simp [ho, hk]

end Schema

namespace Table

variable {κ ρ : Type*} [DecidableEq κ] {schema : Schema κ ρ}

def empty (schema : Schema κ ρ) : Table schema := ⟨[], List.nodup_nil⟩

def upsert (table : Table schema) (row : ρ) : Table schema :=
  ⟨schema.write row table.rows, schema.nodup_write row table.nodup⟩

def upsertAll (table : Table schema) (rows : List ρ) : Table schema := rows.foldl upsert table

def erase (table : Table schema) (k : κ) : Table schema where
  rows := table.rows.filter (schema.key · ≠ k)
  nodup := table.nodup.sublist (List.filter_sublist.map _)

def find? (table : Table schema) (k : κ) : Option ρ :=
  table.rows.find? fun row => schema.key row = k

def keys (table : Table schema) : List κ := table.rows.map schema.key

@[simp] theorem find_empty (k : κ) : (empty schema).find? k = none := rfl

@[simp] theorem upsertAll_nil (table : Table schema) : table.upsertAll [] = table := rfl

@[simp] theorem upsertAll_cons (table : Table schema) (row : ρ) (rows : List ρ) :
    table.upsertAll (row :: rows) = (table.upsert row).upsertAll rows := rfl

theorem key_of_find {table : Table schema} {k : κ} {row : ρ} (h : table.find? k = some row) :
    schema.key row = k := by
  simpa using List.find?_some h

theorem mem_of_find {table : Table schema} {k : κ} {row : ρ} (h : table.find? k = some row) :
    row ∈ table.rows :=
  List.mem_of_find?_eq_some h

-- A row of the table is the row its key finds.
theorem find_of_mem {table : Table schema} {row : ρ} (h : row ∈ table.rows) :
    table.find? (schema.key row) = some row := by
  obtain ⟨found, hf⟩ : ∃ found, table.find? (schema.key row) = some found := by
    have hs : (table.rows.find? fun r => schema.key r = schema.key row).isSome :=
      List.find?_isSome.mpr ⟨row, h, by simp⟩
    exact Option.isSome_iff_exists.mp hs
  rw [hf, List.inj_on_of_nodup_map table.nodup (mem_of_find hf) h (key_of_find hf)]

theorem mem_rows_iff {table : Table schema} {row : ρ} :
    row ∈ table.rows ↔ table.find? (schema.key row) = some row :=
  ⟨find_of_mem, mem_of_find⟩

theorem mem_keys_iff {table : Table schema} {k : κ} :
    k ∈ table.keys ↔ ∃ row, table.find? k = some row := by
  constructor
  · intro h
    obtain ⟨row, hr, rfl⟩ := List.mem_map.mp h
    exact ⟨row, find_of_mem hr⟩
  · rintro ⟨row, hr⟩
    exact List.mem_map.mpr ⟨row, mem_of_find hr, key_of_find hr⟩

-- The table as a map: an upsert changes the entry of its own key and no other.
theorem find_upsert (table : Table schema) (row : ρ) (k : κ) :
    (table.upsert row).find? k =
      if k = schema.key row then
        some ((table.find? (schema.key row)).elim row (schema.conflict · row))
      else table.find? k :=
  schema.find_write row table.rows k

theorem find_upsert_of_ne (table : Table schema) {row : ρ} {k : κ} (h : k ≠ schema.key row) :
    (table.upsert row).find? k = table.find? k := by
  rw [find_upsert, if_neg h]

theorem find_erase (table : Table schema) (k other : κ) :
    (table.erase k).find? other = if other = k then none else table.find? other := by
  unfold erase find?
  rw [List.find?_filter]
  split
  · rename_i he
    subst he
    simp
  · rename_i hne
    congr 1
    funext row
    by_cases hr : schema.key row = other
    · simp [hr, hne]
    · simp [hr]

theorem keys_upsert (table : Table schema) (row : ρ) :
    (table.upsert row).keys =
      if schema.key row ∈ table.keys then table.keys else table.keys ++ [schema.key row] :=
  schema.map_key_write row table.rows

theorem mem_keys_upsert {table : Table schema} {row : ρ} {k : κ} :
    k ∈ (table.upsert row).keys ↔ k ∈ table.keys ∨ k = schema.key row := by
  rw [keys_upsert]
  split
  · constructor
    · exact Or.inl
    · rintro (hk | rfl) <;> assumption
  · simp

theorem find_upsertAll_of_notMem {table : Table schema} {rows : List ρ} {k : κ}
    (h : k ∉ rows.map schema.key) : (table.upsertAll rows).find? k = table.find? k := by
  induction rows generalizing table with
  | nil => rfl
  | cons row rows ih =>
    rw [List.map_cons, List.mem_cons, not_or] at h
    rw [upsertAll_cons, ih h.2, find_upsert_of_ne table h.1]

-- Written over an older row or not, a key holds what the last of the written rows
-- left there.
theorem find_upsertAll_of_mem {table : Table schema} {rows : List ρ}
    (hn : (rows.map schema.key).Nodup) {row : ρ} (h : row ∈ rows) :
    (table.upsertAll rows).find? (schema.key row) =
      some ((table.find? (schema.key row)).elim row (schema.conflict · row)) := by
  induction rows generalizing table with
  | nil => cases h
  | cons first rows ih =>
    rw [List.map_cons, List.nodup_cons] at hn
    rw [upsertAll_cons]
    cases List.mem_cons.mp h with
    | inl he =>
      subst he
      rw [find_upsertAll_of_notMem hn.1, find_upsert, if_pos rfl]
    | inr hr =>
      have hne : schema.key row ≠ schema.key first := by
        intro he
        exact hn.1 (he ▸ List.mem_map_of_mem hr)
      rw [ih hn.2 hr, find_upsert_of_ne table hne]

-- Where a row replaces the older one whole, the table holds the written rows and those of
-- the old rows whose keys were not written.
theorem mem_upsertAll_iff {table : Table schema} {rows : List ρ} (hn : (rows.map schema.key).Nodup)
    (hreplace : ∀ old row, schema.key old = schema.key row → schema.conflict old row = row) {row : ρ} :
    row ∈ (table.upsertAll rows).rows ↔
      row ∈ rows ∨ row ∈ table.rows ∧ schema.key row ∉ rows.map schema.key := by
  have hwritten : ∀ written ∈ rows,
      (table.upsertAll rows).find? (schema.key written) = some written := by
    intro written hw
    rw [find_upsertAll_of_mem hn hw]
    cases ho : table.find? (schema.key written) with
    | none => rfl
    | some old => exact congrArg some (hreplace old written (key_of_find ho))
  rw [mem_rows_iff]
  by_cases hk : schema.key row ∈ rows.map schema.key
  · obtain ⟨written, hw, he⟩ := List.mem_map.mp hk
    rw [← he, hwritten written hw, Option.some_inj]
    constructor
    · intro h
      exact .inl (h ▸ hw)
    · intro h
      cases h with
      | inl hr => exact List.inj_on_of_nodup_map hn hw hr he
      | inr hr => exact absurd (List.mem_map_of_mem hw) hr.2
  · rw [find_upsertAll_of_notMem hk, ← mem_rows_iff]
    constructor
    · intro h
      exact .inr ⟨h, hk⟩
    · intro h
      cases h with
      | inl hr => exact absurd (List.mem_map_of_mem hr) hk
      | inr hr => exact hr.1

-- What a list of writes leaves at a key: the rows written there, each over what the one
-- before it left.
theorem find_upsertAll (table : Table schema) (rows : List ρ) (k : κ) :
    (table.upsertAll rows).find? k =
      (rows.filter (schema.key · = k)).foldl
        (fun stored row => some (stored.elim row (schema.conflict · row))) (table.find? k) := by
  induction rows generalizing table with
  | nil => rfl
  | cons row rows ih =>
    rw [upsertAll_cons, ih, find_upsert, List.filter_cons]
    by_cases h : schema.key row = k
    · subst h
      simp
    · simp [h, Ne.symm h]

omit [DecidableEq κ] in
theorem foldl_conflict (hover : ∀ old row later, schema.conflict (schema.conflict old row) later =
    schema.conflict old later) (hself : ∀ row, schema.conflict row row = row) (first : ρ) (later : List ρ) :
    later.foldl (fun stored row => some (stored.elim row (schema.conflict · row))) (some first) =
      some (schema.conflict first ((first :: later).getLast (List.cons_ne_nil _ _))) := by
  induction later using List.reverseRecOn with
  | nil => exact congrArg some (hself first).symm
  | append_singleton later row ih =>
    rw [List.foldl_append, ih]
    have hlast : (first :: (later ++ [row])).getLast (List.cons_ne_nil _ _) = row := by
      rw [List.getLast_cons (by simp), List.getLast_append_singleton]
    rw [hlast]
    exact congrArg some (hover _ _ _)

-- Where a later write undoes an earlier one and a row written over itself stays, a key
-- holds its first row with the last one written over it.
theorem find_upsertAll_empty (hover : ∀ old row later, schema.conflict (schema.conflict old row) later =
    schema.conflict old later) (hself : ∀ row, schema.conflict row row = row) (rows : List ρ) (k : κ) :
    ((empty schema).upsertAll rows).find? k =
      (rows.filter (schema.key · = k)).head?.bind fun first =>
        (rows.filter (schema.key · = k)).getLast?.map (schema.conflict first) := by
  rw [find_upsertAll, find_empty]
  cases hwritten : rows.filter (schema.key · = k) with
  | nil => rfl
  | cons first later =>
    rw [List.head?_cons, Option.bind_some, List.getLast?_eq_getLast_of_ne_nil (List.cons_ne_nil _ _)]
    exact foldl_conflict hover hself first later

-- A property of rows that conflicts keep holds of every row once it holds of the written ones.
theorem forall_rows_upsert {P : ρ → Prop} {table : Table schema}
    (hconflict : ∀ old row, P old → P row → P (schema.conflict old row))
    (h : ∀ row ∈ table.rows, P row) {row : ρ} (hrow : P row) :
    ∀ stored ∈ (table.upsert row).rows, P stored := by
  intro stored hstored
  have hfind := find_of_mem hstored
  rw [find_upsert] at hfind
  by_cases hk : schema.key stored = schema.key row
  · rw [if_pos hk] at hfind
    obtain rfl := Option.some.inj hfind
    cases hold : table.find? (schema.key row) with
    | none => exact hrow
    | some old => exact hconflict old row (h old (mem_of_find hold)) hrow
  · rw [if_neg hk] at hfind
    exact h stored (mem_of_find hfind)

theorem upsertAll_append (table : Table schema) (rows more : List ρ) :
    table.upsertAll (rows ++ more) = (table.upsertAll rows).upsertAll more :=
  List.foldl_append

-- Rows whose keys are all there leave the keys as they are.
theorem keys_upsertAll_of_subset {table : Table schema} {rows : List ρ}
    (h : ∀ row ∈ rows, schema.key row ∈ table.keys) : (table.upsertAll rows).keys = table.keys := by
  induction rows generalizing table with
  | nil => rfl
  | cons row rows ih =>
    have hkeys : (table.upsert row).keys = table.keys := by
      rw [keys_upsert, if_pos (h row List.mem_cons_self)]
    rw [upsertAll_cons, ih, hkeys]
    intro other hother
    rw [hkeys]
    exact h other (List.mem_cons_of_mem row hother)

-- The keys in their order, and what each of them holds, make the table.
theorem ext_of_find {table other : Table schema} (hkeys : table.keys = other.keys)
    (hfind : ∀ k, table.find? k = other.find? k) : table = other := by
  have hrows : ∀ one : Table schema, one.rows = one.keys.filterMap one.find? := by
    intro one
    unfold keys
    rw [List.filterMap_map]
    have hfound : one.rows.filterMap (one.find? ∘ schema.key) = one.rows.filterMap some :=
      List.filterMap_congr fun row hrow => find_of_mem hrow
    rw [hfound, List.filterMap_some]
  have heq : table.rows = other.rows := by
    rw [hrows table, hrows other, hkeys]
    exact List.filterMap_congr fun k _ => hfind k
  obtain ⟨rows, nodup⟩ := table
  cases heq
  rfl

omit [DecidableEq κ] in
theorem length_keys (table : Table schema) : table.keys.length = table.rows.length :=
  List.length_map _

theorem length_upsert (table : Table schema) (row : ρ) :
    (table.upsert row).rows.length =
      if schema.key row ∈ table.keys then table.rows.length else table.rows.length + 1 := by
  rw [← length_keys, keys_upsert]
  split <;> simp [length_keys]

theorem length_upsertAll_le (table : Table schema) (rows : List ρ) :
    (table.upsertAll rows).rows.length ≤ table.rows.length + rows.length := by
  induction rows generalizing table with
  | nil => simp
  | cons row rows ih =>
    have h := ih (table.upsert row)
    rw [length_upsert] at h
    rw [upsertAll_cons, List.length_cons]
    split at h <;> omega

-- Every written row got a row of its own exactly when no key was written twice or
-- was there before.
theorem length_upsertAll_eq_iff (table : Table schema) (rows : List ρ) :
    (table.upsertAll rows).rows.length = table.rows.length + rows.length ↔
      (rows.map schema.key).Nodup ∧ ∀ k ∈ rows.map schema.key, k ∉ table.keys := by
  induction rows generalizing table with
  | nil => simp
  | cons row rows ih =>
    have hle := length_upsertAll_le (table.upsert row) rows
    rw [upsertAll_cons, List.length_cons, List.map_cons, List.nodup_cons, List.forall_mem_cons]
    by_cases hk : schema.key row ∈ table.keys
    · rw [length_upsert, if_pos hk] at hle
      constructor
      · intro he
        omega
      · rintro ⟨_, hn, _⟩
        exact absurd hk hn
    · have hi := ih (table.upsert row)
      rw [length_upsert, if_neg hk] at hi
      rw [show table.rows.length + (rows.length + 1) = table.rows.length + 1 + rows.length by omega,
        hi]
      simp only [mem_keys_upsert, not_or]
      constructor
      · rintro ⟨hn, hf⟩
        exact ⟨⟨fun hm => (hf _ hm).2 rfl, hn⟩, hk, fun k hm => (hf k hm).1⟩
      · rintro ⟨⟨hr, hn⟩, _, hf⟩
        exact ⟨hn, fun k hm => ⟨hf k hm, fun he => hr (he ▸ hm)⟩⟩

end Table

-- A dict: `d[key] = value` keeps the place of a key that is there.
def entrySchema (κ α : Type*) : Schema κ (κ × α) where
  key := Prod.fst
  conflict old row := (old.1, row.2)
  key_conflict _ _ := rfl

abbrev Dict (κ α : Type*) := Table (entrySchema κ α)

namespace Dict

variable {κ α : Type*} [DecidableEq κ]

def get (dict : Dict κ α) (key : κ) : Option α := (Table.find? dict key).map Prod.snd

def set (dict : Dict κ α) (key : κ) (value : α) : Dict κ α := Table.upsert dict (key, value)

def values (dict : Dict κ α) : List α := dict.rows.map Prod.snd

theorem get_set (dict : Dict κ α) (key other : κ) (value : α) :
    (dict.set key value).get other = if other = key then some value else dict.get other := by
  unfold get set
  rw [Table.find_upsert]
  change Option.map Prod.snd (if other = key then _ else _) = _
  split
  · cases Table.find? dict ((entrySchema κ α).key (key, value)) <;> rfl
  · rfl

-- The values stand in the order of the keys.
theorem values_eq (dict : Dict κ α) : dict.values = (Table.keys dict).filterMap dict.get := by
  unfold values Table.keys
  rw [List.filterMap_map]
  have hfound : dict.rows.filterMap (dict.get ∘ (entrySchema κ α).key) =
      dict.rows.filterMap fun row => some row.2 := by
    refine List.filterMap_congr fun row hrow => ?_
    have hfind : Table.find? dict ((entrySchema κ α).key row) = some row := Table.find_of_mem hrow
    rw [Function.comp_apply, get, hfind]
    rfl
  rw [hfound, List.filterMap_eq_map']

end Dict

-- The rows of a table, kept in another form that has the same keys and conflicts.
structure Encoding {κ ρ ρ' : Type*} (schema : Schema κ ρ) (coded : Schema κ ρ') where
  encode : ρ → ρ'
  key_encode : ∀ row, coded.key (encode row) = schema.key row
  encode_conflict : ∀ old row, encode (schema.conflict old row) = coded.conflict (encode old) (encode row)

namespace Encoding

variable {κ ρ ρ' : Type*} [DecidableEq κ] {schema : Schema κ ρ} {coded : Schema κ ρ'}

theorem write_map (encoding : Encoding schema coded) (row : ρ) (rows : List ρ) :
    coded.write (encoding.encode row) (rows.map encoding.encode) =
      (schema.write row rows).map encoding.encode := by
  induction rows with
  | nil => rfl
  | cons old rest ih =>
    rw [List.map_cons, Schema.write, Schema.write, encoding.key_encode, encoding.key_encode]
    by_cases h : schema.key old = schema.key row
    · rw [if_pos h, if_pos h, List.map_cons, encoding.encode_conflict]
    · rw [if_neg h, if_neg h, List.map_cons, ih]

omit [DecidableEq κ] in
theorem map_key (encoding : Encoding schema coded) (rows : List ρ) :
    (rows.map encoding.encode).map coded.key = rows.map schema.key := by
  rw [List.map_map]
  exact List.map_congr_left fun row _ => encoding.key_encode row

-- The table as it is kept.
def table (encoding : Encoding schema coded) (table : Table schema) : Table coded where
  rows := table.rows.map encoding.encode
  nodup := by
    rw [encoding.map_key]
    exact table.nodup

theorem upsert_table (encoding : Encoding schema coded) (table : Table schema) (row : ρ) :
    (encoding.table table).upsert (encoding.encode row) = encoding.table (table.upsert row) := by
  unfold Encoding.table Table.upsert
  simp only [encoding.write_map]

theorem upsertAll_table (encoding : Encoding schema coded) (table : Table schema) (rows : List ρ) :
    (encoding.table table).upsertAll (rows.map encoding.encode) =
      encoding.table (table.upsertAll rows) := by
  induction rows generalizing table with
  | nil => rfl
  | cons row rows ih =>
    rw [List.map_cons, Table.upsertAll_cons, encoding.upsert_table, ih, Table.upsertAll_cons]

theorem find_table (encoding : Encoding schema coded) (table : Table schema) (k : κ) :
    (encoding.table table).find? k = (table.find? k).map encoding.encode := by
  unfold Encoding.table Table.find?
  rw [List.find?_map]
  congr 2
  funext row
  simp only [Function.comp_apply, encoding.key_encode]

end Encoding

end DualSleeve.Library
