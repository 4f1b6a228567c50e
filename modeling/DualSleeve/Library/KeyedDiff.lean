import DualSleeve.Library.SortedSet

namespace DualSleeve.Library

-- The difference of two collections with keys: the keys of one side only, and those of
-- both sides whose entries disagree.
structure KeyedDiff (κ : Type*) where
  missing : List κ
  unknown : List κ
  mismatched : List κ

variable {κ α : Type*} [LinearOrder κ]

def keyedDiff (localKeys remoteKeys : List κ) (mismatch : κ → Bool) : KeyedDiff κ where
  missing := sortedSet (localKeys.filter (· ∉ remoteKeys))
  unknown := sortedSet (remoteKeys.filter (· ∉ localKeys))
  mismatched := sortedSet ((localKeys.filter (· ∈ remoteKeys)).filter mismatch)

-- `{key(x): x for x in xs}[k]`: of equal keys the last one counts.
def lastWithKey (key : α → κ) (xs : List α) (k : κ) : Option α := xs.reverse.find? (key · = k)

theorem lastWithKey_of_mem {key : α → κ} {xs : List α} (hn : (xs.map key).Nodup) {x : α} (hx : x ∈ xs) :
    lastWithKey key xs (key x) = some x := by
  obtain ⟨found, hf⟩ : ∃ found, lastWithKey key xs (key x) = some found := by
    have hs : (xs.reverse.find? fun y => key y = key x).isSome :=
      List.find?_isSome.mpr ⟨x, List.mem_reverse.mpr hx, by simp⟩
    exact Option.isSome_iff_exists.mp hs
  have hmem : found ∈ xs := List.mem_reverse.mp (List.mem_of_find?_eq_some hf)
  have hkey : key found = key x := by simpa using List.find?_some hf
  rw [hf, List.inj_on_of_nodup_map hn hmem hx hkey]

theorem lastWithKey_eq_none_iff {key : α → κ} {xs : List α} {k : κ} :
    lastWithKey key xs k = none ↔ k ∉ xs.map key := by
  simp [lastWithKey, List.find?_eq_none]

-- Where no key is listed twice, the last entry of a key is its first.
theorem lastWithKey_eq_find {key : α → κ} {xs : List α} (hn : (xs.map key).Nodup) (k : κ) :
    lastWithKey key xs k = xs.find? (key · = k) := by
  cases hfind : xs.find? (key · = k) with
  | none => simpa [lastWithKey] using hfind
  | some x =>
    have hkey : key x = k := by simpa using List.find?_some hfind
    rw [← hkey]
    exact lastWithKey_of_mem hn (List.mem_of_find?_eq_some hfind)

-- The last entry of a key is the last of those that have it.
theorem lastWithKey_eq_getLast (key : α → κ) (xs : List α) (k : κ) :
    lastWithKey key xs k = (xs.filter (key · = k)).getLast? := by
  rw [lastWithKey, ← List.head?_filter, List.filter_reverse, List.head?_reverse]

namespace KeyedDiff

def isEmpty (diff : KeyedDiff κ) : Bool :=
  diff.missing.isEmpty && diff.unknown.isEmpty && diff.mismatched.isEmpty

-- Nothing differs when both sides have the same keys and agree on them.
theorem isEmpty_iff {localKeys remoteKeys : List κ} {mismatch : κ → Bool} :
    (keyedDiff localKeys remoteKeys mismatch).isEmpty = true ↔
      (∀ k, k ∈ localKeys ↔ k ∈ remoteKeys) ∧ ∀ k ∈ localKeys, mismatch k = false := by
  simp only [isEmpty, keyedDiff, Bool.and_eq_true, List.isEmpty_iff, sortedSet_eq_nil_iff,
    List.filter_eq_nil_iff, decide_eq_true_eq, not_not, List.mem_filter, Bool.not_eq_true]
  constructor
  · intro h
    obtain ⟨⟨hmissing, hunknown⟩, hmismatch⟩ := h
    exact ⟨fun k => ⟨hmissing k, hunknown k⟩, fun k hk => hmismatch k ⟨hk, hmissing k hk⟩⟩
  · intro h
    obtain ⟨hkeys, hmismatch⟩ := h
    exact ⟨⟨fun k => (hkeys k).mp, fun k => (hkeys k).mpr⟩, fun k hk => hmismatch k hk.1⟩

section Members

variable {localKeys remoteKeys : List κ} {mismatch : κ → Bool} {k : κ}

theorem mem_missing (mismatch : κ → Bool) :
    k ∈ (keyedDiff localKeys remoteKeys mismatch).missing ↔ k ∈ localKeys ∧ k ∉ remoteKeys := by
  simp [keyedDiff]

theorem mem_unknown (mismatch : κ → Bool) :
    k ∈ (keyedDiff localKeys remoteKeys mismatch).unknown ↔ k ∈ remoteKeys ∧ k ∉ localKeys := by
  simp [keyedDiff]

theorem mem_mismatched :
    k ∈ (keyedDiff localKeys remoteKeys mismatch).mismatched ↔
      (k ∈ localKeys ∧ k ∈ remoteKeys) ∧ mismatch k = true := by
  simp only [keyedDiff, mem_sortedSet, List.mem_filter, decide_eq_true_eq]

end Members

-- Each of the three lists is in order, and no key is in two of them.
structure Separated (diff : KeyedDiff κ) : Prop where
  sorted_missing : diff.missing.Pairwise (· < ·)
  sorted_unknown : diff.unknown.Pairwise (· < ·)
  sorted_mismatched : diff.mismatched.Pairwise (· < ·)
  missing_unknown : diff.missing.Disjoint diff.unknown
  missing_mismatched : diff.missing.Disjoint diff.mismatched
  unknown_mismatched : diff.unknown.Disjoint diff.mismatched

theorem separated_keyedDiff (localKeys remoteKeys : List κ) (mismatch : κ → Bool) :
    (keyedDiff localKeys remoteKeys mismatch).Separated where
  sorted_missing := pairwise_lt_sortedSet _
  sorted_unknown := pairwise_lt_sortedSet _
  sorted_mismatched := pairwise_lt_sortedSet _
  missing_unknown := by
    intro k hmissing hunknown
    exact ((mem_missing _).mp hmissing).2 ((mem_unknown _).mp hunknown).1
  missing_mismatched := by
    intro k hmissing hmismatched
    exact ((mem_missing _).mp hmissing).2 (mem_mismatched.mp hmismatched).1.2
  unknown_mismatched := by
    intro k hunknown hmismatched
    exact ((mem_unknown _).mp hunknown).2 (mem_mismatched.mp hmismatched).1.1

end KeyedDiff

end DualSleeve.Library
