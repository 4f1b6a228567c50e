import Mathlib.Data.List.Dedup
import Mathlib.Data.List.Sort

namespace DualSleeve.Library

variable {α : Type*} [LinearOrder α]

-- `sorted(set(xs))`
def sortedSet (xs : List α) : List α := xs.dedup.insertionSort (· ≤ ·)

@[simp] theorem mem_sortedSet {xs : List α} {x : α} : x ∈ sortedSet xs ↔ x ∈ xs := by
  simp [sortedSet, List.mem_insertionSort]

theorem nodup_sortedSet (xs : List α) : (sortedSet xs).Nodup :=
  (List.perm_insertionSort _ _).nodup_iff.mpr (List.nodup_dedup xs)

theorem pairwise_sortedSet (xs : List α) : (sortedSet xs).Pairwise (· ≤ ·) :=
  List.pairwise_insertionSort _ _

-- No member is listed twice, so the order is strict.
theorem pairwise_lt_sortedSet (xs : List α) : (sortedSet xs).Pairwise (· < ·) := by
  have hboth := (pairwise_sortedSet xs).and (nodup_sortedSet xs)
  apply hboth.imp
  intro a b h
  exact lt_of_le_of_ne h.1 h.2

-- The sorted set depends on the members only.
theorem sortedSet_congr {xs ys : List α} (h : ∀ x, x ∈ xs ↔ x ∈ ys) : sortedSet xs = sortedSet ys := by
  apply List.Perm.eq_of_pairwise _ (pairwise_sortedSet xs) (pairwise_sortedSet ys)
  · exact (List.perm_ext_iff_of_nodup (nodup_sortedSet xs) (nodup_sortedSet ys)).mpr (by simpa using h)
  · intro a b _ _ hab hba
    exact le_antisymm hab hba

theorem sortedSet_eq_iff {xs ys : List α} : sortedSet xs = sortedSet ys ↔ ∀ x, x ∈ xs ↔ x ∈ ys := by
  constructor
  · intro h x
    rw [← mem_sortedSet, h, mem_sortedSet]
  · exact sortedSet_congr

@[simp] theorem sortedSet_eq_nil_iff {xs : List α} : sortedSet xs = [] ↔ xs = [] := by
  constructor
  · intro h
    apply List.eq_nil_iff_forall_not_mem.mpr
    intro x hx
    simpa [h] using mem_sortedSet.mpr hx
  · rintro rfl
    rfl

end DualSleeve.Library
