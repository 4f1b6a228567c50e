import Mathlib.Data.List.Range
import Mathlib.Order.Bounds.Basic
import Mathlib.Order.MinMax

namespace DualSleeve.Library.Drawdown

-- The deepest fall of a level below an earlier one, in one pass that remembers the peak.

variable {K : Type*} [LinearOrder K] (change : K → K → K)

-- The peak and the deepest fall so far, a fall being the change from the peak to a level.
def step (peakAndFall : K × K) (level : K) : K × K :=
  let peak := max peakAndFall.1 level
  (peak, min peakAndFall.2 (change level peak))

-- The changes from one of the levels up to `n` to a later one, or to itself.
def changes (levels : ℕ → K) (n : ℕ) : Set K :=
  {fall | ∃ i j, i ≤ j ∧ j ≤ n ∧ fall = change (levels j) (levels i)}

structure Tracks (levels : ℕ → K) (n : ℕ) (peakAndFall : K × K) : Prop where
  peak : IsGreatest {level | ∃ i ≤ n, level = levels i} peakAndFall.1
  fall : IsLeast (changes change levels n) peakAndFall.2

variable {change}

theorem tracks_zero (levels : ℕ → K) :
    Tracks change levels 0 (levels 0, change (levels 0) (levels 0)) := by
  refine ⟨⟨⟨0, le_rfl, rfl⟩, ?_⟩, ⟨⟨0, 0, le_rfl, le_rfl, rfl⟩, ?_⟩⟩
  · rintro level ⟨i, hi, rfl⟩
    rw [Nat.le_zero.mp hi]
  · rintro fall ⟨i, j, hij, hj, rfl⟩
    rw [Nat.le_zero.mp hj] at hij ⊢
    rw [Nat.le_zero.mp hij]

variable {levels : ℕ → K} {n : ℕ} {peakAndFall : K × K}

-- The deepest change to the new level is the one from the peak.
theorem Tracks.step (hchange : ∀ level, Antitone (change level)) (h : Tracks change levels n peakAndFall) :
    Tracks change levels (n + 1) (Drawdown.step change peakAndFall (levels (n + 1))) := by
  have hpeak : IsGreatest {level | ∃ i ≤ n + 1, level = levels i}
      (max peakAndFall.1 (levels (n + 1))) := by
    constructor
    · cases max_choice peakAndFall.1 (levels (n + 1)) with
      | inl hold =>
        obtain ⟨i, hi, hlevel⟩ := h.peak.1
        exact ⟨i, by omega, hold.trans hlevel⟩
      | inr hnew => exact ⟨n + 1, le_rfl, hnew⟩
    · rintro level ⟨i, hi, rfl⟩
      by_cases hlast : i = n + 1
      · rw [hlast]
        exact le_max_right _ _
      · exact (h.peak.2 ⟨i, by omega, rfl⟩).trans (le_max_left _ _)
  refine ⟨hpeak, ?_, ?_⟩
  · show min peakAndFall.2 (change (levels (n + 1)) (max peakAndFall.1 (levels (n + 1)))) ∈ _
    cases min_choice peakAndFall.2 (change (levels (n + 1)) (max peakAndFall.1 (levels (n + 1)))) with
    | inl hold =>
      obtain ⟨i, j, hij, hj, hfall⟩ := h.fall.1
      exact ⟨i, j, hij, by omega, hold.trans hfall⟩
    | inr hnew =>
      obtain ⟨i, hi, hlevel⟩ := hpeak.1
      exact ⟨i, n + 1, hi, le_rfl, by rw [hnew, hlevel]⟩
  · rintro fall ⟨i, j, hij, hj, rfl⟩
    by_cases hlast : j = n + 1
    · have hbelow := hpeak.2 ⟨i, hij.trans hj, rfl⟩
      rw [hlast]
      exact (min_le_right _ _).trans (hchange _ hbelow)
    · exact (min_le_left _ _).trans (h.fall.2 ⟨i, j, hij, by omega, rfl⟩)

theorem tracks_foldl (change : K → K → K) (hchange : ∀ level, Antitone (change level)) (levels : ℕ → K) (n : ℕ) :
    Tracks change levels n (((List.range n).map fun k => levels (k + 1)).foldl (Drawdown.step change)
      (levels 0, change (levels 0) (levels 0))) := by
  induction n with
  | zero => exact tracks_zero levels
  | succ n ih =>
    rw [List.range_succ, List.map_append, List.foldl_append]
    exact ih.step hchange

-- Levels in another unit fall by as much, in this unit.
theorem foldl_step_map (change : K → K → K) {unit : K → K} (hunit : Monotone unit)
    (hchange : ∀ level peak, change (unit level) (unit peak) = unit (change level peak))
    (levels : List K) (peakAndFall : K × K) :
    (levels.map unit).foldl (Drawdown.step change) (unit peakAndFall.1, unit peakAndFall.2) =
      (unit (levels.foldl (Drawdown.step change) peakAndFall).1,
        unit (levels.foldl (Drawdown.step change) peakAndFall).2) := by
  induction levels generalizing peakAndFall with
  | nil => rfl
  | cons level levels ih =>
    have hstep : Drawdown.step change (unit peakAndFall.1, unit peakAndFall.2) (unit level) =
        (unit (Drawdown.step change peakAndFall level).1, unit (Drawdown.step change peakAndFall level).2) := by
      simp only [Drawdown.step]
      rw [← hunit.map_max, hunit.map_min, hchange]
    rw [List.map_cons, List.foldl_cons, List.foldl_cons, hstep, ih]

end DualSleeve.Library.Drawdown
