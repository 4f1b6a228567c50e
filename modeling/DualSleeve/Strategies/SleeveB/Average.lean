import DualSleeve.Strategies.SleeveB.Theorems

namespace DualSleeve

open Library Library.Raise
open scoped ExactDecimals

theorem emaAlpha_between {period : ℤ} (h : 1 ≤ period) : 0 ≤ emaAlpha period ∧ emaAlpha period ≤ 1 := by
  have hperiod : (1 : ℚ) ≤ period := by exact_mod_cast h
  rw [ExactDecimals.emaAlpha_eq]
  constructor
  · exact div_nonneg zero_le_two (by linarith)
  · exact (div_le_one (by linarith)).mpr (by linarith)

theorem minimumOf_le {values : List ℚ} (hne : values ≠ []) :
    ∃ low, minimumOf values = .ok low ∧ ∀ value ∈ values, low ≤ value := by
  obtain ⟨low, hlow, hbelow⟩ := minimumOf_of_ne_nil hne
  exact ⟨low, hlow, fun value hvalue => le_of_forall_lt fun bound h => (hbelow bound).mp h value hvalue⟩

theorem isGreatest_maximumOf {values : List ℚ} (hne : values ≠ []) :
    ∃ high, maximumOf values = .ok high ∧ IsGreatest {value | value ∈ values} high := by
  obtain ⟨high, hhigh, habove⟩ := maximumOf_of_ne_nil hne
  have hle : ∀ value ∈ values, value ≤ high := fun value hvalue =>
    le_of_forall_gt fun bound h => (habove bound).mp h value hvalue
  refine ⟨high, hhigh, ?_, hle⟩
  by_contra hother
  have hbelow : ∀ value ∈ values, value < high := fun value hvalue =>
    (hle value hvalue).lt_of_ne fun heq => hother (heq ▸ hvalue)
  exact lt_irrefl high ((habove high).mpr hbelow)

-- The k-th average lies between the minimum and the maximum of the first k values and is
-- made of them alone, and averaging commutes with affine maps.
theorem ema_convex {values : List ℚ} (hne : values ≠ []) {period : ℤ} (hperiod : 1 ≤ period) :
    ∃ averages, ema values period = .ok averages ∧ averages.length = values.length ∧
      (∀ k average, averages[k]? = some average →
        ∃ low high, minimumOf (values.take (k + 1)) = .ok low ∧
          maximumOf (values.take (k + 1)) = .ok high ∧ low ≤ average ∧ average ≤ high) ∧
      (∀ k other otherAverages, ema other period = .ok otherAverages →
        other.take k = values.take k → otherAverages.take k = averages.take k) ∧
      ∀ a b : ℚ, ema (values.map fun x => a * x + b) period = .ok (averages.map fun x => a * x + b) := by
  have hema : ∀ other, ema other period = .ok (Ema.smooth (emaAlpha period) other) := fun other =>
    ExactDecimals.ema_of_pos other (by omega)
  obtain ⟨hnonneg, hle⟩ := emaAlpha_between hperiod
  refine ⟨_, hema values, Ema.length_smoothBy _ values, ?_, ?_, ?_⟩
  · intro k average haverage
    have hfirst : values.take (k + 1) ≠ [] := by simpa using hne
    rw [Ema.smooth, Ema.getElem?_smoothBy] at haverage
    split at haverage
    · obtain rfl := Option.some.inj haverage
      obtain ⟨low, hlow, hbelow⟩ := minimumOf_le hfirst
      obtain ⟨high, hhigh, -, habove⟩ := isGreatest_maximumOf hfirst
      have hbetween := Ema.final_between hnonneg hle hfirst fun value hvalue =>
        ⟨hbelow value hvalue, habove hvalue⟩
      exact ⟨low, high, hlow, hhigh, hbetween.1, hbetween.2⟩
    · cases haverage
  · intro k other otherAverages hother hsame
    rw [hema] at hother
    obtain rfl := Except.ok.inj hother
    rw [Ema.smooth, Ema.take_smoothBy, Ema.take_smoothBy, hsame]
  · intro a b
    rw [hema, Ema.smooth_affine]

theorem ema_convex_sample :
    ∃ averages, ema [100, 110, 90] 3 = .ok averages ∧ averages.length = 3 ∧
      ema [-50, -55, -45] 3 = .ok (averages.map fun x => -1 / 2 * x + 0) := by
  obtain ⟨averages, haverages, hlength, -, -, haffine⟩ :=
    ema_convex (by simp : ([100, 110, 90] : List ℚ) ≠ []) (by decide : (1 : ℤ) ≤ 3)
  refine ⟨averages, haverages, hlength, ?_⟩
  rw [← haffine]
  norm_num

end DualSleeve
