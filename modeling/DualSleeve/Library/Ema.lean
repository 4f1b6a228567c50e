import Mathlib.Data.List.Basic
import Mathlib.Data.List.Induction
import Mathlib.Algebra.Order.Field.Basic
import Mathlib.Tactic.Ring
import Mathlib.Tactic.Linarith

namespace DualSleeve.Library.Ema

-- Exponential smoothing of a sequence with weight `alpha`, seeded by its first value.

section Steps

variable {K : Type*} (step : K → K → K)

-- A sequence from its first value on, each value stepped to from the last one.
def smoothBy : List K → List K
  | [] => []
  | first :: rest => rest.scanl step first

def finalBy [Zero K] : List K → K
  | [] => 0
  | first :: rest => rest.foldl step first

theorem length_smoothBy (values : List K) : (smoothBy step values).length = values.length := by
  cases values with
  | nil => rfl
  | cons first rest => simp [smoothBy]

-- Each smoothed value is the last one of the values up to it.
theorem getElem?_smoothBy [Zero K] (values : List K) (k : ℕ) :
    (smoothBy step values)[k]? =
      if k < values.length then some (finalBy step (values.take (k + 1))) else none := by
  cases values with
  | nil => simp [smoothBy]
  | cons first rest =>
    simp only [smoothBy, finalBy, List.getElem?_scanl, List.length_cons, List.take_succ_cons, Nat.lt_succ_iff]

theorem take_smoothBy (values : List K) (count : ℕ) :
    (smoothBy step values).take count = smoothBy step (values.take count) := by
  cases values with
  | nil => simp [smoothBy]
  | cons first rest =>
    cases count with
    | zero => rfl
    | succ count => exact List.take_scanl first rest count

theorem getLast?_smoothBy [Zero K] {values : List K} (h : values ≠ []) :
    (smoothBy step values).getLast? = some (finalBy step values) := by
  cases values with
  | nil => exact absurd rfl h
  | cons first rest => exact List.getLast?_scanl

theorem finalBy_concat [Zero K] {values : List K} (h : values ≠ []) (value : K) :
    finalBy step (values ++ [value]) = step (finalBy step values) value := by
  cases values with
  | nil => exact absurd rfl h
  | cons first rest => exact List.foldl_concat step first value rest

-- A level that is stepped to from itself is never left.
theorem finalBy_const [Zero K] {level : K} (hstep : step level level = level) {values : List K}
    (h : values ≠ []) (hlevel : ∀ value ∈ values, value = level) : finalBy step values = level := by
  cases values with
  | nil => exact absurd rfl h
  | cons first rest =>
    rw [List.forall_mem_cons] at hlevel
    obtain ⟨rfl, hrest⟩ := hlevel
    refine List.foldlRecOn (motive := (· = first)) rest step rfl fun last hlast value hvalue => ?_
    rw [hlast, hrest value hvalue, hstep]

-- What steps keep holds of the last value.
theorem finalBy_keeps [Zero K] {P : K → Prop} {values : List K} (h : values ≠ [])
    (hvalues : ∀ value ∈ values, P value)
    (hstep : ∀ last value, P last → P value → P (step last value)) : P (finalBy step values) := by
  cases values with
  | nil => exact absurd rfl h
  | cons first rest =>
    rw [List.forall_mem_cons] at hvalues
    exact List.foldlRecOn rest step hvalues.1 fun last hlast value hvalue =>
      hstep last value hlast (hvalues.2 value hvalue)

end Steps

variable {K : Type*} [Field K]

def blend (alpha last value : K) : K := alpha * value + (1 - alpha) * last

def smooth (alpha : K) : List K → List K := smoothBy (blend alpha)

-- The last smoothed value.
def final (alpha : K) : List K → K := finalBy (blend alpha)

theorem final_cons (alpha first : K) (rest : List K) :
    final alpha (first :: rest) = rest.foldl (blend alpha) first := rfl

theorem final_concat (alpha : K) {values : List K} (h : values ≠ []) (value : K) :
    final alpha (values ++ [value]) = blend alpha (final alpha values) value :=
  finalBy_concat _ h value

-- How much of the start of a smoothing is left at its end.
theorem foldl_blend (alpha start : K) (rest : List K) :
    rest.foldl (blend alpha) start = rest.foldl (blend alpha) 0 + (1 - alpha) ^ rest.length * start := by
  induction rest generalizing start with
  | nil => simp
  | cons value rest ih =>
    rw [List.foldl_cons, List.foldl_cons, ih, ih (blend alpha 0 value), List.length_cons]
    unfold blend
    ring

-- Earlier values stay in the average as far as it had moved away from the first of the later ones.
theorem final_append (alpha : K) {earlier later : List K} {first : K} (hne : earlier ≠ [])
    (hfirst : later.head? = some first) :
    final alpha (earlier ++ later) - final alpha later =
      (1 - alpha) ^ later.length * (final alpha earlier - first) := by
  cases earlier with
  | nil => exact absurd rfl hne
  | cons start earlier =>
    obtain ⟨rest, rfl⟩ := List.head?_eq_some_iff.mp hfirst
    rw [List.cons_append, final_cons, final_cons, final_cons, List.foldl_append, List.foldl_cons, foldl_blend,
      foldl_blend alpha first, List.length_cons]
    unfold blend
    ring

-- Smoothing commutes with affine maps.

theorem blend_affine (alpha slope intercept last value : K) :
    blend alpha (slope * last + intercept) (slope * value + intercept) =
      slope * blend alpha last value + intercept := by
  unfold blend
  ring

theorem scanl_affine (alpha slope intercept first : K) (rest : List K) :
    (rest.map fun value => slope * value + intercept).scanl (blend alpha) (slope * first + intercept) =
      (rest.scanl (blend alpha) first).map fun value => slope * value + intercept := by
  induction rest generalizing first with
  | nil => simp
  | cons value rest ih =>
    rw [List.map_cons, List.scanl_cons, List.scanl_cons, List.map_cons, blend_affine, ih]

theorem smooth_affine (alpha slope intercept : K) (values : List K) :
    smooth alpha (values.map fun value => slope * value + intercept) =
      (smooth alpha values).map fun value => slope * value + intercept := by
  cases values with
  | nil => rfl
  | cons first rest => exact scanl_affine alpha slope intercept first rest

theorem final_affine (alpha slope intercept : K) {values : List K} (h : values ≠ []) :
    final alpha (values.map fun value => slope * value + intercept) =
      slope * final alpha values + intercept := by
  have hlast := congrArg List.getLast? (smooth_affine alpha slope intercept values)
  rw [smooth, getLast?_smoothBy _ (by simpa using h), List.getLast?_map, getLast?_smoothBy _ h] at hlast
  exact Option.some.inj hlast

-- With a weight between 0 and 1 no smoothed value leaves the range of the values.

section Convex

variable [LinearOrder K] [IsStrictOrderedRing K] {alpha low high : K}

theorem blend_between (hnonneg : 0 ≤ alpha) (hle : alpha ≤ 1) {last value : K}
    (hlast : low ≤ last ∧ last ≤ high) (hvalue : low ≤ value ∧ value ≤ high) :
    low ≤ blend alpha last value ∧ blend alpha last value ≤ high := by
  have hkeep : 0 ≤ 1 - alpha := sub_nonneg.mpr hle
  unfold blend
  constructor
  · calc low = alpha * low + (1 - alpha) * low := by ring
      _ ≤ alpha * value + (1 - alpha) * last :=
        add_le_add (mul_le_mul_of_nonneg_left hvalue.1 hnonneg) (mul_le_mul_of_nonneg_left hlast.1 hkeep)
  · calc alpha * value + (1 - alpha) * last ≤ alpha * high + (1 - alpha) * high :=
        add_le_add (mul_le_mul_of_nonneg_left hvalue.2 hnonneg) (mul_le_mul_of_nonneg_left hlast.2 hkeep)
      _ = high := by ring

theorem final_between (hnonneg : 0 ≤ alpha) (hle : alpha ≤ 1) {values : List K} (hne : values ≠ [])
    (hvalues : ∀ value ∈ values, low ≤ value ∧ value ≤ high) :
    low ≤ final alpha values ∧ final alpha values ≤ high :=
  finalBy_keeps _ hne hvalues fun _ _ hlast hvalue => blend_between hnonneg hle hlast hvalue

-- Values in a range before others in it move the average by no more than what is left of
-- the width of the range.
theorem abs_final_append_le (hnonneg : 0 ≤ alpha) (hle : alpha ≤ 1) {earlier later : List K} (hne : later ≠ [])
    (hvalues : ∀ value ∈ earlier ++ later, low ≤ value ∧ value ≤ high) :
    |final alpha (earlier ++ later) - final alpha later| ≤ (1 - alpha) ^ later.length * (high - low) := by
  have hkeep : 0 ≤ (1 - alpha) ^ later.length := pow_nonneg (sub_nonneg.mpr hle) _
  have hlater : ∀ value ∈ later, low ≤ value ∧ value ≤ high := fun value hvalue =>
    hvalues value (List.mem_append_right _ hvalue)
  cases earlier with
  | nil =>
    have hfirst := hlater _ (List.head_mem hne)
    rw [List.nil_append, sub_self, abs_zero]
    exact mul_nonneg hkeep (sub_nonneg.mpr (hfirst.1.trans hfirst.2))
  | cons start earlier =>
    have hearlier := final_between hnonneg hle (List.cons_ne_nil start earlier) fun value hvalue =>
      hvalues value (List.mem_append_left _ hvalue)
    have hfirst := hlater _ (List.head_mem hne)
    rw [final_append alpha (List.cons_ne_nil start earlier) (List.head?_eq_some_head hne), abs_mul, abs_of_nonneg hkeep]
    refine mul_le_mul_of_nonneg_left (abs_le.mpr ⟨?_, ?_⟩) hkeep
    · linarith [hearlier.1, hfirst.2]
    · linarith [hearlier.2, hfirst.1]

end Convex

-- A smoothing lags behind a trend, and one with less weight on the new values lags
-- farther behind.

section Trend

variable [LinearOrder K] [IsStrictOrderedRing K] {alpha beta : K}

theorem blend_lt_value (hone : alpha < 1) {last value : K} (h : last < value) :
    blend alpha last value < value := by
  have hlag : 0 < (1 - alpha) * (value - last) := mul_pos (sub_pos.mpr hone) (sub_pos.mpr h)
  unfold blend
  linarith

theorem blend_lt_blend (hslower : beta < alpha) (hone : alpha < 1) {slow fast value : K}
    (hlag : slow ≤ fast) (h : fast < value) : blend beta slow value < blend alpha fast value := by
  have hweight : 0 < (alpha - beta) * (value - fast) :=
    mul_pos (sub_pos.mpr hslower) (sub_pos.mpr h)
  have hkept : 0 ≤ (1 - beta) * (fast - slow) :=
    mul_nonneg (sub_nonneg.mpr (hslower.trans hone).le) (sub_nonneg.mpr hlag)
  have hdifference : blend alpha fast value - blend beta slow value =
      (alpha - beta) * (value - fast) + (1 - beta) * (fast - slow) := by
    unfold blend
    ring
  linarith

-- One more value above all others leaves both averages behind, in this order.
theorem final_concat_of_rising (hslower : beta < alpha) (hone : alpha < 1) {values : List K} {value : K}
    (hne : values ≠ []) (hrises : (values ++ [value]).Pairwise (· < ·)) :
    final beta (values ++ [value]) < final alpha (values ++ [value]) ∧
      final alpha (values ++ [value]) < value := by
  induction values using List.reverseRecOn generalizing value with
  | nil => exact absurd rfl hne
  | append_singleton values last ih =>
    rw [List.pairwise_append] at hrises
    obtain ⟨hbefore, _, habove⟩ := hrises
    have hlast : last < value := habove last (by simp) value (by simp)
    rw [final_concat beta hne, final_concat alpha hne]
    cases values with
    | nil => exact ⟨blend_lt_blend hslower hone le_rfl hlast, blend_lt_value hone hlast⟩
    | cons first rest =>
      obtain ⟨hslow, hfast⟩ := ih (List.cons_ne_nil _ _) hbefore
      have hbelow := hfast.trans hlast
      exact ⟨blend_lt_blend hslower hone hslow.le hbelow, blend_lt_value hone hbelow⟩

theorem final_of_rising (hslower : beta < alpha) (hone : alpha < 1) {values : List K} {last : K}
    (hlength : 2 ≤ values.length) (hlast : values.getLast? = some last)
    (hrises : values.Pairwise (· < ·)) :
    final beta values < final alpha values ∧ final alpha values < last := by
  obtain ⟨before, rfl⟩ := List.getLast?_eq_some_iff.mp hlast
  have hne : before ≠ [] := by
    rintro rfl
    simp at hlength
  exact final_concat_of_rising hslower hone hne hrises

-- A falling sequence is a rising one, seen upside down.
theorem final_of_falling (hslower : beta < alpha) (hone : alpha < 1) {values : List K} {last : K}
    (hlength : 2 ≤ values.length) (hlast : values.getLast? = some last)
    (hfalls : values.Pairwise (· > ·)) :
    last < final alpha values ∧ final alpha values < final beta values := by
  have hne : values ≠ [] := by
    rintro rfl
    simp at hlength
  have hrises : (values.map fun value => -1 * value + 0).Pairwise (· < ·) := by
    rw [List.pairwise_map]
    exact hfalls.imp fun h => by linarith
  have hturned : (values.map fun value => -1 * value + 0).getLast? = some (-1 * last + 0) := by
    rw [List.getLast?_map, hlast]
    rfl
  obtain ⟨hslow, hfast⟩ := final_of_rising hslower hone (by simpa using hlength) hturned hrises
  rw [final_affine _ _ _ hne] at hfast
  rw [final_affine _ _ _ hne, final_affine _ _ _ hne] at hslow
  exact ⟨by linarith, by linarith⟩

end Trend

end DualSleeve.Library.Ema
