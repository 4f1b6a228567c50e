import DualSleeve.Exchange.Filters
import Mathlib.Data.Option.Basic

namespace DualSleeve

open Library.Grid Library.Raise
open scoped ExactDecimals

-- The multiple of the step that flooring a value comes to.
def IsFloor (step value floored : ℚ) : Prop := IsGreatest {y | OnGrid y step ∧ y ≤ value} floored

-- The quantity and the price are floored, nothing else changes, and there is nothing left
-- to floor.
structure Normalized (filters : SymbolFilters) (intent normalized : OrderIntent) : Prop where
  quantity : IsFloor filters.stepSize intent.quantity normalized.quantity
  price : Option.Rel (IsFloor filters.tickSize) intent.price normalized.price
  others : normalized = { intent with quantity := normalized.quantity, price := normalized.price }
  fixed : normalizeOrderIntent normalized filters = .ok normalized

-- The floored quantity is zero, or its notional at the floored price is too small.
def Unplaceable (filters : SymbolFilters) (intent : OrderIntent) : Prop :=
  ∃ quantity, IsFloor filters.stepSize intent.quantity quantity ∧
    (quantity = 0 ∨ ∃ limit ∈ intent.price, ∃ price, IsFloor filters.tickSize limit price ∧
      quantity * price < filters.minNotional)

variable {intent normalized : OrderIntent} {filters : SymbolFilters}

theorem isFloor_iff {step value floored : ℚ} (hstep : 0 < step) (hvalue : 0 ≤ value) :
    IsFloor step value floored ↔ floored = truncateTo value step :=
  ⟨fun h => h.unique (isGreatest_truncateTo hstep hvalue), fun h => h ▸ isGreatest_truncateTo hstep hvalue⟩

-- What has been normalised is on both grids already.
theorem normalizeOrderIntent_fixed (htick : 0 < filters.tickSize) (hstep : 0 < filters.stepSize)
    (h : normalizeOrderIntent intent filters = .ok normalized) :
    normalizeOrderIntent normalized filters = .ok normalized := by
  obtain ⟨heq, hpos, hnotional⟩ := (normalizeOrderIntent_eq_ok htick hstep).mp h
  have hquantity : floored normalized.quantity filters.stepSize = normalized.quantity := by
    rw [heq]
    exact truncateTo_of_onGrid hstep (onGrid_truncateTo _ _)
  have hprice : normalized.price.map (floored · filters.tickSize) = normalized.price := by
    rw [heq, Option.map_map]
    congr 1
    funext price
    exact truncateTo_of_onGrid htick (onGrid_truncateTo _ _)
  refine (normalizeOrderIntent_eq_ok htick hstep).mpr ⟨?_, hpos, hnotional⟩
  rw [hquantity, hprice]

theorem normalizeOrderIntent_normalized (hquantity : 0 ≤ intent.quantity)
    (hprice : ∀ price ∈ intent.price, 0 ≤ price) (htick : 0 < filters.tickSize)
    (hstep : 0 < filters.stepSize) (h : normalizeOrderIntent intent filters = .ok normalized) :
    Normalized filters intent normalized := by
  obtain ⟨heq, -, -⟩ := (normalizeOrderIntent_eq_ok htick hstep).mp h
  refine ⟨?_, ?_, normalizeOrderIntent_keeps h, normalizeOrderIntent_fixed htick hstep h⟩
  · rw [isFloor_iff hstep hquantity, heq, ExactDecimals.floored_eq]
  · rw [heq]
    cases hlimit : intent.price with
    | none => exact .none
    | some limit => exact .some (isGreatest_truncateTo htick (hprice limit hlimit))

theorem unplaceable_iff (hquantity : 0 ≤ intent.quantity) (hprice : ∀ price ∈ intent.price, 0 ≤ price)
    (htick : 0 < filters.tickSize) (hstep : 0 < filters.stepSize) :
    Unplaceable filters intent ↔
      truncateTo intent.quantity filters.stepSize = 0 ∨ ∃ limit ∈ intent.price,
        truncateTo intent.quantity filters.stepSize * truncateTo limit filters.tickSize <
          filters.minNotional := by
  constructor
  · intro h
    obtain ⟨quantity, hfloor, hfails⟩ := h
    obtain rfl := (isFloor_iff hstep hquantity).mp hfloor
    refine hfails.imp_right fun hnotional => ?_
    obtain ⟨limit, hlimit, price, hprice', hlt⟩ := hnotional
    obtain rfl := (isFloor_iff htick (hprice limit hlimit)).mp hprice'
    exact ⟨limit, hlimit, hlt⟩
  · intro h
    refine ⟨_, isGreatest_truncateTo hstep hquantity, h.imp_right fun hnotional => ?_⟩
    obtain ⟨limit, hlimit, hlt⟩ := hnotional
    exact ⟨limit, hlimit, _, isGreatest_truncateTo htick (hprice limit hlimit), hlt⟩

-- Normalisation floors to both grids and is then done, and it raises exactly on the orders
-- the exchange would not take.
theorem normalize_greatest_and_fixed (hquantity : 0 ≤ intent.quantity)
    (hprice : ∀ price ∈ intent.price, 0 ≤ price) (htick : 0 < filters.tickSize)
    (hstep : 0 < filters.stepSize) :
    (∀ normalized, normalizeOrderIntent intent filters = .ok normalized →
      Normalized filters intent normalized) ∧
    ((∃ exc, normalizeOrderIntent intent filters = .error exc) ↔ Unplaceable filters intent) := by
  refine ⟨fun normalized h => normalizeOrderIntent_normalized hquantity hprice htick hstep h, ?_⟩
  rw [unplaceable_iff hquantity hprice htick hstep]
  have hfloor := truncateTo_nonneg hstep hquantity
  constructor
  · intro h
    obtain ⟨exc, hraised⟩ := h
    by_contra hplaceable
    obtain ⟨hne, hnotional⟩ := not_or.mp hplaceable
    have hok : normalizeOrderIntent intent filters = .ok { intent with
        quantity := truncateTo intent.quantity filters.stepSize
        price := intent.price.map (truncateTo · filters.tickSize) } := by
      refine (normalizeOrderIntent_eq_ok htick hstep).mpr ⟨rfl, lt_of_le_of_ne hfloor (Ne.symm hne), ?_⟩
      intro price hmem
      obtain ⟨limit, hlimit, rfl⟩ := Option.mem_map.mp hmem
      exact not_lt.mp fun hlt => hnotional ⟨limit, hlimit, hlt⟩
    rw [hraised] at hok
    cases hok
  · intro h
    cases hresult : normalizeOrderIntent intent filters with
    | error exc => exact ⟨exc, rfl⟩
    | ok normalized =>
      obtain ⟨rfl, hpos, hnotional⟩ := (normalizeOrderIntent_eq_ok htick hstep).mp hresult
      cases h with
      | inl hzero => exact absurd hzero (ne_of_gt hpos)
      | inr hsmall =>
        obtain ⟨limit, hlimit, hlt⟩ := hsmall
        exact absurd hlt (not_lt.mpr (hnotional _ (Option.mem_map_of_mem _ hlimit)))

def offGridIntent : OrderIntent where
  sleeveId := .a
  symbol := "BTCUSDT"
  side := .sell
  orderType := .limit
  action := .entry
  quantity := 123456 / 100000
  price := some (100129 / 1000)
  setupId := some "abcdef123456"

def centFilters : SymbolFilters := ⟨"BTCUSDT", 1 / 100, 1 / 1000, 5⟩

theorem normalize_greatest_and_fixed_sample :
    ∃ normalized, normalizeOrderIntent offGridIntent centFilters = .ok normalized ∧
      Normalized centFilters offGridIntent normalized := by
  obtain ⟨normalized, hok⟩ := exists_ok (by decide +kernel :
    (normalizeOrderIntent offGridIntent centFilters).isOk = true)
  exact ⟨normalized, hok, (normalize_greatest_and_fixed (by decide +kernel) (by decide +kernel) (by decide +kernel)
    (by decide +kernel)).1 normalized hok⟩

example : (normalizeOrderIntent offGridIntent centFilters).map (fun normalized =>
    (normalized.quantity, normalized.price)) = .ok (1234 / 1000, some (10012 / 100)) := by
  decide +kernel

end DualSleeve
