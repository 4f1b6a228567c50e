import DualSleeve.Core.DecimalContext
import DualSleeve.Library.Grid
import DualSleeve.Library.Raise
import Mathlib.Data.Rat.Floor

namespace DualSleeve

open Library.Grid Library.Raise

section Source

variable [DecimalContext]

-- `to_integral_value(rounding=ROUND_DOWN)` rounds towards zero.
def floorToStep (value step : ℚ) : Except PyError ℚ :=
  if step ≤ 0 then .error (.exchangeFilterError .stepMustBePositive)
  else .ok (rounded (truncate (rounded (value / step)) * step))

def roundPriceToTick (price tickSize : ℚ) : Except PyError ℚ := floorToStep price tickSize

def roundOptionalPrice (price : Option ℚ) (tickSize : ℚ) : Except PyError (Option ℚ) :=
  match price with
  | none => .ok none
  | some price => (roundPriceToTick price tickSize).map some

-- The notional is validated before the quantity is.
def validateNormalized (symbol : String) (quantity : ℚ) (price : Option ℚ) (filters : SymbolFilters) :
    Except PyError Unit :=
  if ∃ validationPrice ∈ price, rounded (quantity * validationPrice) < filters.minNotional then
    .error (.exchangeFilterError
      (.notionalBelowMinNotional symbol (rounded (quantity * price.getD 0)) filters.minNotional))
  else if quantity ≤ 0 then .error (.exchangeFilterError (.quantityFloorsToZero symbol))
  else .ok ()

def normalizeOrderIntent (intent : OrderIntent) (filters : SymbolFilters) : Except PyError OrderIntent := do
  let quantity ← floorToStep intent.quantity filters.stepSize
  let price ← roundOptionalPrice intent.price filters.tickSize
  validateNormalized intent.symbol quantity price filters
  return { intent with quantity, price }

end Source

variable {intent normalized : OrderIntent} {filters : SymbolFilters}

section Lemmas

variable [DecimalContext]

-- What flooring comes to on a grid of positive steps.
def floored (value step : ℚ) : ℚ := rounded (truncate (rounded (value / step)) * step)

@[simp] theorem floorToStep_of_pos {step : ℚ} (value : ℚ) (h : 0 < step) :
    floorToStep value step = .ok (floored value step) :=
  if_neg (not_le.mpr h)

theorem floorToStep_eq_ok {value step result : ℚ} :
    floorToStep value step = .ok result ↔ 0 < step ∧ result = floored value step := by
  unfold floorToStep
  split
  · rename_i h
    exact iff_of_false (by simp) fun hresult => absurd hresult.1 (not_lt.mpr h)
  · rename_i h
    simp [not_le.mp h, eq_comm, floored]

section Floored

variable {value other step : ℚ} (hstep : 0 < step)

include hstep

theorem floored_mono (h : value ≤ other) : floored value step ≤ floored other step := by
  apply rounded_mono
  apply mul_le_mul_of_nonneg_right _ hstep.le
  exact_mod_cast truncate_mono (rounded_mono (div_le_div_of_nonneg_right h hstep.le))

theorem floored_nonneg (h : 0 ≤ value) : 0 ≤ floored value step := by
  apply rounded_nonneg (mul_nonneg _ hstep.le)
  exact_mod_cast truncate_nonneg_of_nonneg (rounded_nonneg (div_nonneg h hstep.le))

theorem floored_nonpos (h : value ≤ 0) : floored value step ≤ 0 := by
  apply rounded_nonpos (mul_nonpos_of_nonpos_of_nonneg _ hstep.le)
  exact_mod_cast truncate_nonpos_of_nonpos (rounded_nonpos (div_nonpos_of_nonpos_of_nonneg h hstep.le))

-- A positive result comes from a positive value.
theorem pos_of_floored_pos (h : 0 < floored value step) : 0 < value :=
  not_le.mp fun hvalue => absurd h (not_lt.mpr (floored_nonpos hstep hvalue))

end Floored

-- What flooring can come to on the way up: whole steps, rounded, as many as the rounded
-- quotient holds and no more.
def Reaches (value step y : ℚ) : Prop := ∃ units : ℤ, units ≤ rounded (value / step) ∧ y = rounded (units * step)

theorem le_floored_of_reaches {value step y : ℚ} (hstep : 0 < step) (h : Reaches value step y) :
    y ≤ floored value step := by
  obtain ⟨units, hunits, rfl⟩ := h
  have htruncate : units ≤ truncate (rounded (value / step)) := by
    simpa [truncate_intCast] using truncate_mono hunits
  apply rounded_mono
  exact mul_le_mul_of_nonneg_right (by exact_mod_cast htruncate) hstep.le

theorem reaches_floored {value step : ℚ} (hstep : 0 < step) (hvalue : 0 ≤ value) :
    Reaches value step (floored value step) := by
  refine ⟨truncate (rounded (value / step)), ?_, rfl⟩
  rw [truncate_of_nonneg (rounded_nonneg (div_nonneg hvalue hstep.le))]
  exact Int.floor_le _

-- Of all these, flooring takes the greatest.
theorem isGreatest_floored {value step : ℚ} (hstep : 0 < step) (hvalue : 0 ≤ value) :
    IsGreatest {y | Reaches value step y} (floored value step) :=
  ⟨reaches_floored hstep hvalue, fun _ h => le_floored_of_reaches hstep h⟩

theorem lt_floored_iff {value step bound : ℚ} (hstep : 0 < step) (hvalue : 0 ≤ value) :
    bound < floored value step ↔ ∃ y, Reaches value step y ∧ bound < y :=
  lt_isLUB_iff (isGreatest_floored hstep hvalue).isLUB

theorem le_floored_iff {value step bound : ℚ} (hstep : 0 < step) (hvalue : 0 ≤ value) :
    bound ≤ floored value step ↔ ∃ y, Reaches value step y ∧ bound ≤ y := by
  constructor
  · exact fun h => ⟨_, reaches_floored hstep hvalue, h⟩
  · rintro ⟨y, hy, hle⟩
    exact hle.trans (le_floored_of_reaches hstep hy)

theorem validateNormalized_eq_ok {symbol : String} {quantity : ℚ} {price : Option ℚ} :
    validateNormalized symbol quantity price filters = .ok () ↔
      (∀ p ∈ price, filters.minNotional ≤ rounded (quantity * p)) ∧ 0 < quantity := by
  unfold validateNormalized
  split_ifs with hn hq
  · simp only [false_iff, not_and_or]
    obtain ⟨p, hp, hlt⟩ := hn
    exact Or.inl fun h => absurd hlt (not_lt.mpr (h p hp))
  · simp [not_lt.mpr hq]
  · simp only [true_iff]
    exact ⟨fun p hp => not_lt.mp fun hlt => hn ⟨p, hp, hlt⟩, not_le.mp hq⟩

-- What normalisation returns, and when: the floored quantity and price, where the
-- quantity is positive and a priced order reaches the minimum notional.
theorem normalizeOrderIntent_eq_ok (htick : 0 < filters.tickSize) (hstep : 0 < filters.stepSize) :
    normalizeOrderIntent intent filters = .ok normalized ↔
      normalized = { intent with
        quantity := floored intent.quantity filters.stepSize
        price := intent.price.map (floored · filters.tickSize) } ∧
      0 < normalized.quantity ∧
      ∀ p ∈ normalized.price, filters.minNotional ≤ rounded (normalized.quantity * p) := by
  have hprice : roundOptionalPrice intent.price filters.tickSize =
      .ok (intent.price.map (floored · filters.tickSize)) := by
    cases h : intent.price <;> simp [roundOptionalPrice, roundPriceToTick, htick, Except.map]
  unfold normalizeOrderIntent
  rw [floorToStep_of_pos _ hstep, hprice, ok_bind, ok_bind, bind_eq_ok]
  constructor
  · rintro ⟨_, hv, hr⟩
    obtain ⟨hn, hq⟩ := validateNormalized_eq_ok.mp hv
    cases hr
    exact ⟨rfl, hq, hn⟩
  · rintro ⟨rfl, hq, hn⟩
    exact ⟨(), validateNormalized_eq_ok.mpr ⟨hn, hq⟩, rfl⟩

-- Normalisation changes the quantity and the price only.
theorem normalizeOrderIntent_keeps (h : normalizeOrderIntent intent filters = .ok normalized) :
    normalized = { intent with quantity := normalized.quantity, price := normalized.price } := by
  obtain ⟨quantity, _, h⟩ := bind_eq_ok.mp h
  obtain ⟨price, _, h⟩ := bind_eq_ok.mp h
  obtain ⟨_, _, h⟩ := bind_eq_ok.mp h
  cases h
  rfl

theorem normalizeOrderIntent_price (h : normalizeOrderIntent intent filters = .ok normalized) {price : ℚ}
    (hprice : intent.price = some price) :
    0 < filters.tickSize ∧ normalized.price = some (floored price filters.tickSize) := by
  obtain ⟨quantity, _, h⟩ := bind_eq_ok.mp h
  obtain ⟨priced, hpriced, h⟩ := bind_eq_ok.mp h
  obtain ⟨_, _, h⟩ := bind_eq_ok.mp h
  rw [hprice] at hpriced
  obtain ⟨result, hresult, rfl⟩ := map_eq_ok.mp hpriced
  obtain ⟨htick, rfl⟩ := floorToStep_eq_ok.mp hresult
  cases h
  exact ⟨htick, rfl⟩

theorem floorToStep_error {value step : ℚ} {exc : PyError} (h : floorToStep value step = .error exc) :
    exc.IsExchangeFilterError := by
  unfold floorToStep at h
  split at h
  · cases h
    trivial
  · cases h

theorem validateNormalized_error {symbol : String} {quantity : ℚ} {price : Option ℚ} {exc : PyError}
    (h : validateNormalized symbol quantity price filters = .error exc) :
    exc.IsExchangeFilterError := by
  unfold validateNormalized at h
  split at h
  · cases h
    trivial
  · split at h
    · cases h
      trivial
    · cases h

theorem roundOptionalPrice_error {price : Option ℚ} {tickSize : ℚ} {exc : PyError}
    (h : roundOptionalPrice price tickSize = .error exc) : exc.IsExchangeFilterError := by
  cases price with
  | none => cases h
  | some price => exact floorToStep_error (map_eq_error.mp h)

-- Whatever the filters, normalisation raises filter errors only.
theorem normalizeOrderIntent_error {exc : PyError}
    (h : normalizeOrderIntent intent filters = .error exc) : exc.IsExchangeFilterError := by
  rcases bind_eq_error.mp h with hq | ⟨_, _, h⟩
  · exact floorToStep_error hq
  rcases bind_eq_error.mp h with hp | ⟨_, _, h⟩
  · exact roundOptionalPrice_error hp
  rcases bind_eq_error.mp h with hv | ⟨_, _, h⟩
  · exact validateNormalized_error hv
  · cases h

end Lemmas

namespace ExactDecimals

@[simp] theorem floored_eq (value step : ℚ) : floored value step = truncateTo value step := rfl

-- The multiples of the step that are not above the value.
theorem reaches_iff {value step y : ℚ} (hstep : 0 < step) :
    Reaches value step y ↔ OnGrid y step ∧ y ≤ value := by
  constructor
  · rintro ⟨units, hunits, rfl⟩
    exact ⟨⟨units, rfl⟩, (le_div_iff₀ hstep).mp hunits⟩
  · rintro ⟨⟨units, rfl⟩, hle⟩
    exact ⟨units, (le_div_iff₀ hstep).mpr hle, rfl⟩

end ExactDecimals

end DualSleeve
