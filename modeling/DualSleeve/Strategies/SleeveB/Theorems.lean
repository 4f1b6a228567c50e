import DualSleeve.Strategies.SleeveB

namespace DualSleeve

open Library Library.Raise

theorem itemAt_eq_ok {α : Type} {values : List α} {index : ℤ} {value : α} :
    itemAt values index = .ok value ↔ Sequence.item? values index = some value := by
  unfold itemAt
  cases Sequence.item? values index <;> simp

theorem itemAt_map {α β : Type} (f : α → β) (values : List α) (index : ℤ) :
    itemAt (values.map f) index = (itemAt values index).map f := by
  unfold itemAt
  rw [Sequence.item?_map]
  cases Sequence.item? values index <;> rfl

theorem itemAt_last {α : Type} {values : List α} {last : α} (h : values.getLast? = some last) :
    itemAt values (-1) = .ok last := by
  rw [itemAt_eq_ok, Sequence.item?_neg_one, h]

-- The indices from 0 on that are read without an error are those below the length.
theorem itemAt_ok {α : Type} (values : List α) (index : ℤ) (hlow : 0 ≤ index)
    (hhigh : index < values.length) : ∃ value, itemAt values index = .ok value := by
  have hbound : index.toNat < values.length := by omega
  exact ⟨values[index.toNat], by
    rw [itemAt_eq_ok, Sequence.item?_of_nonneg hlow, List.getElem?_eq_getElem hbound]⟩

theorem index_lt_of_item {α : Type} {values : List α} {index : ℤ} {value : α} (hlow : 0 ≤ index)
    (h : itemAt values index = .ok value) : index < values.length := by
  rw [itemAt_eq_ok, Sequence.item?_of_nonneg hlow] at h
  have hlt := (List.getElem?_eq_some_iff.mp h).1
  omega

theorem mem_of_item {α : Type} {values : List α} {index : ℤ} {value : α} (hlow : 0 ≤ index)
    (h : itemAt values index = .ok value) : value ∈ values := by
  rw [itemAt_eq_ok, Sequence.item?_of_nonneg hlow] at h
  exact List.mem_of_getElem? h

section Regime

variable [DecimalContext]

-- The weight `alpha` of `ema(values, period)`.
def emaAlpha (period : ℤ) : ℚ := rounded (2 / ((period : ℚ) + 1))

-- The last value of `ema(values, period)`, where there is one.
def emaFinal (period : ℤ) (values : List ℚ) : ℚ := Ema.finalBy (emaStep (emaAlpha period)) values

theorem ema_of_pos {period : ℤ} (values : List ℚ) (h : 0 < period) :
    ema values period = .ok (Ema.smoothBy (emaStep (emaAlpha period)) values) :=
  if_neg (by omega)

-- From 200 closes on, the regime compares the last close and the two averages.
theorem regimeFromDailyClose_of_length {closes : List ℚ} {last : ℚ} (hlength : 200 ≤ closes.length)
    (hlast : closes.getLast? = some last) :
    regimeFromDailyClose closes =
      .ok (.ofAverages last (emaFinal 50 closes) (emaFinal 200 closes)) := by
  have hne : closes ≠ [] := by
    intro h
    rw [h] at hlength
    simp at hlength
  rw [regimeFromDailyClose, if_neg (by omega), ema_of_pos closes (by norm_num),
    ema_of_pos closes (by norm_num), ok_bind, itemAt_last (Ema.getLast?_smoothBy _ hne), ok_bind, ok_bind,
    itemAt_last (Ema.getLast?_smoothBy _ hne), ok_bind, itemAt_last hlast, ok_bind]
  rfl

-- A level that the averages keep, and one close off it.
theorem regimeFromDailyClose_of_level {closes : List ℚ} {level : ℚ} (last : ℚ)
    (hlength : 199 ≤ closes.length) (hlevel : ∀ close ∈ closes, close = level)
    (h50 : emaStep (emaAlpha 50) level level = level) (h200 : emaStep (emaAlpha 200) level level = level) :
    regimeFromDailyClose (closes ++ [last]) =
      .ok (.ofAverages last (emaStep (emaAlpha 50) level last) (emaStep (emaAlpha 200) level last)) := by
  have hne : closes ≠ [] := List.ne_nil_of_length_pos (by omega)
  have haverage (period : ℤ) (hstep : emaStep (emaAlpha period) level level = level) :
      emaFinal period (closes ++ [last]) = emaStep (emaAlpha period) level last := by
    rw [emaFinal, Ema.finalBy_concat _ hne, Ema.finalBy_const _ hstep hne hlevel]
  rw [regimeFromDailyClose_of_length (by rw [List.length_append, List.length_singleton]; omega)
    List.getLast?_concat, haverage 50 h50, haverage 200 h200]

theorem regimeFromDailyClose_of_short {closes : List ℚ} (h : closes.length < 200) :
    regimeFromDailyClose closes = .ok .insufficientData :=
  if_pos h

theorem regimeFromDailyClose_ok (closes : List ℚ) :
    ∃ regime, regimeFromDailyClose closes = .ok regime := by
  by_cases hlength : closes.length < 200
  · exact ⟨_, regimeFromDailyClose_of_short hlength⟩
  · cases hlast : closes.getLast? with
    | none =>
      rw [List.getLast?_eq_none_iff] at hlast
      rw [hlast] at hlength
      simp at hlength
    | some last => exact ⟨_, regimeFromDailyClose_of_length (by omega) hlast⟩

end Regime

namespace ExactDecimals

theorem emaAlpha_eq (period : ℤ) : emaAlpha period = 2 / ((period : ℚ) + 1) := rfl

-- Without rounding, `ema` is exponential smoothing.
theorem emaFinal_eq (period : ℤ) (values : List ℚ) :
    emaFinal period values = Ema.final (emaAlpha period) values := rfl

theorem ema_of_pos {period : ℤ} (values : List ℚ) (h : 0 < period) :
    ema values period = .ok (Ema.smooth (emaAlpha period) values) :=
  DualSleeve.ema_of_pos values h

end ExactDecimals

theorem foldl_max_lt_iff {start bound : ℚ} {rest : List ℚ} :
    rest.foldl max start < bound ↔ ∀ value ∈ start :: rest, value < bound := by
  induction rest generalizing start with
  | nil => simp
  | cons next rest ih => simp [ih, and_assoc]

theorem lt_foldl_min_iff {start bound : ℚ} {rest : List ℚ} :
    bound < rest.foldl min start ↔ ∀ value ∈ start :: rest, bound < value := by
  induction rest generalizing start with
  | nil => simp
  | cons next rest ih => simp [ih, and_assoc]

theorem maximumOf_of_ne_nil {values : List ℚ} (h : values ≠ []) :
    ∃ ceiling, maximumOf values = .ok ceiling ∧
      ∀ bound, ceiling < bound ↔ ∀ value ∈ values, value < bound := by
  cases values with
  | nil => exact absurd rfl h
  | cons first rest => exact ⟨_, rfl, fun _ => foldl_max_lt_iff⟩

theorem minimumOf_of_ne_nil {values : List ℚ} (h : values ≠ []) :
    ∃ floor, minimumOf values = .ok floor ∧
      ∀ bound, bound < floor ↔ ∀ value ∈ values, bound < value := by
  cases values with
  | nil => exact absurd rfl h
  | cons first rest => exact ⟨_, rfl, fun _ => lt_foldl_min_iff⟩

-- The bars before the last one that a breakout has to leave, `[-lookback_bars - 1 : -1]`.
def channel {α : Type} (values : List α) (lookbackBars : ℤ) : List α :=
  Sequence.slice values (-lookbackBars - 1) (-1)

theorem channel_eq {α : Type} {values : List α} {lookbackBars : ℤ} (hlookback : 0 ≤ lookbackBars)
    (hlength : lookbackBars + 1 ≤ values.length) :
    channel values lookbackBars =
      values.dropLast.drop (values.length - 1 - lookbackBars.toNat) := by
  have h := Sequence.slice_before_last values lookbackBars.toNat (by omega)
  rw [Int.toNat_of_nonneg hlookback] at h
  exact h

theorem channel_ne_nil {α : Type} (values : List α) {lookbackBars : ℤ} (hlookback : 1 ≤ lookbackBars)
    (hlength : lookbackBars + 1 ≤ values.length) : channel values lookbackBars ≠ [] := by
  rw [channel_eq (by omega) hlength, ← List.length_pos_iff]
  rw [List.length_drop, List.length_dropLast]
  omega

-- With a full channel, a signal takes a side exactly when the last close has left the
-- channel in the direction of the regime.
theorem donchianSignal_ok (symbol : String) (regime : Regime) {close4h : List ℚ}
    (high4h low4h : List ℚ) {lookbackBars : ℤ} {last : ℚ} (hlookback : 1 ≤ lookbackBars)
    (hlength : lookbackBars + 1 ≤ close4h.length) (hhigh : high4h.length = close4h.length)
    (hlow : low4h.length = close4h.length) (hlast : close4h.getLast? = some last) :
    ∃ signal, donchianSignal symbol regime close4h high4h low4h lookbackBars = .ok signal ∧
      (signal.side = some .long ↔
        regime = .bull ∧ ∀ high ∈ channel high4h lookbackBars, high < last) ∧
      (signal.side = some .short ↔
        regime = .bear ∧ ∀ low ∈ channel low4h lookbackBars, last < low) := by
  unfold donchianSignal
  by_cases hregime : regime ≠ .bull ∧ regime ≠ .bear
  · rw [if_pos hregime]
    exact ⟨_, rfl, by simp [hregime.1], by simp [hregime.2]⟩
  rw [if_neg hregime, if_neg (by omega)]
  by_cases hbull : regime = .bull
  · obtain ⟨ceiling, hceiling, hbound⟩ :=
      maximumOf_of_ne_nil (channel_ne_nil high4h hlookback (by omega))
    rw [if_pos hbull, itemAt_last hlast, ok_bind, ← channel, hceiling, ok_bind, ← hbound last]
    by_cases hbreak : ceiling < last
    · rw [if_pos hbreak]
      exact ⟨_, rfl, by simp [hbull, hbreak], by simp [hbull]⟩
    · rw [if_neg hbreak]
      exact ⟨_, rfl, by simp [hbreak], by simp [hbull]⟩
  · obtain ⟨floor, hfloor, hbound⟩ :=
      minimumOf_of_ne_nil (channel_ne_nil low4h hlookback (by omega))
    have hbear : regime = .bear := by
      by_contra hbear
      exact hregime ⟨hbull, hbear⟩
    rw [if_neg hbull, itemAt_last hlast, ok_bind, ← channel, hfloor, ok_bind, ← hbound last]
    by_cases hbreak : last < floor
    · rw [if_pos hbreak]
      exact ⟨_, rfl, by simp [hbear], by simp [hbear, hbreak]⟩
    · rw [if_neg hbreak]
      exact ⟨_, rfl, by simp [hbear], by simp [hbreak]⟩

end DualSleeve
