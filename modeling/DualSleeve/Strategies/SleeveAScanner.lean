import DualSleeve.Strategies.SleeveB.Average

namespace DualSleeve

open Library Library.Raise
open scoped ExactDecimals

structure CapacitySnapshot where
  openInterestUsd : ℚ
  volume24hUsd : ℚ
  entryBidDepthUsd : ℚ
  exitAskDepthUsd : ℚ
  deriving DecidableEq

def capacityCheck (notional : ℚ) (snapshot : CapacitySnapshot) (maxOiShare : ℚ := 5 / 1000)
    (maxVolumeShare : ℚ := 2 / 1000) (maxDepthShare : ℚ := 1 / 2) : Bool :=
  if notional > maxOiShare * snapshot.openInterestUsd then false
  else if notional > maxVolumeShare * snapshot.volume24hUsd then false
  else if notional > maxDepthShare * snapshot.entryBidDepthUsd then false
  else if notional > maxDepthShare * snapshot.exitAskDepthUsd then false
  else true

structure SleeveAScanResult where
  symbol : String
  passed : Bool
  reason : String
  deriving DecidableEq

def oiFromPeakUsd (oiUsd4h : List ℚ) (lookbackBars : ℤ := 180) : Except PyError (Option ℚ) :=
  if (oiUsd4h.length : ℤ) < min 72 lookbackBars then
    .ok none
  else do
    let peak ← maximumOf (Sequence.onward oiUsd4h (-lookbackBars))
    if peak ≤ 0 then
      return none
    else
      let last ← itemAt oiUsd4h (-1)
      let share ← divide last peak
      return some (share - 1)

-- What `price_falling` makes of the closes and the lows it reads.
def falling (ret4h ret24h : ℚ) (close1 close2 close3 low1 low2 low3 : ℚ) : Bool :=
  ret24h ≤ -8 / 100 || (ret4h ≤ -3 / 100 && (low1 < low2 && low2 < low3) && (close1 < close2 && close2 < close3))

def priceFalling (close4h low4h : List ℚ) : Except PyError Bool :=
  if close4h.length < 7 ∨ low4h.length < 3 then
    .ok false
  else do
    let close1 ← itemAt close4h (-1)
    let close2 ← itemAt close4h (-2)
    let ratio4h ← divide close1 close2
    let close7 ← itemAt close4h (-7)
    let ratio24h ← divide close1 close7
    let low1 ← itemAt low4h (-1)
    let low2 ← itemAt low4h (-2)
    let low3 ← itemAt low4h (-3)
    let close3 ← itemAt close4h (-3)
    return falling (ratio4h - 1) (ratio24h - 1) close1 close2 close3 low1 low2 low3

def applyListingAgeGate (listingAgeDays : ℤ) (hasMinimum4hBars borrowConfidenceLow : Bool) :
    Option SleeveAScanResult :=
  if listingAgeDays < 7 then
    some ⟨"", false, "NEW_LISTING_LT_7D_NO_TRADE"⟩
  else if 7 ≤ listingAgeDays ∧ listingAgeDays < 30 then
    if !hasMinimum4hBars then
      some ⟨"", false, "NEW_LISTING_INSUFFICIENT_4H_BARS"⟩
    else if borrowConfidenceLow then
      some ⟨"", false, "NEW_LISTING_LOW_BORROW_CONFIDENCE"⟩
    else
      none
  else
    none

def scanCapacity (symbol : String) (notional : ℚ) (snapshot : CapacitySnapshot) : SleeveAScanResult :=
  if !capacityCheck notional snapshot then
    ⟨symbol, false, "CAPACITY_CHECK_FAILED"⟩
  else
    ⟨symbol, true, "CAPACITY_OK"⟩

theorem capacityCheck_iff (notional : ℚ) (snapshot : CapacitySnapshot) (maxOiShare maxVolumeShare maxDepthShare : ℚ) :
    capacityCheck notional snapshot maxOiShare maxVolumeShare maxDepthShare = true ↔
      notional ≤ maxOiShare * snapshot.openInterestUsd ∧ notional ≤ maxVolumeShare * snapshot.volume24hUsd ∧
        notional ≤ maxDepthShare * snapshot.entryBidDepthUsd ∧ notional ≤ maxDepthShare * snapshot.exitAskDepthUsd := by
  unfold capacityCheck
  split_ifs <;> simp_all

-- Less of a symbol passes wherever more of it does.
theorem scanCapacity_passed_mono (symbol : String) {notional smaller : ℚ} (h : smaller ≤ notional)
    (snapshot : CapacitySnapshot) (hpassed : (scanCapacity symbol notional snapshot).passed = true) :
    (scanCapacity symbol smaller snapshot).passed = true := by
  have hpasses : ∀ amount, (scanCapacity symbol amount snapshot).passed = capacityCheck amount snapshot := by
    intro amount
    unfold scanCapacity
    cases capacityCheck amount snapshot <;> rfl
  rw [hpasses, capacityCheck_iff] at hpassed ⊢
  exact ⟨h.trans hpassed.1, h.trans hpassed.2.1, h.trans hpassed.2.2.1, h.trans hpassed.2.2.2⟩

-- A listing passes from its thirtieth day on, and from its seventh with enough bars and
-- enough confidence in the borrow.
theorem applyListingAgeGate_eq_none_iff (listingAgeDays : ℤ) (hasMinimum4hBars borrowConfidenceLow : Bool) :
    applyListingAgeGate listingAgeDays hasMinimum4hBars borrowConfidenceLow = none ↔
      30 ≤ listingAgeDays ∨ 7 ≤ listingAgeDays ∧ hasMinimum4hBars = true ∧ borrowConfidenceLow = false := by
  unfold applyListingAgeGate
  by_cases hnew : listingAgeDays < 7
  · rw [if_pos hnew]
    simp
    omega
  rw [if_neg hnew]
  by_cases hyoung : 7 ≤ listingAgeDays ∧ listingAgeDays < 30
  · rw [if_pos hyoung]
    cases hasMinimum4hBars <;> cases borrowConfidenceLow <;> simp <;> omega
  · rw [if_neg hyoung]
    exact iff_of_true rfl (.inl (by omega))

theorem itemAt_append_right {α : Type} (earlier values : List α) {index : ℤ} (hindex : index < 0)
    (hlength : -index ≤ values.length) : itemAt (earlier ++ values) index = itemAt values index := by
  have hplace : Sequence.place (earlier ++ values).length index =
      earlier.length + Sequence.place values.length index := by
    rw [Sequence.place, Sequence.place, if_pos hindex, if_pos hindex, List.length_append]
    omega
  have hnonneg : 0 ≤ Sequence.place values.length index := by
    rw [Sequence.place, if_pos hindex]
    omega
  unfold itemAt Sequence.item?
  rw [hplace, if_neg (by omega), if_neg (by omega), List.getElem?_append_right (by omega)]
  congr 2
  omega

theorem divide_mul_mul {c : ℚ} (hc : c ≠ 0) (x y : ℚ) : divide (c * x) (c * y) = divide x y := by
  unfold divide
  by_cases hy : y = 0
  · by_cases hx : x = 0
    · simp [hx, hy]
    · simp [hx, hy, hc]
  · rw [if_pos hy, if_pos (mul_ne_zero hc hy), mul_div_mul_left _ _ hc]

theorem exists_itemAt {α : Type} (values : List α) {index : ℤ} (hindex : index < 0) (hlength : -index ≤ values.length) :
    ∃ value, itemAt values index = .ok value := by
  have hplace : Sequence.place values.length index = values.length + index := if_pos hindex
  have hbound : (Sequence.place values.length index).toNat < values.length := by omega
  refine ⟨values[(Sequence.place values.length index).toNat], ?_⟩
  rw [itemAt_eq_ok, Sequence.item?, if_neg (by omega), List.getElem?_eq_getElem hbound]

-- The last item is the only one that changes with it.
theorem itemAt_concat {α : Type} (before : List α) (last other : α) {index : ℤ} (hindex : index < -1) :
    itemAt (before ++ [last]) index = itemAt (before ++ [other]) index := by
  have hplace : ∀ item : α, Sequence.place (before ++ [item]).length index = before.length + 1 + index := by
    intro item
    rw [Sequence.place, if_pos (by omega), List.length_append, List.length_singleton]
    omega
  unfold itemAt Sequence.item?
  rw [hplace, hplace]
  by_cases hbefore : (before.length : ℤ) + 1 + index < 0
  · rw [if_pos hbefore, if_pos hbefore]
  · rw [if_neg hbefore, if_neg hbefore, List.getElem?_append_left (by omega), List.getElem?_append_left (by omega)]

theorem mem_of_itemAt_concat {α : Type} {before : List α} {last value : α} {index : ℤ} (hindex : index < -1)
    (h : itemAt (before ++ [last]) index = .ok value) : value ∈ before := by
  have hplace : Sequence.place (before ++ [last]).length index = before.length + 1 + index := by
    rw [Sequence.place, if_pos (by omega), List.length_append, List.length_singleton]
    omega
  rw [itemAt_eq_ok, Sequence.item?, hplace] at h
  split at h
  · cases h
  · rw [List.getElem?_append_left (by omega)] at h
    exact List.mem_of_getElem? h

-- The closes and lows that `price_falling` reads.
structure FallReadings (close4h low4h : List ℚ) (close1 close2 close3 close7 low1 low2 low3 : ℚ) : Prop where
  closes : 7 ≤ close4h.length
  lows : 3 ≤ low4h.length
  close1 : itemAt close4h (-1) = .ok close1
  close2 : itemAt close4h (-2) = .ok close2
  close3 : itemAt close4h (-3) = .ok close3
  close7 : itemAt close4h (-7) = .ok close7
  low1 : itemAt low4h (-1) = .ok low1
  low2 : itemAt low4h (-2) = .ok low2
  low3 : itemAt low4h (-3) = .ok low3

variable {close4h low4h : List ℚ} {close1 close2 close3 close7 low1 low2 low3 : ℚ}

theorem exists_fallReadings (hcloses : 7 ≤ close4h.length) (hlows : 3 ≤ low4h.length) :
    ∃ close1 close2 close3 close7 low1 low2 low3,
      FallReadings close4h low4h close1 close2 close3 close7 low1 low2 low3 := by
  obtain ⟨close1, h1⟩ := exists_itemAt close4h (by omega : (-1 : ℤ) < 0) (by omega)
  obtain ⟨close2, h2⟩ := exists_itemAt close4h (by omega : (-2 : ℤ) < 0) (by omega)
  obtain ⟨close3, h3⟩ := exists_itemAt close4h (by omega : (-3 : ℤ) < 0) (by omega)
  obtain ⟨close7, h7⟩ := exists_itemAt close4h (by omega : (-7 : ℤ) < 0) (by omega)
  obtain ⟨low1, hlow1⟩ := exists_itemAt low4h (by omega : (-1 : ℤ) < 0) (by omega)
  obtain ⟨low2, hlow2⟩ := exists_itemAt low4h (by omega : (-2 : ℤ) < 0) (by omega)
  obtain ⟨low3, hlow3⟩ := exists_itemAt low4h (by omega : (-3 : ℤ) < 0) (by omega)
  exact ⟨close1, close2, close3, close7, low1, low2, low3, ⟨hcloses, hlows, h1, h2, h3, h7, hlow1, hlow2, hlow3⟩⟩

theorem FallReadings.priceFalling_eq (h : FallReadings close4h low4h close1 close2 close3 close7 low1 low2 low3) :
    priceFalling close4h low4h = do
      let ratio4h ← divide close1 close2
      let ratio24h ← divide close1 close7
      return falling (ratio4h - 1) (ratio24h - 1) close1 close2 close3 low1 low2 low3 := by
  have hcloses := h.closes
  have hlows := h.lows
  unfold priceFalling
  rw [if_neg (by omega), h.close1, h.close2, h.close3, h.close7, h.low1, h.low2, h.low3]
  rfl

theorem FallReadings.append (earlier earlierLows : List ℚ)
    (h : FallReadings close4h low4h close1 close2 close3 close7 low1 low2 low3) :
    FallReadings (earlier ++ close4h) (earlierLows ++ low4h) close1 close2 close3 close7 low1 low2 low3 := by
  have hcloses := h.closes
  have hlows := h.lows
  have hclose : ∀ index : ℤ, index < 0 → -7 ≤ index → itemAt (earlier ++ close4h) index = itemAt close4h index :=
    fun index hindex hbound => itemAt_append_right earlier close4h hindex (by omega)
  have hlow : ∀ index : ℤ, index < 0 → -3 ≤ index → itemAt (earlierLows ++ low4h) index = itemAt low4h index :=
    fun index hindex hbound => itemAt_append_right earlierLows low4h hindex (by omega)
  refine ⟨?_, ?_, ?_, ?_, ?_, ?_, ?_, ?_, ?_⟩
  · rw [List.length_append]
    omega
  · rw [List.length_append]
    omega
  · exact (hclose _ (by omega) (by omega)).trans h.close1
  · exact (hclose _ (by omega) (by omega)).trans h.close2
  · exact (hclose _ (by omega) (by omega)).trans h.close3
  · exact (hclose _ (by omega) (by omega)).trans h.close7
  · exact (hlow _ (by omega) (by omega)).trans h.low1
  · exact (hlow _ (by omega) (by omega)).trans h.low2
  · exact (hlow _ (by omega) (by omega)).trans h.low3

theorem FallReadings.scale (c d : ℚ) (h : FallReadings close4h low4h close1 close2 close3 close7 low1 low2 low3) :
    FallReadings (close4h.map (c * ·)) (low4h.map (d * ·)) (c * close1) (c * close2) (c * close3) (c * close7)
      (d * low1) (d * low2) (d * low3) where
  closes := h.closes.trans_eq (List.length_map _).symm
  lows := h.lows.trans_eq (List.length_map _).symm
  close1 := by rw [itemAt_map, h.close1]; rfl
  close2 := by rw [itemAt_map, h.close2]; rfl
  close3 := by rw [itemAt_map, h.close3]; rfl
  close7 := by rw [itemAt_map, h.close7]; rfl
  low1 := by rw [itemAt_map, h.low1]; rfl
  low2 := by rw [itemAt_map, h.low2]; rfl
  low3 := by rw [itemAt_map, h.low3]; rfl

theorem FallReadings.replaced {before beforeLows : List ℚ} {last lastLow : ℚ}
    (h : FallReadings (before ++ [last]) (beforeLows ++ [lastLow]) close1 close2 close3 close7 low1 low2 low3)
    (other otherLow : ℚ) :
    FallReadings (before ++ [other]) (beforeLows ++ [otherLow]) other close2 close3 close7 otherLow low2 low3 where
  closes := by simpa using h.closes
  lows := by simpa using h.lows
  close1 := itemAt_last List.getLast?_concat
  close2 := (itemAt_concat before other last (by omega)).trans h.close2
  close3 := (itemAt_concat before other last (by omega)).trans h.close3
  close7 := (itemAt_concat before other last (by omega)).trans h.close7
  low1 := itemAt_last List.getLast?_concat
  low2 := (itemAt_concat beforeLows otherLow lastLow (by omega)).trans h.low2
  low3 := (itemAt_concat beforeLows otherLow lastLow (by omega)).trans h.low3

theorem falling_scale {c d : ℚ} (hc : 0 < c) (hd : 0 < d) (ret4h ret24h close1 close2 close3 low1 low2 low3 : ℚ) :
    falling ret4h ret24h (c * close1) (c * close2) (c * close3) (d * low1) (d * low2) (d * low3) =
      falling ret4h ret24h close1 close2 close3 low1 low2 low3 := by
  unfold falling
  simp only [mul_lt_mul_iff_right₀ hc, mul_lt_mul_iff_right₀ hd]

theorem falling_antitone {ret4h ret4h' ret24h ret24h' close1' low1' : ℚ} (h4h : ret4h' ≤ ret4h)
    (h24h : ret24h' ≤ ret24h) (hclose : close1' ≤ close1) (hlow : low1' ≤ low1)
    (h : falling ret4h ret24h close1 close2 close3 low1 low2 low3 = true) :
    falling ret4h' ret24h' close1' close2 close3 low1' low2 low3 = true := by
  unfold falling at h ⊢
  simp only [Bool.or_eq_true, Bool.and_eq_true, decide_eq_true_eq] at h ⊢
  rcases h with hday | ⟨⟨hret, hlows, hlows'⟩, hcloses, hcloses'⟩
  · exact .inl (h24h.trans hday)
  · exact .inr ⟨⟨h4h.trans hret, hlow.trans_lt hlows, hlows'⟩, hclose.trans_lt hcloses, hcloses'⟩

-- A falling price is read off the last seven closes and three lows alone, in any unit, and
-- with the last close and the last low still lower it keeps falling.
theorem priceFalling_readings (close4h low4h : List ℚ) :
    (7 ≤ close4h.length → 3 ≤ low4h.length → ∀ earlier earlierLows : List ℚ,
      priceFalling (earlier ++ close4h) (earlierLows ++ low4h) = priceFalling close4h low4h) ∧
    (∀ c d : ℚ, 0 < c → 0 < d →
      priceFalling (close4h.map (c * ·)) (low4h.map (d * ·)) = priceFalling close4h low4h) ∧
    ∀ before beforeLows last lastLow, close4h = before ++ [last] → low4h = beforeLows ++ [lastLow] →
      (∀ close ∈ before, 0 < close) → priceFalling close4h low4h = .ok true →
        ∀ lower lowerLow : ℚ, lower ≤ last → lowerLow ≤ lastLow →
          priceFalling (before ++ [lower]) (beforeLows ++ [lowerLow]) = .ok true := by
  refine ⟨?_, ?_, ?_⟩
  · intro hcloses hlows earlier earlierLows
    obtain ⟨close1, close2, close3, close7, low1, low2, low3, h⟩ := exists_fallReadings hcloses hlows
    rw [(h.append earlier earlierLows).priceFalling_eq, h.priceFalling_eq]
  · intro c d hc hd
    by_cases hshort : close4h.length < 7 ∨ low4h.length < 3
    · unfold priceFalling
      rw [List.length_map, List.length_map, if_pos hshort, if_pos hshort]
    · obtain ⟨close1, close2, close3, close7, low1, low2, low3, h⟩ :=
        exists_fallReadings (by omega : 7 ≤ close4h.length) (by omega : 3 ≤ low4h.length)
      rw [(h.scale c d).priceFalling_eq, h.priceFalling_eq, divide_mul_mul hc.ne', divide_mul_mul hc.ne']
      simp only [falling_scale hc hd]
  · rintro before beforeLows last lastLow rfl rfl hpos hfalls lower lowerLow hlower hlowerLow
    by_cases hshort : (before ++ [last]).length < 7 ∨ (beforeLows ++ [lastLow]).length < 3
    · rw [priceFalling, if_pos hshort] at hfalls
      cases hfalls
    obtain ⟨close1, close2, close3, close7, low1, low2, low3, h⟩ := exists_fallReadings
      (by omega : 7 ≤ (before ++ [last]).length) (by omega : 3 ≤ (beforeLows ++ [lastLow]).length)
    have hown := h.replaced last lastLow
    have h2 := hpos _ (mem_of_itemAt_concat (by omega) h.close2)
    have h7 := hpos _ (mem_of_itemAt_concat (by omega) h.close7)
    rw [hown.priceFalling_eq, divide_of_ne_zero _ h2.ne', divide_of_ne_zero _ h7.ne', ok_bind, ok_bind] at hfalls
    rw [(h.replaced lower lowerLow).priceFalling_eq, divide_of_ne_zero _ h2.ne', divide_of_ne_zero _ h7.ne', ok_bind,
      ok_bind]
    refine congrArg Except.ok (falling_antitone ?_ ?_ hlower hlowerLow (Except.ok.inj hfalls))
    · exact sub_le_sub_right (div_le_div_of_nonneg_right hlower h2.le) 1
    · exact sub_le_sub_right (div_le_div_of_nonneg_right hlower h7.le) 1

-- A fall of nine percent, with older bars in front of it, and a deeper one.
theorem priceFalling_readings_sample :
    priceFalling ([7, 7] ++ [100, 99, 98, 97, 96, 95, 91]) ([1] ++ [9, 8, 7]) = .ok true ∧
      priceFalling ([100, 99, 98, 97, 96, 95] ++ [80]) ([9, 8] ++ [6]) = .ok true := by
  obtain ⟨holder, -, hlower⟩ := priceFalling_readings [100, 99, 98, 97, 96, 95, 91] [9, 8, 7]
  have hfalls : priceFalling [100, 99, 98, 97, 96, 95, 91] [9, 8, 7] = .ok true := by decide +kernel
  refine ⟨(holder (by simp) (by simp) [7, 7] [1]).trans hfalls, ?_⟩
  exact hlower _ _ 91 7 rfl rfl (by simp) hfalls 80 6 (by norm_num) (by norm_num)

-- The bars that `oi_from_peak_usd` compares.
theorem onward_append_right {α : Type} (earlier : List α) {values : List α} {lookbackBars : ℤ}
    (hlookback : 1 ≤ lookbackBars) (hlength : lookbackBars ≤ values.length) :
    Sequence.onward (earlier ++ values) (-lookbackBars) = Sequence.onward values (-lookbackBars) := by
  have hplace : (Sequence.place (earlier ++ values).length (-lookbackBars)).toNat =
      earlier.length + (Sequence.place values.length (-lookbackBars)).toNat := by
    rw [Sequence.place, Sequence.place, if_pos (by omega), if_pos (by omega), List.length_append]
    omega
  rw [Sequence.onward, Sequence.onward, hplace, List.drop_length_add_append]

theorem maximumOf_scale {c : ℚ} (hc : 0 < c) (values : List ℚ) :
    maximumOf (values.map (c * ·)) = (maximumOf values).map (c * ·) := by
  cases values with
  | nil => rfl
  | cons first rest =>
    refine congrArg Except.ok ?_
    induction rest generalizing first with
    | nil => rfl
    | cons next rest ih =>
      rw [List.map_cons, List.foldl_cons, List.foldl_cons, ← mul_max_of_nonneg _ _ hc.le]
      exact ih (max first next)

-- The window of a long enough series: never empty, and with the last value in it.
theorem last_mem_onward {values : List ℚ} {lookbackBars : ℤ} (hlookback : 1 ≤ lookbackBars) {last : ℚ}
    (hlast : values.getLast? = some last) : last ∈ Sequence.onward values (-lookbackBars) := by
  obtain ⟨before, rfl⟩ := List.getLast?_eq_some_iff.mp hlast
  have hplace : (Sequence.place (before ++ [last]).length (-lookbackBars)).toNat ≤ before.length := by
    rw [Sequence.place, if_pos (by omega), List.length_append, List.length_singleton]
    omega
  rw [Sequence.onward, List.drop_append_of_le_length hplace]
  exact List.mem_append_right _ (List.mem_singleton_self last)

theorem oiFromPeakUsd_append (earlier : List ℚ) {oiUsd4h : List ℚ} {lookbackBars : ℤ}
    (hlookback : 1 ≤ lookbackBars) (hlength : lookbackBars ≤ oiUsd4h.length) :
    oiFromPeakUsd (earlier ++ oiUsd4h) lookbackBars = oiFromPeakUsd oiUsd4h lookbackBars := by
  have hne : oiUsd4h ≠ [] := by
    rintro rfl
    simp at hlength
    omega
  unfold oiFromPeakUsd
  rw [if_neg (by rw [List.length_append]; omega), if_neg (by omega), onward_append_right earlier hlookback hlength,
    itemAt_append_right earlier oiUsd4h (by omega) (by omega)]

theorem oiFromPeakUsd_scale (oiUsd4h : List ℚ) (lookbackBars : ℤ) {c : ℚ} (hc : 0 < c) :
    oiFromPeakUsd (oiUsd4h.map (c * ·)) lookbackBars = oiFromPeakUsd oiUsd4h lookbackBars := by
  unfold oiFromPeakUsd
  rw [List.length_map, Sequence.onward_map, maximumOf_scale hc, itemAt_map]
  by_cases hshort : (oiUsd4h.length : ℤ) < min 72 lookbackBars
  · rw [if_pos hshort, if_pos hshort]
  rw [if_neg hshort, if_neg hshort]
  cases maximumOf (Sequence.onward oiUsd4h (-lookbackBars)) with
  | error exc => rfl
  | ok peak =>
    rw [Except.map, ok_bind, ok_bind]
    by_cases hpeak : peak ≤ 0
    · rw [if_pos hpeak, if_pos (mul_nonpos_of_nonneg_of_nonpos hc.le hpeak)]
    · rw [if_neg hpeak, if_neg (not_le.mpr (mul_pos hc (not_le.mp hpeak)))]
      cases itemAt oiUsd4h (-1) with
      | error exc => rfl
      | ok last => rw [Except.map, ok_bind, ok_bind, divide_mul_mul hc.ne']

-- A fall is how far the last value is below the largest of the window.
theorem oiFromPeakUsd_ok (oiUsd4h : List ℚ) {lookbackBars : ℤ} (hlookback : 1 ≤ lookbackBars) :
    ∃ result, oiFromPeakUsd oiUsd4h lookbackBars = .ok result ∧ ∀ fall ∈ result, fall ≤ 0 ∧
      ∃ last peak, oiUsd4h.getLast? = some last ∧ last = (1 + fall) * peak ∧ 0 < peak ∧
        IsGreatest {value | value ∈ Sequence.onward oiUsd4h (-lookbackBars)} peak := by
  unfold oiFromPeakUsd
  by_cases hshort : (oiUsd4h.length : ℤ) < min 72 lookbackBars
  · exact ⟨none, if_pos hshort, nofun⟩
  rw [if_neg hshort]
  cases hlast : oiUsd4h.getLast? with
  | none =>
    rw [List.getLast?_eq_none_iff] at hlast
    subst hlast
    simp at hshort
    omega
  | some last =>
    have hmem := last_mem_onward hlookback hlast
    obtain ⟨peak, hpeak, hgreatest⟩ := isGreatest_maximumOf (List.ne_nil_of_mem hmem)
    rw [hpeak, ok_bind]
    by_cases hnone : peak ≤ 0
    · exact ⟨none, if_pos hnone, nofun⟩
    have hpos := not_le.mp hnone
    rw [if_neg hnone, itemAt_last hlast, ok_bind, divide_of_ne_zero _ hpos.ne', ok_bind]
    refine ⟨some (last / peak - 1), rfl, ?_⟩
    rintro fall hfall
    obtain rfl := Option.some.inj hfall
    refine ⟨sub_nonpos.mpr ((div_le_one hpos).mpr (hgreatest.2 hmem)), last, peak, rfl, ?_, hpos, hgreatest⟩
    rw [add_sub_cancel, div_mul_cancel₀ _ hpos.ne']

-- The open interest against its peak is read off the window alone, in any unit; it never
-- raises, and it says how far the last value is below the peak.
theorem oiFromPeakUsd_readings (oiUsd4h : List ℚ) {lookbackBars : ℤ} (hlookback : 1 ≤ lookbackBars) :
    (lookbackBars ≤ oiUsd4h.length → ∀ earlier : List ℚ,
      oiFromPeakUsd (earlier ++ oiUsd4h) lookbackBars = oiFromPeakUsd oiUsd4h lookbackBars) ∧
    (∀ c : ℚ, 0 < c → oiFromPeakUsd (oiUsd4h.map (c * ·)) lookbackBars = oiFromPeakUsd oiUsd4h lookbackBars) ∧
    ∃ result, oiFromPeakUsd oiUsd4h lookbackBars = .ok result ∧ ∀ fall ∈ result, fall ≤ 0 ∧
      ∃ last peak, oiUsd4h.getLast? = some last ∧ last = (1 + fall) * peak ∧ 0 < peak ∧
        IsGreatest {value | value ∈ Sequence.onward oiUsd4h (-lookbackBars)} peak := by
  refine ⟨?_, ?_, oiFromPeakUsd_ok oiUsd4h hlookback⟩
  · intro hlength earlier
    exact oiFromPeakUsd_append earlier hlookback hlength
  · intro c hc
    exact oiFromPeakUsd_scale oiUsd4h lookbackBars hc

theorem oiFromPeakUsd_readings_sample :
    oiFromPeakUsd ([500] ++ [100, 120, 90]) 3 = .ok (some (-1 / 4)) := by
  rw [(oiFromPeakUsd_readings [100, 120, 90] (by decide : (1 : ℤ) ≤ 3)).1 (by decide) [500]]
  decide +kernel

end DualSleeve
