import DualSleeve.Risk.BorrowStress
import Mathlib.Algebra.Order.Field.Basic
import Mathlib.Tactic.Linarith

namespace DualSleeve

section SqueezeRisk

variable {fundingDeep fundingMild : ℚ} {stressVeto stressHalfLo : ℤ} {funding8h : ℚ}
  {stress : BorrowStressResult}

-- The level by the three ranges of the funding: below `funding_deep`, from there to
-- `funding_mild`, and from there on.

theorem squeezeRiskLevel_deep (h : funding8h < fundingDeep) :
    squeezeRiskLevel funding8h stress fundingDeep fundingMild stressVeto stressHalfLo =
      if stressVeto ≤ stress.score then .extreme
      else if stressHalfLo ≤ stress.score then .high
      else if stress.confidence = .low then .high
      else .low := by
  have hdeep : ¬fundingDeep ≤ funding8h := not_le.mpr h
  unfold squeezeRiskLevel fundingLevel
  simp only [h, hdeep, true_and, false_and, ge_iff_le, if_false]
  by_cases hveto : stressVeto ≤ stress.score
  · simp [hveto]
  · by_cases hhalf : stressHalfLo ≤ stress.score
    · simp [hveto, hhalf]
    · by_cases hlow : stress.confidence = .low
      · simp [hveto, hhalf, hlow]
      · simp [hveto, hhalf, hlow]

theorem squeezeRiskLevel_mild (hdeep : fundingDeep ≤ funding8h) (hmild : funding8h < fundingMild) :
    squeezeRiskLevel funding8h stress fundingDeep fundingMild stressVeto stressHalfLo = .medium := by
  have h : ¬funding8h < fundingDeep := not_lt.mpr hdeep
  unfold squeezeRiskLevel fundingLevel
  simp [h, hdeep, hmild]

theorem squeezeRiskLevel_calm (hthresholds : fundingDeep ≤ fundingMild) (h : fundingMild ≤ funding8h) :
    squeezeRiskLevel funding8h stress fundingDeep fundingMild stressVeto stressHalfLo =
      if stress.confidence = .low then .medium else .low := by
  have hdeep : ¬funding8h < fundingDeep := not_lt.mpr (hthresholds.trans h)
  have hmild : ¬funding8h < fundingMild := not_lt.mpr h
  unfold squeezeRiskLevel fundingLevel
  simp [hdeep, hmild]

-- Without low confidence, a deep funding with little stress is rated LOW.
theorem squeezeRiskLevel_unstressed (h : funding8h < fundingDeep)
    (hthresholds : stressHalfLo ≤ stressVeto) (hscore : stress.score < stressHalfLo)
    (hconfidence : stress.confidence ≠ .low) :
    squeezeRiskLevel funding8h stress fundingDeep fundingMild stressVeto stressHalfLo = .low := by
  rw [squeezeRiskLevel_deep h, if_neg (by omega), if_neg (by omega), if_neg hconfidence]

-- In every other case a deep funding is rated at least HIGH.
theorem high_le_squeezeRiskLevel (h : funding8h < fundingDeep)
    (hstress : stressHalfLo ≤ stress.score ∨ stress.confidence = .low) :
    .high ≤ squeezeRiskLevel funding8h stress fundingDeep fundingMild stressVeto stressHalfLo := by
  rw [squeezeRiskLevel_deep h]
  split_ifs with hveto hhalf hlow
  · decide
  · decide
  · decide
  · cases hstress with
    | inl hs => exact absurd hs hhalf
    | inr hs => exact absurd hs hlow

-- Above `funding_deep` no rating is above MEDIUM.
theorem squeezeRiskLevel_le_medium (hthresholds : fundingDeep ≤ fundingMild) (h : fundingDeep ≤ funding8h) :
    squeezeRiskLevel funding8h stress fundingDeep fundingMild stressVeto stressHalfLo ≤ .medium := by
  by_cases hmild : funding8h < fundingMild
  · rw [squeezeRiskLevel_mild h hmild]
  · rw [squeezeRiskLevel_calm hthresholds (not_lt.mp hmild)]
    split_ifs
    · decide
    · decide

-- A worse score and a worse confidence do not lower the rating of a deep funding.
theorem squeezeRiskLevel_deep_mono {other : BorrowStressResult} {deeper : ℚ}
    (h : funding8h < fundingDeep) (hdeeper : deeper < fundingDeep) (hscore : stress.score ≤ other.score)
    (hconfidence : other.confidence ≤ stress.confidence) :
    squeezeRiskLevel funding8h stress fundingDeep fundingMild stressVeto stressHalfLo ≤
      squeezeRiskLevel deeper other fundingDeep fundingMild stressVeto stressHalfLo := by
  rw [squeezeRiskLevel_deep h, squeezeRiskLevel_deep hdeeper]
  by_cases hveto : stressVeto ≤ other.score
  · rw [if_pos hveto]
    exact SqueezeRisk.le_extreme _
  have hnoVeto : ¬stressVeto ≤ stress.score := by omega
  rw [if_neg hveto, if_neg hnoVeto]
  by_cases hhalf : stressHalfLo ≤ other.score
  · rw [if_pos hhalf]
    split_ifs
    · decide
    · decide
    · decide
  have hnoHalf : ¬stressHalfLo ≤ stress.score := by omega
  rw [if_neg hhalf, if_neg hnoHalf]
  by_cases hlow : stress.confidence = .low
  · rw [if_pos hlow, if_pos (BorrowConfidence.eq_low_of_le (hlow ▸ hconfidence))]
  · rw [if_neg hlow]
    split_ifs
    · decide
    · decide

-- More negative funding, a worse score and a worse confidence never lower the rating,
-- except that a mild funding turns into a deep one whose stress is below
-- `stress_half_lo` and whose confidence is not LOW.
theorem squeezeRiskLevel_monotone_iff (fundingDeep fundingMild : ℚ) (stressVeto stressHalfLo : ℤ)
    (hfunding : fundingDeep ≤ fundingMild) (hstress : stressHalfLo ≤ stressVeto)
    (funding8h deeper : ℚ) (stress other : BorrowStressResult) (hdeeper : deeper ≤ funding8h)
    (hscore : stress.score ≤ other.score) (hconfidence : other.confidence ≤ stress.confidence) :
    squeezeRiskLevel funding8h stress fundingDeep fundingMild stressVeto stressHalfLo ≤
        squeezeRiskLevel deeper other fundingDeep fundingMild stressVeto stressHalfLo ↔
      ¬(fundingDeep ≤ funding8h ∧ funding8h < fundingMild ∧ deeper < fundingDeep ∧
        other.score < stressHalfLo ∧ other.confidence ≠ .low) := by
  constructor
  · rintro hle ⟨hmild, hcalm, hdeep, hhalf, hlow⟩
    rw [squeezeRiskLevel_mild hmild hcalm, squeezeRiskLevel_unstressed hdeep hstress hhalf hlow] at hle
    exact absurd hle (by decide)
  · intro hno
    by_cases hdeep : deeper < fundingDeep
    · by_cases hmild : funding8h < fundingDeep
      · exact squeezeRiskLevel_deep_mono hmild hdeep hscore hconfidence
      have habove := not_lt.mp hmild
      have hmedium : squeezeRiskLevel funding8h stress fundingDeep fundingMild stressVeto stressHalfLo ≤
          .medium := squeezeRiskLevel_le_medium hfunding habove
      by_cases hstressed : stressHalfLo ≤ other.score ∨ other.confidence = .low
      · exact hmedium.trans (le_trans (by decide) (high_le_squeezeRiskLevel hdeep hstressed))
      -- what is left is a calm funding, rated LOW as its confidence is not LOW either
      rw [not_or, not_le] at hstressed
      have hcalm : fundingMild ≤ funding8h := by
        by_contra hmild
        exact hno ⟨habove, not_le.mp hmild, hdeep, hstressed.1, hstressed.2⟩
      have hlow : stress.confidence ≠ .low := fun hs => hstressed.2 (BorrowConfidence.eq_low_of_le (hs ▸ hconfidence))
      rw [squeezeRiskLevel_calm hfunding hcalm, if_neg hlow]
      exact SqueezeRisk.low_le _
    have hmild := not_lt.mp hdeep
    by_cases hcalm : deeper < fundingMild
    · rw [squeezeRiskLevel_mild hmild hcalm]
      exact squeezeRiskLevel_le_medium hfunding (hmild.trans hdeeper)
    · have hcalm := not_lt.mp hcalm
      rw [squeezeRiskLevel_calm hfunding hcalm, squeezeRiskLevel_calm hfunding (hcalm.trans hdeeper)]
      by_cases hlow : stress.confidence = .low
      · rw [if_pos hlow, if_pos (BorrowConfidence.eq_low_of_le (hlow ▸ hconfidence))]
      · rw [if_neg hlow]
        exact SqueezeRisk.low_le _

-- A funding of -0.0008 turns into -0.002, with full confidence and no stress.
theorem squeezeRiskLevel_falls :
    squeezeRiskLevel (-1 / 1250) ⟨0, .high⟩ = .medium ∧ squeezeRiskLevel (-1 / 500) ⟨0, .high⟩ = .low ∧
      ¬squeezeRiskLevel (-1 / 1250) ⟨0, .high⟩ ≤ squeezeRiskLevel (-1 / 500) ⟨0, .high⟩ := by
  decide +kernel

-- With a score of 3 the same funding is rated higher, not lower.
theorem squeezeRiskLevel_monotone_stressed :
    squeezeRiskLevel (-1 / 1250) ⟨3, .high⟩ (-1 / 1000) (-1 / 2000) 5 3 ≤
      squeezeRiskLevel (-1 / 500) ⟨3, .high⟩ (-1 / 1000) (-1 / 2000) 5 3 :=
  (squeezeRiskLevel_monotone_iff _ _ _ _ (by norm_num) (by norm_num) _ _ _ _ (by norm_num) le_rfl le_rfl).mpr
    (by decide +kernel)

end SqueezeRisk

section BorrowStress

-- The second status is no better than the first: what it lends and at which rate, each
-- field given by both or by neither.
structure Worsens (status worse : BorrowStatus) : Prop where
  support : worse.isBorrowSupported = status.isBorrowSupported
  zeroReason : worse.zeroReason = status.zeroReason
  confidence : worse.confidence = status.confidence
  usd : Option.Rel (· ≤ ·) worse.maxBorrowableUsd status.maxBorrowableUsd
  base : Option.Rel (· ≤ ·) worse.maxBorrowableBase status.maxBorrowableBase
  base_nonneg : ∀ base ∈ worse.maxBorrowableBase, 0 ≤ base
  rate : Option.Rel (· ≤ ·) status.borrowRateAnnualized worse.borrowRateAnnualized

variable {status worse : BorrowStatus} {plannedNotional larger : ℚ}

-- A tier of points grows where its test can only become true and its points are not fewer
-- than those of the tiers after it.
theorem tier_mono {p q : Prop} [Decidable p] [Decidable q] {points rest rest' : ℤ} (hpq : p → q)
    (hrest : rest ≤ rest') (hpoints : rest ≤ points) :
    (if p then points else rest) ≤ if q then points else rest' := by
  by_cases hq : q
  · rw [if_pos hq]
    split_ifs
    · exact le_rfl
    · exact hpoints
  · have hp : ¬p := fun hp => hq (hpq hp)
    rw [if_neg hq, if_neg hp]
    exact hrest

-- A ratio that is below a positive bound stays below it.
theorem ratio_lt_of_worsens {mb less bound : ℚ} (hbound : 0 < bound) (hplanned : 0 < plannedNotional)
    (hlarger : plannedNotional ≤ larger) (hless : less ≤ mb) (h : mb / plannedNotional < bound) :
    less / larger < bound := by
  rw [div_lt_iff₀ hplanned] at h
  rw [div_lt_iff₀ (hplanned.trans_le hlarger)]
  calc less ≤ mb := hless
    _ < bound * plannedNotional := h
    _ ≤ bound * larger := mul_le_mul_of_nonneg_left hlarger hbound.le

theorem usdPoints_mono (h : Option.Rel (· ≤ ·) worse.maxBorrowableUsd status.maxBorrowableUsd)
    (hplanned : 0 < plannedNotional) (hlarger : plannedNotional ≤ larger) :
    usdPoints status plannedNotional ≤ usdPoints worse larger := by
  unfold usdPoints
  generalize worse.maxBorrowableUsd = given at h
  generalize status.maxBorrowableUsd = given' at h
  cases h with
  | none => exact le_rfl
  | @some less mb hless =>
    dsimp only
    rw [if_pos hplanned, if_pos (hplanned.trans_le hlarger)]
    have h1 := @ratio_lt_of_worsens plannedNotional larger mb less 1 (by norm_num) hplanned hlarger hless
    have h2 := @ratio_lt_of_worsens plannedNotional larger mb less 2 (by norm_num) hplanned hlarger hless
    have h5 := @ratio_lt_of_worsens plannedNotional larger mb less 5 (by norm_num) hplanned hlarger hless
    have hfloor : mb < 50000 → less < 50000 := hless.trans_lt
    apply add_le_add
    · refine tier_mono h1 (tier_mono h2 (tier_mono h5 le_rfl zero_le_one) ?_) ?_
      · split_ifs <;> omega
      · split_ifs <;> omega
    · exact tier_mono hfloor le_rfl zero_le_one

-- A base amount of zero cannot get smaller.
theorem zero_of_worsens (h : Option.Rel (· ≤ ·) worse.maxBorrowableBase status.maxBorrowableBase)
    (hnonneg : ∀ base ∈ worse.maxBorrowableBase, 0 ≤ base) (hzero : status.maxBorrowableBase = some 0) :
    worse.maxBorrowableBase = some 0 := by
  rw [hzero] at h
  generalize hgiven : worse.maxBorrowableBase = given at h hnonneg
  cases h with
  | @some base _ hle => exact congrArg some (le_antisymm hle (hnonneg base rfl))

theorem basePoints_mono (h : Worsens status worse) : basePoints status ≤ basePoints worse := by
  have hexplained : explainedZero worse = explainedZero status := by
    unfold explainedZero
    rw [h.zeroReason]
  unfold basePoints
  rw [hexplained]
  by_cases hzero : status.maxBorrowableBase = some 0
  · rw [if_pos hzero, if_pos (zero_of_worsens h.base h.base_nonneg hzero)]
  · rw [if_neg hzero]
    split_ifs <;> norm_num

theorem ratePoints_mono (h : Option.Rel (· ≤ ·) status.borrowRateAnnualized worse.borrowRateAnnualized) :
    ratePoints status ≤ ratePoints worse := by
  unfold ratePoints
  generalize status.borrowRateAnnualized = given at h
  generalize worse.borrowRateAnnualized = given' at h
  cases h with
  | none => exact le_rfl
  | @some rate higher hle =>
    have h100 : rate > 100 → higher > 100 := fun hr => lt_of_lt_of_le hr hle
    have h50 : rate > 50 → higher > 50 := fun hr => lt_of_lt_of_le hr hle
    apply tier_mono h100 (tier_mono h50 le_rfl zero_le_one)
    split_ifs <;> omega

-- Worse conditions and a larger plan never lower the score, and never give back a
-- confidence that was LOW.
theorem borrowStressScore_monotone (status worse : BorrowStatus) (h : Worsens status worse)
    (plannedNotional larger : ℚ) (hplanned : 0 < plannedNotional) (hlarger : plannedNotional ≤ larger) :
    (borrowStressScore status plannedNotional).score ≤ (borrowStressScore worse larger).score ∧
      ((borrowStressScore status plannedNotional).confidence = .low →
        (borrowStressScore worse larger).confidence = .low) := by
  constructor
  · have hsupport : supportPoints worse = supportPoints status := by
      unfold supportPoints
      rw [h.support]
    have husd := usdPoints_mono h.usd hplanned hlarger
    have hbase := basePoints_mono h
    have hrate := ratePoints_mono h.rate
    change supportPoints status + _ + _ + _ ≤ supportPoints worse + _ + _ + _
    omega
  · intro hlow
    change stressConfidence status = .low at hlow
    change stressConfidence worse = .low
    have hexplained : explainedZero worse = explainedZero status := by
      unfold explainedZero
      rw [h.zeroReason]
    unfold stressConfidence at hlow ⊢
    rw [h.confidence, hexplained]
    by_cases hzero : status.maxBorrowableBase = some 0 ∧ ¬explainedZero status
    · rw [if_pos ⟨zero_of_worsens h.base h.base_nonneg hzero.1, hzero.2⟩]
    · rw [if_neg hzero] at hlow
      rw [hlow, ite_self]

-- The pool runs empty while the plan doubles.
theorem borrowStressScore_monotone_sample :
    (borrowStressScore ⟨some true, some 10, some 60000, some 40, .high, none⟩ 10000).score ≤
        (borrowStressScore ⟨some true, some 0, some 0, some 60, .high, none⟩ 20000).score ∧
      (borrowStressScore ⟨some true, some 0, some 0, some 60, .high, none⟩ 20000).confidence = .low := by
  have hworsens : Worsens ⟨some true, some 10, some 60000, some 40, .high, none⟩
      ⟨some true, some 0, some 0, some 60, .high, none⟩ := by
    refine ⟨rfl, rfl, rfl, .some (by norm_num), .some (by norm_num), ?_, .some (by norm_num)⟩
    intro base hbase
    exact (Option.some.inj hbase).le
  exact ⟨(borrowStressScore_monotone _ _ hworsens 10000 20000 (by norm_num) (by norm_num)).1,
    by decide +kernel⟩

end BorrowStress

end DualSleeve
