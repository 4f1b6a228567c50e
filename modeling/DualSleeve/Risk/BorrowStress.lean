import Mathlib.Algebra.Order.Ring.Rat
import Mathlib.Order.Basic

namespace DualSleeve

inductive BorrowConfidence where
  | high
  | medium
  | low
  deriving DecidableEq

inductive SqueezeRisk where
  | low
  | medium
  | high
  | extreme
  deriving DecidableEq

def BorrowConfidence.rank : BorrowConfidence → ℕ
  | .low => 0
  | .medium => 1
  | .high => 2

def SqueezeRisk.rank : SqueezeRisk → ℕ
  | .low => 0
  | .medium => 1
  | .high => 2
  | .extreme => 3

theorem BorrowConfidence.rank_injective : Function.Injective BorrowConfidence.rank := by
  intro confidence other h
  cases confidence <;> cases other <;> first | rfl | cases h

theorem SqueezeRisk.rank_injective : Function.Injective SqueezeRisk.rank := by
  intro risk other h
  cases risk <;> cases other <;> first | rfl | cases h

-- low < medium < high
instance : LinearOrder BorrowConfidence :=
  LinearOrder.lift' BorrowConfidence.rank BorrowConfidence.rank_injective

-- low < medium < high < extreme
instance : LinearOrder SqueezeRisk :=
  LinearOrder.lift' SqueezeRisk.rank SqueezeRisk.rank_injective

theorem SqueezeRisk.low_le (risk : SqueezeRisk) : .low ≤ risk := by
  cases risk <;> decide

theorem SqueezeRisk.le_extreme (risk : SqueezeRisk) : risk ≤ .extreme := by
  cases risk <;> decide

-- Nothing is below LOW confidence.
theorem BorrowConfidence.eq_low_of_le {confidence : BorrowConfidence} (h : confidence ≤ .low) :
    confidence = .low := by
  revert h
  cases confidence <;> decide

structure BorrowStatus where
  isBorrowSupported : Option Bool
  maxBorrowableBase : Option ℚ
  maxBorrowableUsd : Option ℚ
  borrowRateAnnualized : Option ℚ
  confidence : BorrowConfidence := .low
  zeroReason : Option String := none
  deriving DecidableEq

structure BorrowStressResult where
  score : ℤ
  confidence : BorrowConfidence
  deriving DecidableEq

-- The points for `is_borrow_supported`.
def supportPoints (status : BorrowStatus) : ℤ :=
  if status.isBorrowSupported = some false then 3 else 0

-- The points for what can be borrowed against the plan, and for how much that is at all.
def usdPoints (status : BorrowStatus) (plannedNotional : ℚ) : ℤ :=
  match status.maxBorrowableUsd with
  | none => 0
  | some mb =>
    let ratio := if plannedNotional > 0 then mb / plannedNotional else 0
    (if ratio < 1 then 3 else if ratio < 2 then 2 else if ratio < 5 then 1 else 0) +
      (if mb < 50000 then 1 else 0)

-- A base amount of zero, for one of the reasons that explain it.
def explainedZero (status : BorrowStatus) : Bool :=
  status.zeroReason = some "pool_likely_empty" || status.zeroReason = some "unsupported_asset"

def basePoints (status : BorrowStatus) : ℤ :=
  if status.maxBorrowableBase = some 0 then (if explainedZero status then 3 else 1) else 0

-- An unexplained zero lowers the confidence.
def stressConfidence (status : BorrowStatus) : BorrowConfidence :=
  if status.maxBorrowableBase = some 0 ∧ ¬explainedZero status then .low else status.confidence

def ratePoints (status : BorrowStatus) : ℤ :=
  match status.borrowRateAnnualized with
  | none => 0
  | some rate => if rate > 100 then 2 else if rate > 50 then 1 else 0

def borrowStressScore (status : BorrowStatus) (plannedNotional : ℚ) : BorrowStressResult where
  score := supportPoints status + usdPoints status plannedNotional + basePoints status + ratePoints status
  confidence := stressConfidence status

-- The level the funding and the score give, before the confidence is looked at.
def fundingLevel (funding8h : ℚ) (score : ℤ) (fundingDeep fundingMild : ℚ) (stressVeto stressHalfLo : ℤ) :
    SqueezeRisk :=
  if funding8h < fundingDeep ∧ score ≥ stressVeto then .extreme
  else if funding8h < fundingDeep ∧ score ≥ stressHalfLo then .high
  else if fundingDeep ≤ funding8h ∧ funding8h < fundingMild then .medium
  else .low

def squeezeRiskLevel (funding8h : ℚ) (stress : BorrowStressResult) (fundingDeep : ℚ := -1 / 1000)
    (fundingMild : ℚ := -1 / 2000) (stressVeto : ℤ := 5) (stressHalfLo : ℤ := 3) : SqueezeRisk :=
  let level := fundingLevel funding8h stress.score fundingDeep fundingMild stressVeto stressHalfLo
  let level := if stress.confidence = .low ∧ level = .low then .medium else level
  if stress.confidence = .low ∧ funding8h < fundingDeep ∧ level = .medium then .high else level

end DualSleeve
