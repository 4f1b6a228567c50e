import DualSleeve.Core.Models
import DualSleeve.Library.Table
import Mathlib.Algebra.Order.Ring.Rat
import Mathlib.Data.List.Flatten
import Mathlib.Order.Basic

namespace DualSleeve

open Library

inductive CircuitAction where
  | none
  | blockNewEntries
  | exitOnly
  | cancelEntries
  | flattenAReduceOnly
  | manualReview
  deriving DecidableEq

inductive CircuitReason where
  | globalDailyLossStop
  | sleeveADailyLossStop
  | sleeveAMonthlyLossStop
  | sleeveBWeeklyLossStop
  deriving DecidableEq

def CircuitReason.value : CircuitReason → String
  | .globalDailyLossStop => "GLOBAL_DAILY_LOSS_STOP"
  | .sleeveADailyLossStop => "SLEEVE_A_DAILY_LOSS_STOP"
  | .sleeveAMonthlyLossStop => "SLEEVE_A_MONTHLY_LOSS_STOP"
  | .sleeveBWeeklyLossStop => "SLEEVE_B_WEEKLY_LOSS_STOP"

structure SleeveLedgerSnapshot where
  sleeveId : SleeveId
  startingEquity : ℚ
  realizedPnl : ℚ := 0
  unrealizedPnl : ℚ := 0
  fees : ℚ := 0
  funding : ℚ := 0
  dailyPnl : ℚ := 0
  weeklyPnl : ℚ := 0
  monthlyPnl : ℚ := 0
  deriving DecidableEq

structure AccountSnapshot where
  startingEquity : ℚ
  dailyPnl : ℚ
  sleeves : Dict SleeveId SleeveLedgerSnapshot

structure CircuitBreakerConfig where
  globalDailyLossStop : ℚ := -3000
  sleeveADailyLossStop : ℚ := -1000
  sleeveAMonthlyLossStop : ℚ := -8000
  sleeveBWeeklyLossStop : ℚ := -3200
  deriving DecidableEq

structure CircuitDecision where
  globalActions : List CircuitAction := []
  sleeveActions : List (SleeveId × List CircuitAction) := []
  reasons : List CircuitReason := []
  deriving DecidableEq

namespace CircuitDecision

def globalStop (decision : CircuitDecision) : Bool := !decision.globalActions.isEmpty

def stopped (decision : CircuitDecision) (sleeveId : SleeveId) : Bool :=
  sleeveId ∈ decision.sleeveActions.map Prod.fst

def actions (decision : CircuitDecision) (sleeveId : SleeveId) : List CircuitAction :=
  (decision.sleeveActions.lookup sleeveId).getD []

-- `setdefault(sleeve_id, []).extend([...])`, and the reason.
def stopSleeve (decision : CircuitDecision) (sleeveId : SleeveId) (reason : CircuitReason) :
    CircuitDecision :=
  { decision with
    sleeveActions :=
      if decision.stopped sleeveId then
        decision.sleeveActions.map fun entry =>
          if entry.1 = sleeveId then (entry.1, entry.2 ++ [.blockNewEntries, .exitOnly]) else entry
      else
        decision.sleeveActions ++ [(sleeveId, [.blockNewEntries, .exitOnly])]
    reasons := decision.reasons ++ [reason] }

end CircuitDecision

namespace CircuitBreakerConfig

variable (config : CircuitBreakerConfig)

def evaluate (account : AccountSnapshot) : CircuitDecision :=
  let decision : CircuitDecision :=
    if account.dailyPnl ≤ config.globalDailyLossStop then
      { globalActions := [.cancelEntries, .flattenAReduceOnly, .blockNewEntries]
        reasons := [.globalDailyLossStop] }
    else
      {}
  let decision :=
    match account.sleeves.get .a with
    | none => decision
    | some sleeveA =>
      let decision :=
        if sleeveA.dailyPnl ≤ config.sleeveADailyLossStop then decision.stopSleeve .a .sleeveADailyLossStop
        else decision
      if sleeveA.monthlyPnl ≤ config.sleeveAMonthlyLossStop then decision.stopSleeve .a .sleeveAMonthlyLossStop
      else decision
  match account.sleeves.get .b with
  | none => decision
  | some sleeveB =>
    if sleeveB.weeklyPnl ≤ config.sleeveBWeeklyLossStop then decision.stopSleeve .b .sleeveBWeeklyLossStop
    else decision

-- Whether a loss limit is reached.
def breached (account : AccountSnapshot) : CircuitReason → Bool
  | .globalDailyLossStop => account.dailyPnl ≤ config.globalDailyLossStop
  | .sleeveADailyLossStop => (account.sleeves.get .a).any (·.dailyPnl ≤ config.sleeveADailyLossStop)
  | .sleeveAMonthlyLossStop => (account.sleeves.get .a).any (·.monthlyPnl ≤ config.sleeveAMonthlyLossStop)
  | .sleeveBWeeklyLossStop => (account.sleeves.get .b).any (·.weeklyPnl ≤ config.sleeveBWeeklyLossStop)

def breaches (account : AccountSnapshot) : List CircuitReason :=
  [.globalDailyLossStop, .sleeveADailyLossStop, .sleeveAMonthlyLossStop, .sleeveBWeeklyLossStop].filter
    (config.breached account)

end CircuitBreakerConfig

-- The sleeve a loss limit is about.
def CircuitReason.sleeve : CircuitReason → Option SleeveId
  | .globalDailyLossStop => none
  | .sleeveADailyLossStop => some .a
  | .sleeveAMonthlyLossStop => some .a
  | .sleeveBWeeklyLossStop => some .b

-- The actions of a sleeve, once for each of its limits.
def sleeveStops (reasons : List CircuitReason) (sleeveId : SleeveId) : List CircuitAction :=
  (reasons.filter (·.sleeve = some sleeveId)).flatMap fun _ => [.blockNewEntries, .exitOnly]

-- What a decision is, given the limits that are reached.
structure CircuitDecision.Follows (decision : CircuitDecision) (breaches : List CircuitReason) : Prop where
  reasons : decision.reasons = breaches
  globalActions : decision.globalActions = if CircuitReason.globalDailyLossStop ∈ breaches then
    [.cancelEntries, .flattenAReduceOnly, .blockNewEntries] else []
  actions : ∀ sleeveId, decision.actions sleeveId = sleeveStops breaches sleeveId
  stopped : ∀ sleeveId, decision.stopped sleeveId = true ↔ ∃ reason ∈ breaches, reason.sleeve = some sleeveId

namespace CircuitBreakerConfig

variable {config : CircuitBreakerConfig} {account worse : AccountSnapshot}

-- The decision, given which limits are reached.
def decisionOf (breached : CircuitReason → Bool) : CircuitDecision :=
  let decision : CircuitDecision :=
    if breached .globalDailyLossStop then
      { globalActions := [.cancelEntries, .flattenAReduceOnly, .blockNewEntries]
        reasons := [.globalDailyLossStop] }
    else
      {}
  let decision :=
    if breached .sleeveADailyLossStop then decision.stopSleeve .a .sleeveADailyLossStop else decision
  let decision :=
    if breached .sleeveAMonthlyLossStop then decision.stopSleeve .a .sleeveAMonthlyLossStop else decision
  if breached .sleeveBWeeklyLossStop then decision.stopSleeve .b .sleeveBWeeklyLossStop else decision

theorem evaluate_eq (config : CircuitBreakerConfig) (account : AccountSnapshot) :
    config.evaluate account = decisionOf (config.breached account) := by
  unfold evaluate decisionOf breached
  cases account.sleeves.get .a <;> cases account.sleeves.get .b <;> simp

theorem decisionOf_follows (breached : CircuitReason → Bool) :
    (decisionOf breached).Follows
      ([.globalDailyLossStop, .sleeveADailyLossStop, .sleeveAMonthlyLossStop, .sleeveBWeeklyLossStop].filter
        breached) := by
  unfold decisionOf
  cases hglobal : breached .globalDailyLossStop <;> cases hdaily : breached .sleeveADailyLossStop <;>
    cases hmonthly : breached .sleeveAMonthlyLossStop <;> cases hweekly : breached .sleeveBWeeklyLossStop
  all_goals
    simp only [List.filter, hglobal, hdaily, hmonthly, hweekly]
    exact ⟨rfl, rfl, fun sleeveId => by cases sleeveId <;> rfl, fun sleeveId => by cases sleeveId <;> decide⟩

theorem evaluate_follows (config : CircuitBreakerConfig) (account : AccountSnapshot) :
    (config.evaluate account).Follows (config.breaches account) := by
  rw [evaluate_eq]
  exact decisionOf_follows _

end CircuitBreakerConfig

-- An account that made no more than another one, in whole and in each of its sleeves.
structure AccountSnapshot.NoBetter (worse account : AccountSnapshot) : Prop where
  daily : worse.dailyPnl ≤ account.dailyPnl
  sleeves : ∀ sleeveId snapshot, account.sleeves.get sleeveId = some snapshot →
    ∃ lower, worse.sleeves.get sleeveId = some lower ∧ lower.dailyPnl ≤ snapshot.dailyPnl ∧
      lower.weeklyPnl ≤ snapshot.weeklyPnl ∧ lower.monthlyPnl ≤ snapshot.monthlyPnl

-- Limits that are reached no later.
structure CircuitBreakerConfig.Stricter (strict config : CircuitBreakerConfig) : Prop where
  globalDaily : config.globalDailyLossStop ≤ strict.globalDailyLossStop
  sleeveADaily : config.sleeveADailyLossStop ≤ strict.sleeveADailyLossStop
  sleeveAMonthly : config.sleeveAMonthlyLossStop ≤ strict.sleeveAMonthlyLossStop
  sleeveBWeekly : config.sleeveBWeeklyLossStop ≤ strict.sleeveBWeeklyLossStop

namespace CircuitBreakerConfig

variable {config strict : CircuitBreakerConfig} {account worse : AccountSnapshot}

theorem any_of_noBetter (h : worse.NoBetter account) {sleeveId : SleeveId} {pnl : SleeveLedgerSnapshot → ℚ}
    {limit higher : ℚ} (hlimit : limit ≤ higher)
    (hpnl : ∀ snapshot lower : SleeveLedgerSnapshot, lower.dailyPnl ≤ snapshot.dailyPnl →
      lower.weeklyPnl ≤ snapshot.weeklyPnl → lower.monthlyPnl ≤ snapshot.monthlyPnl → pnl lower ≤ pnl snapshot)
    (hany : (account.sleeves.get sleeveId).any (pnl · ≤ limit) = true) :
    (worse.sleeves.get sleeveId).any (pnl · ≤ higher) = true := by
  rw [Option.any_eq_true] at hany ⊢
  obtain ⟨snapshot, hget, hle⟩ := hany
  obtain ⟨lower, hlower, hdaily, hweekly, hmonthly⟩ := h.sleeves sleeveId snapshot hget
  rw [decide_eq_true_eq] at hle
  exact ⟨lower, hlower, decide_eq_true (((hpnl snapshot lower hdaily hweekly hmonthly).trans hle).trans hlimit)⟩

theorem breached_of_noBetter (hstrict : strict.Stricter config) (h : worse.NoBetter account)
    (reason : CircuitReason) (hbreached : config.breached account reason = true) :
    strict.breached worse reason = true := by
  cases reason with
  | globalDailyLossStop =>
    have hle : account.dailyPnl ≤ config.globalDailyLossStop := of_decide_eq_true hbreached
    exact decide_eq_true ((h.daily.trans hle).trans hstrict.globalDaily)
  | sleeveADailyLossStop => exact any_of_noBetter h hstrict.sleeveADaily (fun _ _ hd _ _ => hd) hbreached
  | sleeveAMonthlyLossStop => exact any_of_noBetter h hstrict.sleeveAMonthly (fun _ _ _ _ hm => hm) hbreached
  | sleeveBWeeklyLossStop => exact any_of_noBetter h hstrict.sleeveBWeekly (fun _ _ _ hw _ => hw) hbreached

theorem breaches_of_noBetter (hstrict : strict.Stricter config) (h : worse.NoBetter account) :
    (config.breaches account).Sublist (strict.breaches worse) :=
  List.monotone_filter_right _ (breached_of_noBetter hstrict h)

-- An account that makes less, or limits that are stricter, never lift a stop: all the
-- reasons and all the actions of the decision stay, in their order.
theorem evaluate_monotone (hstrict : strict.Stricter config) (h : worse.NoBetter account) :
    (config.evaluate account).reasons.Sublist (strict.evaluate worse).reasons ∧
    (config.evaluate account).globalActions.Sublist (strict.evaluate worse).globalActions ∧
    ∀ sleeveId, ((config.evaluate account).actions sleeveId).Sublist ((strict.evaluate worse).actions sleeveId) ∧
      ((config.evaluate account).stopped sleeveId = true → (strict.evaluate worse).stopped sleeveId = true) := by
  have hbreaches := breaches_of_noBetter hstrict h
  have hfollows := config.evaluate_follows account
  have hfollows' := strict.evaluate_follows worse
  refine ⟨?_, ?_, fun sleeveId => ⟨?_, ?_⟩⟩
  · rw [hfollows.reasons, hfollows'.reasons]
    exact hbreaches
  · rw [hfollows.globalActions, hfollows'.globalActions]
    by_cases hglobal : CircuitReason.globalDailyLossStop ∈ config.breaches account
    · rw [if_pos hglobal, if_pos (hbreaches.subset hglobal)]
    · rw [if_neg hglobal]
      exact List.nil_sublist _
  · rw [hfollows.actions, hfollows'.actions]
    exact (hbreaches.filter _).flatMap _
  · rw [hfollows.stopped, hfollows'.stopped]
    rintro ⟨reason, hreason, hsleeve⟩
    exact ⟨reason, hbreaches.subset hreason, hsleeve⟩

-- Sleeve A reaches its daily limit where it had lost half of it, and the limit itself is stricter.
theorem evaluate_monotone_sample :
    let account : AccountSnapshot :=
      { startingEquity := 120000, dailyPnl := -3500
        sleeves := Dict.set (Table.empty _) .a { sleeveId := .a, startingEquity := 40000, dailyPnl := -500 } }
    let worse : AccountSnapshot :=
      { startingEquity := 120000, dailyPnl := -4000
        sleeves := Dict.set (Table.empty _) .a { sleeveId := .a, startingEquity := 40000, dailyPnl := -1000 } }
    let strict : CircuitBreakerConfig := { sleeveADailyLossStop := -900 }
    (({} : CircuitBreakerConfig).evaluate account).reasons.Sublist (strict.evaluate worse).reasons := by
  intro account worse strict
  have hstrict : strict.Stricter {} := by constructor <;> decide +kernel
  have hworse : worse.NoBetter account := by
    refine ⟨by decide +kernel, fun sleeveId snapshot hget => ?_⟩
    cases sleeveId with
    | a =>
      cases hget
      exact ⟨_, rfl, by decide +kernel, by decide +kernel, by decide +kernel⟩
    | b => cases hget
  exact (evaluate_monotone hstrict hworse).1

end CircuitBreakerConfig

end DualSleeve
