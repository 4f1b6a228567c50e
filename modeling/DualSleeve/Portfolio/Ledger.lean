import DualSleeve.Core.DecimalContext
import DualSleeve.Risk.CircuitBreakers

namespace DualSleeve

open Library

-- The snapshot a new ledger has of a sleeve.
def newSleeve : SleeveId → SleeveLedgerSnapshot
  | .a => { sleeveId := .a, startingEquity := 40000 }
  | .b => { sleeveId := .b, startingEquity := 80000 }

structure VirtualSleeveLedger where
  accountStartingEquity : ℚ := 120000
  sleeves : Dict SleeveId SleeveLedgerSnapshot :=
    Dict.set (Dict.set (Table.empty _) .a (newSleeve .a)) .b (newSleeve .b)

namespace VirtualSleeveLedger

def snapshot [DecimalContext] (ledger : VirtualSleeveLedger) : AccountSnapshot where
  startingEquity := ledger.accountStartingEquity
  dailyPnl := sumOf (ledger.sleeves.values.map SleeveLedgerSnapshot.dailyPnl)
  sleeves := ledger.sleeves

def updateSleeve (ledger : VirtualSleeveLedger) (snapshot : SleeveLedgerSnapshot) : VirtualSleeveLedger :=
  { ledger with sleeves := ledger.sleeves.set snapshot.sleeveId snapshot }

-- The last snapshot of a sleeve, and the one of a new ledger where none came in.
def latest (updates : List SleeveLedgerSnapshot) (sleeveId : SleeveId) : SleeveLedgerSnapshot :=
  ((updates.filter (·.sleeveId = sleeveId)).getLast?).getD (newSleeve sleeveId)

theorem latest_append (updates : List SleeveLedgerSnapshot) (snapshot : SleeveLedgerSnapshot)
    (sleeveId : SleeveId) :
    latest (updates ++ [snapshot]) sleeveId =
      if sleeveId = snapshot.sleeveId then snapshot else latest updates sleeveId := by
  unfold latest
  rw [List.filter_append, List.filter_singleton]
  by_cases h : sleeveId = snapshot.sleeveId
  · simp [h]
  · simp [h, Ne.symm h]

-- Both sleeves are always there, each with its latest snapshot; by induction on the updates.
theorem sleeves_after (updates : List SleeveLedgerSnapshot) :
    Table.keys (updates.foldl updateSleeve {}).sleeves = [.a, .b] ∧
      (updates.foldl updateSleeve {}).accountStartingEquity = 120000 ∧
      ∀ sleeveId, (updates.foldl updateSleeve {}).sleeves.get sleeveId = some (latest updates sleeveId) := by
  induction updates using List.reverseRecOn with
  | nil => exact ⟨rfl, rfl, fun sleeveId => by cases sleeveId <;> rfl⟩
  | append_singleton updates snapshot ih =>
    obtain ⟨hkeys, hequity, hget⟩ := ih
    rw [List.foldl_append, List.foldl_cons, List.foldl_nil]
    refine ⟨?_, hequity, fun sleeveId => ?_⟩
    · have hmem : snapshot.sleeveId ∈ Table.keys (updates.foldl updateSleeve {}).sleeves := by
        rw [hkeys]
        cases snapshot.sleeveId <;> decide
      rw [← hkeys]
      exact (Table.keys_upsert _ _).trans (if_pos hmem)
    · rw [updateSleeve, Dict.get_set, hget, latest_append]
      split <;> rfl

theorem dailyPnl_after [DecimalContext] (updates : List SleeveLedgerSnapshot) :
    (updates.foldl updateSleeve {}).snapshot.dailyPnl =
      sumOf [(latest updates .a).dailyPnl, (latest updates .b).dailyPnl] := by
  obtain ⟨hkeys, -, hget⟩ := sleeves_after updates
  have hvalues : (updates.foldl updateSleeve {}).sleeves.values = [latest updates .a, latest updates .b] := by
    rw [Dict.values_eq, hkeys, List.filterMap_cons_some (hget .a), List.filterMap_cons_some (hget .b)]
    rfl
  rw [snapshot, hvalues, List.map_cons, List.map_cons, List.map_nil]

-- Whether the sleeves' snapshots reach a limit.
def limitReached [DecimalContext] (config : CircuitBreakerConfig)
    (sleeves : SleeveId → SleeveLedgerSnapshot) : CircuitReason → Bool
  | .globalDailyLossStop =>
    sumOf [(sleeves .a).dailyPnl, (sleeves .b).dailyPnl] ≤ config.globalDailyLossStop
  | .sleeveADailyLossStop => (sleeves .a).dailyPnl ≤ config.sleeveADailyLossStop
  | .sleeveAMonthlyLossStop => (sleeves .a).monthlyPnl ≤ config.sleeveAMonthlyLossStop
  | .sleeveBWeeklyLossStop => (sleeves .b).weeklyPnl ≤ config.sleeveBWeeklyLossStop

theorem breached_after [DecimalContext] (config : CircuitBreakerConfig) (updates : List SleeveLedgerSnapshot) :
    config.breached (updates.foldl updateSleeve {}).snapshot = limitReached config (latest updates) := by
  obtain ⟨-, -, hget⟩ := sleeves_after updates
  have hsleeve : ∀ sleeveId, (updates.foldl updateSleeve {}).snapshot.sleeves.get sleeveId =
      some (latest updates sleeveId) := hget
  funext reason
  cases reason with
  | globalDailyLossStop => rw [CircuitBreakerConfig.breached, dailyPnl_after, limitReached]
  | _ => simp only [CircuitBreakerConfig.breached, hsleeve, Option.any_some, limitReached]

theorem exists_sleeve_a (reasons : List CircuitReason) :
    (∃ reason ∈ reasons, reason.sleeve = some .a) ↔
      CircuitReason.sleeveADailyLossStop ∈ reasons ∨ CircuitReason.sleeveAMonthlyLossStop ∈ reasons := by
  constructor
  · rintro ⟨reason, hreason, hsleeve⟩
    cases reason with
    | sleeveADailyLossStop => exact .inl hreason
    | sleeveAMonthlyLossStop => exact .inr hreason
    | _ => cases hsleeve
  · rintro (hdaily | hmonthly)
    · exact ⟨_, hdaily, rfl⟩
    · exact ⟨_, hmonthly, rfl⟩

theorem exists_sleeve_b (reasons : List CircuitReason) :
    (∃ reason ∈ reasons, reason.sleeve = some .b) ↔ CircuitReason.sleeveBWeeklyLossStop ∈ reasons := by
  constructor
  · rintro ⟨reason, hreason, hsleeve⟩
    cases reason with
    | sleeveBWeeklyLossStop => exact hreason
    | _ => cases hsleeve
  · exact fun hweekly => ⟨_, hweekly, rfl⟩

-- However the updates of both sleeves interleave, the circuit breakers decide on the latest
-- snapshot of each: the account stops on the sum of their daily results, a sleeve on its own,
-- and updates that differ in their interleaving only come to the same decision.
theorem decision_after [DecimalContext] (config : CircuitBreakerConfig)
    (updates : List SleeveLedgerSnapshot) :
    ((config.evaluate (updates.foldl updateSleeve {}).snapshot).globalStop = true ↔
      sumOf [(latest updates .a).dailyPnl, (latest updates .b).dailyPnl] ≤ config.globalDailyLossStop) ∧
    ((config.evaluate (updates.foldl updateSleeve {}).snapshot).stopped .a = true ↔
      (latest updates .a).dailyPnl ≤ config.sleeveADailyLossStop ∨
        (latest updates .a).monthlyPnl ≤ config.sleeveAMonthlyLossStop) ∧
    ((config.evaluate (updates.foldl updateSleeve {}).snapshot).stopped .b = true ↔
      (latest updates .b).weeklyPnl ≤ config.sleeveBWeeklyLossStop) ∧
    ∀ other : List SleeveLedgerSnapshot,
      (∀ sleeveId, updates.filter (·.sleeveId = sleeveId) = other.filter (·.sleeveId = sleeveId)) →
        config.evaluate (other.foldl updateSleeve {}).snapshot =
          config.evaluate (updates.foldl updateSleeve {}).snapshot := by
  have hfollows := config.evaluate_follows (updates.foldl updateSleeve {}).snapshot
  have hmem : ∀ reason, reason ∈ config.breaches (updates.foldl updateSleeve {}).snapshot ↔
      limitReached config (latest updates) reason = true := by
    intro reason
    rw [CircuitBreakerConfig.breaches, breached_after, List.mem_filter]
    cases reason <;> simp
  have hglobal := hmem .globalDailyLossStop
  have hdaily := hmem .sleeveADailyLossStop
  have hmonthly := hmem .sleeveAMonthlyLossStop
  have hweekly := hmem .sleeveBWeeklyLossStop
  simp only [limitReached, decide_eq_true_eq] at hglobal hdaily hmonthly hweekly
  refine ⟨?_, ?_, ?_, ?_⟩
  · rw [CircuitDecision.globalStop, hfollows.globalActions, ← hglobal]
    split <;> simp_all
  · rw [hfollows.stopped, exists_sleeve_a, hdaily, hmonthly]
  · rw [hfollows.stopped, exists_sleeve_b, hweekly]
  · intro other hsame
    have hlatest : latest other = latest updates := by
      funext sleeveId
      unfold latest
      rw [hsame]
    rw [CircuitBreakerConfig.evaluate_eq, CircuitBreakerConfig.evaluate_eq, breached_after, breached_after, hlatest]

end VirtualSleeveLedger

end DualSleeve
