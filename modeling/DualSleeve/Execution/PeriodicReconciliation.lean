import DualSleeve.Exchange.BinanceTestnet
import DualSleeve.Execution.RouteTrace
import DualSleeve.Library.Polling
import DualSleeve.Ops.Daemon.Theorems

namespace DualSleeve

open Library

variable {σ : Type}

structure ReconciliationRunResult where
  report : ReconciliationReport
  alerted : Bool
  deriving DecidableEq

-- How Python prints a tuple of texts and the text of an error, in the f-string of the alert.
structure ReportPrinter where
  tuple : List String → String
  error : SafeModeReason → String

def formatReconciliationMismatch (printer : ReportPrinter) (report : ReconciliationReport) : String :=
  "RECONCILIATION_MISMATCH " ++
    "missing=" ++ printer.tuple report.missingOnExchange ++ " " ++
    "unknown=" ++ printer.tuple report.unknownOnLocal ++ " " ++
    "status=" ++ printer.tuple report.statusMismatches ++ " " ++
    "error=" ++ report.error.elim "None" printer.error

-- A `ReconciliationRunner` with what its reconciler was made of.
structure ReconciliationRunner (σ : Type) where
  orderStore : LocalOrderStore σ
  exchange : ExchangeAdapter σ
  alerts : AlertSink σ
  printer : ReportPrinter

def ReconciliationRunner.runOnce (runner : ReconciliationRunner σ) : Action σ ReconciliationRunResult := do
  let report ← runner.orderStore.reconcileOpenOrders runner.exchange
  if !report.consistent then
    sendAlert runner.alerts (formatReconciliationMismatch runner.printer report)
    return ⟨report, true⟩
  else
    return ⟨report, false⟩

structure PeriodicReconciliationConfig where
  intervalSeconds : ℤ := 30
  maxIterations : Option ℤ := none
  stopOnMismatch : Bool := true

structure PeriodicReconciliationLoop (σ : Type) where
  runner : ReconciliationRunner σ
  clock : Clock σ
  config : PeriodicReconciliationConfig

namespace PeriodicReconciliationLoop

variable (loop : PeriodicReconciliationLoop σ)

def polling : Polling (World σ) PyError ReconciliationRunResult where
  body := loop.runner.runOnce
  pause := sleep loop.clock loop.config.intervalSeconds
  stops result := loop.config.stopOnMismatch && !result.report.consistent
  limit := loop.config.maxIterations

-- The fuel bounds the loop that `max_iterations=None` leaves unbounded.
def run (fuel : ℕ) : Action σ (Option (List ReconciliationRunResult)) := loop.polling.runFrom fuel 0

end PeriodicReconciliationLoop

-- The reason the safe mode is entered with after a report that is not consistent.
def ReconciliationReport.reason (report : ReconciliationReport) : SafeModeReason :=
  report.error.getD
    (.reconciliationMismatch report.missingOnExchange report.unknownOnLocal report.statusMismatches)

-- The safe mode after a report.
def SafeModeController.afterReport (controller : SafeModeController) (report : ReconciliationReport) :
    SafeModeController :=
  if report.consistent then controller else controller.enter report.reason

theorem LocalOrderStore.reconcileOpenOrders_safeMode (store : LocalOrderStore σ) (exchange : ExchangeAdapter σ)
    (world : World σ) :
    ∃ report after, store.reconcileOpenOrders exchange world = (.ok report, after) ∧
      after.safeMode = world.safeMode.afterReport report ∧
      sentAlerts after.calls = sentAlerts world.calls := by
  have hsafe := (store.fetch_quiet exchange).safeMode world
  have halerts := (store.fetch_quiet exchange).alerts world
  unfold reconcileOpenOrders
  cases hfetch : store.fetch exchange world with
  | mk fetched after =>
    rw [hfetch] at hsafe halerts
    rw [Program.attempt_bind hfetch]
    cases fetched with
    | error exc => exact ⟨_, _, rfl, congrArg (SafeModeController.enter · _) hsafe, halerts⟩
    | ok orders =>
      refine ⟨_, _, settle_eq _ _ _ after, ?_, ?_⟩
      · unfold World.settled SafeModeController.afterReport
        split
        · exact hsafe
        · exact congrArg (SafeModeController.enter · _) hsafe
      · unfold World.settled
        split <;> exact halerts

-- One pass: an alert and an entry of the safe mode for a report that is not consistent.
structure PassAccounted (printer : ReportPrinter) (world : World σ) (result : ReconciliationRunResult)
    (after : World σ) : Prop where
  alerted : result.alerted = !result.report.consistent
  safeMode : after.safeMode = world.safeMode.afterReport result.report
  alerts : sentAlerts after.calls = sentAlerts world.calls ++
    if result.report.consistent then [] else [formatReconciliationMismatch printer result.report]

theorem ReconciliationRunner.runOnce_accounted (runner : ReconciliationRunner σ) (world : World σ) :
    ∃ result after, runner.runOnce world = (.ok result, after) ∧
      PassAccounted runner.printer world result after := by
  obtain ⟨report, after, hrun, hsafe, halerts⟩ :=
    runner.orderStore.reconcileOpenOrders_safeMode runner.exchange world
  unfold runOnce
  rw [Program.bind_of_ok hrun]
  cases hconsistent : report.consistent with
  | true =>
    refine ⟨_, _, rfl, by simp [hconsistent], hsafe, ?_⟩
    simp [hconsistent, halerts]
  | false =>
    refine ⟨_, _, rfl, by simp [hconsistent], hsafe, ?_⟩
    rw [hconsistent, if_neg Bool.false_ne_true, ← halerts]
    exact sentAlerts_append _ _

-- What a run of passes accounts for: one alert and one reason for each report that is not
-- consistent, in turn.
structure PassesAccounted (printer : ReportPrinter) (world : World σ) (results : List ReconciliationRunResult)
    (after : World σ) : Prop where
  alerted : ∀ result ∈ results, result.alerted = !result.report.consistent
  alerts : sentAlerts after.calls = sentAlerts world.calls ++
    (results.filter (!·.report.consistent)).map (formatReconciliationMismatch printer ·.report)
  reasons : after.safeMode.reasons = world.safeMode.reasons ++
    (results.filter (!·.report.consistent)).map (·.report.reason)
  state : after.safeMode.state = .safeMode ↔
    world.safeMode.state = .safeMode ∨ ∃ result ∈ results, result.report.consistent = false

theorem passesAccounted_nil (printer : ReportPrinter) (world : World σ) :
    PassesAccounted printer world [] world :=
  ⟨by simp, by simp, by simp, by simp⟩

-- A pass before a run, where nothing in between touches the safe mode or sends an alert.
theorem PassAccounted.cons {printer : ReportPrinter} {world between next after : World σ}
    {result : ReconciliationRunResult} {results : List ReconciliationRunResult}
    (h : PassAccounted printer world result between) (hsafe : next.safeMode = between.safeMode)
    (hsent : sentAlerts next.calls = sentAlerts between.calls)
    (hrest : PassesAccounted printer next results after) :
    PassesAccounted printer world (result :: results) after := by
  refine ⟨?_, ?_, ?_, ?_⟩
  · intro reported hm
    cases List.mem_cons.mp hm with
    | inl he => exact he ▸ h.alerted
    | inr hm => exact hrest.alerted reported hm
  · rw [hrest.alerts, hsent, h.alerts, List.filter_cons]
    cases result.report.consistent <;> simp
  · rw [hrest.reasons, hsafe, h.safeMode, List.filter_cons, SafeModeController.afterReport]
    cases result.report.consistent <;> simp [SafeModeController.enter]
  · rw [hrest.state, hsafe, h.safeMode, SafeModeController.afterReport]
    cases hconsistent : result.report.consistent <;> simp [SafeModeController.enter, hconsistent]

namespace PeriodicReconciliationLoop

variable {loop : PeriodicReconciliationLoop σ}

theorem passesAccounted_of_polled {iterations : ℤ} {world after : World σ}
    {results : List ReconciliationRunResult} (h : loop.polling.Polled iterations world results after) :
    PassesAccounted loop.runner.printer world results after := by
  have haccounted : ∀ {before between : World σ} {result : ReconciliationRunResult},
      loop.polling.body before = (.ok result, between) →
        PassAccounted loop.runner.printer before result between := by
    intro before between result hbody
    obtain ⟨_, _, hrun, hpass⟩ := loop.runner.runOnce_accounted before
    cases hbody.symm.trans hrun
    exact hpass
  induction h with
  | finished _ => exact passesAccounted_nil _ _
  | last _ hbody _ => exact (haccounted hbody).cons rfl rfl (passesAccounted_nil _ _)
  | next _ hbody _ _ hpause _ ih =>
    have hslept := sleep_eq_ok hpause
    refine (haccounted hbody).cons ?_ ?_ ih
    · rw [hslept, World.after_safeMode]
    · rw [hslept, World.after_calls, sentAlerts_append]
      exact List.append_nil _

-- Passes are made until the limit or, with `stop_on_mismatch`, the first report that is not
-- consistent; whatever the store and the exchange do, nothing raises, and the alerts and
-- the reasons of the safe mode are those of these reports.
theorem run_accounts (loop : PeriodicReconciliationLoop σ) {limit : ℤ}
    (hlimit : loop.config.maxIterations = some limit)
    (hsleep : 1 < limit → ∀ outside, loop.clock.Accepts loop.config.intervalSeconds outside)
    {fuel : ℕ} (hfuel : limit.toNat < fuel) (world : World σ) :
    ∃ results after, loop.run fuel world = (.ok (some results), after) ∧
      (loop.config.stopOnMismatch = true → ∀ result ∈ results.dropLast, result.report.consistent = true) ∧
      results.length ≤ limit.toNat ∧
      (results.length = limit.toNat ∨ loop.config.stopOnMismatch = true ∧
        ∃ result ∈ results.getLast?, result.report.consistent = false) ∧
      PassesAccounted loop.runner.printer world results after := by
  have hpolling : loop.polling.limit = some limit := hlimit
  let anywhere : World σ → Prop := fun _ => True
  have hbody : ∀ state, anywhere state →
      ∃ result after, loop.polling.body state = (.ok result, after) ∧ anywhere after := by
    intro state _
    obtain ⟨result, after, hrun, -⟩ := loop.runner.runOnce_accounted state
    exact ⟨result, after, hrun, trivial⟩
  have hpause : loop.polling.exhausted (0 + 1) = false →
      ∀ state, anywhere state → ∃ after, loop.polling.pause state = (.ok (), after) ∧ anywhere after := by
    intro hmore state _
    have hmany := Polling.lt_of_not_exhausted hpolling hmore
    exact ⟨_, sleep_of_accepts (hsleep hmany state.outside), trivial⟩
  obtain ⟨results, after, hpolled, -⟩ := Polling.exists_polled hbody hpolling hpause world trivial
  have hlength := hpolled.length_le hpolling
  have hends := hpolled.ends hpolling
  rw [sub_zero] at hlength hends
  refine ⟨results, after, hpolled.runFrom_eq (by omega), ?_, hlength, ?_, passesAccounted_of_polled hpolled⟩
  · intro hstop result hmem
    have hgo : (loop.config.stopOnMismatch && !result.report.consistent) = false :=
      hpolled.goes_on result hmem
    simpa [hstop] using hgo
  · refine hends.imp_right fun hlast => ?_
    obtain ⟨result, hresult, hstop⟩ := hlast
    change (loop.config.stopOnMismatch && !result.report.consistent) = true at hstop
    rw [Bool.and_eq_true, Bool.not_eq_true'] at hstop
    exact ⟨hstop.1, result, hresult, hstop.2⟩

end PeriodicReconciliationLoop

-- A store with an order that the exchange does not know.
def lostOrderLoop : PeriodicReconciliationLoop BinanceUsdmTestnetAdapter where
  runner := {
    orderStore := { listOpenOrders := pure [OrderRouter.submittedOrder sampleIntent sampleClock] }
    exchange := BinanceUsdmTestnetAdapter.exchange
    alerts := { send := fun _ outside => outside }
    printer := { tuple := fun ids => toString ids, error := fun _ => "" } }
  clock := { wait := fun _ _ => .ok () }
  config := { maxIterations := some 3, stopOnMismatch := false }

theorem run_accounts_sample :
    ∃ results after, lostOrderLoop.run 4 { outside := {} } = (.ok (some results), after) ∧
      PassesAccounted lostOrderLoop.runner.printer { outside := {} } results after := by
  obtain ⟨results, after, hrun, -, -, -, haccounts⟩ := lostOrderLoop.run_accounts
    (by rfl : lostOrderLoop.config.maxIterations = some 3) (fun _ _ => ⟨by decide, rfl⟩)
    (by decide : (3 : ℤ).toNat < 4) { outside := {} }
  exact ⟨results, after, hrun, haccounts⟩

end DualSleeve
