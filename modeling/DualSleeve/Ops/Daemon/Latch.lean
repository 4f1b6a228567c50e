import DualSleeve.Execution.RouteTrace.Theorems
import DualSleeve.Ops.Daemon.Theorems

namespace DualSleeve

open Library

variable {σ : Type}

section Latch

variable [DecimalContext]

-- Routing is refused for every entry, before the exchange is asked for anything.
def RejectsEntries (world : RouteWorld) : Prop :=
  ∀ (router : OrderRouter ScriptedExchange) (intent : OrderIntent), intent.action = .entry →
    router.route intent world = (.ok ⟨false, none, .safeModeBlocksNewEntries⟩, world)

def RouteEvent.NotExit : RouteEvent → Prop
  | .exit _ => False
  | .enter _ => True
  | .route _ _ => True

-- Entries are rejected from here on, in every trace without an exit.
def RejectsUntilExit (safeMode : SafeModeController) : Prop :=
  ∀ (mode : TradingMode) (world : RouteWorld), world.safeMode = safeMode →
    ∀ events, (∀ event ∈ events, event.NotExit) →
      Run.Always (routeStep mode) RejectsEntries world events

theorem rejectsEntries_of_safeMode {world : RouteWorld} (h : world.safeMode.state = .safeMode) :
    RejectsEntries world := by
  intro router intent hentry
  have hblocked : (!world.safeMode.allowsNewEntries && decide (intent.action = .entry)) = true := by
    simp [SafeModeController.allowsNewEntries, h, hentry]
  unfold OrderRouter.route
  rw [Program.get_bind, if_pos hblocked]
  rfl

theorem routeStep_safeMode {mode : TradingMode} {world : RouteWorld} {event : RouteEvent}
    (h : world.safeMode.state = .safeMode) (hstay : event.NotExit) :
    (routeStep mode world event).safeMode.state = .safeMode := by
  cases event with
  | enter reason => rfl
  | exit reason => exact hstay.elim
  | route intent script =>
    have hkept := (routeCall_effect mode world intent script).safeMode
    exact hkept ▸ h

theorem rejectsUntilExit {safeMode : SafeModeController} (h : safeMode.state = .safeMode) :
    RejectsUntilExit safeMode := by
  intro mode world hworld events hstay
  have hactive : world.safeMode.state = .safeMode := hworld ▸ h
  have hstays : Run.Along (routeStep mode) (fun _ event => event.NotExit) world events :=
    Run.along_of_forall (fun event he _ => hstay event he) world
  have halways : Run.Always (routeStep mode) (fun reached => reached.safeMode.state = .safeMode)
      world events := by
    refine Run.always_of_step ?_ hactive hstays
    exact fun _ _ hr hs => routeStep_safeMode hr hs
  intro reached hreached
  exact rejectsEntries_of_safeMode (halways reached hreached)

namespace DaemonRunner

variable (daemon : DaemonRunner σ)

-- A run of so many iterations at most: what it returns, what it alerts of, and what it
-- leaves the safe mode in.
structure Latched (limit : ℤ) (world : World σ) (results : List DaemonIterationResult)
    (after : World σ) : Prop where
  all : (daemon.iterations limit.toNat world).length = limit.toNat
  gathered : results = daemon.cut (daemon.iterations limit.toNat world)
  alerts : sentAlerts after.calls = sentAlerts world.calls ++
    (results.filter (!·.consistent)).map formatDaemonMismatch
  latched : ∀ result later, result :: later <:+ results →
    result.consistent = false ∨ result.Failed →
      ∀ reported ∈ result :: later, reported.safeModeActive = true
  rejected : world.safeMode.state = .safeMode ∨
    (∃ result ∈ results, result.consistent = false ∨ result.Failed) → RejectsUntilExit after.safeMode

-- Without the refresh nothing of an iteration raises, and so the run returns where its
-- sleeps do.
theorem run_latches (world : World σ) (limit : ℤ) (fuel : ℕ)
    (hrefresh : daemon.config.refreshPositionsBeforeReconcile = false)
    (hlimit : daemon.config.maxIterations = some limit)
    (hsleep : daemon.SleepsFor 0 fuel world) (hfuel : limit.toNat < fuel) :
    ∃ results after, daemon.run fuel world = (.ok (some results), after) ∧
      daemon.Latched limit world results after := by
  have hcan : ∀ reached, daemon.CanRefresh reached := by
    intro reached hon
    rw [hrefresh] at hon
    cases hon
  have hwithin : daemon.within 0 fuel = limit.toNat := by
    rw [within, hlimit, Option.elim_some]
    omega
  obtain ⟨answer, after, hrun, hgathered⟩ := daemon.runFrom_gathered fuel 0 world hsleep
    (fun _ _ _ => hcan _)
  have hends : daemon.Ends 0 fuel world := .inl ⟨limit, hlimit, by omega⟩
  obtain ⟨results, rfl⟩ := Option.isSome_iff_exists.mp (hgathered.returned hends)
  obtain ⟨hcut, haccounted⟩ := hgathered.results results rfl
  rw [hwithin] at hcut
  have hinconsistent : ∀ result ∈ results, result.consistent = false ∨ result.Failed →
      result.consistent = false :=
    fun result hm hw => hw.elim id (haccounted.failed result hm)
  refine ⟨results, after, hrun, daemon.length_iterations (fun _ _ => hcan _), hcut, haccounted.alerts, ?_, ?_⟩
  · intro result later hsuffix hw
    have hm : result ∈ results := hsuffix.subset List.mem_cons_self
    exact haccounted.latched result later hsuffix (hinconsistent result hm hw)
  · intro hw
    apply rejectsUntilExit
    apply haccounted.latch
    rcases hw with hw | ⟨result, hm, hw⟩
    · exact .inl hw
    · exact .inr ⟨result, hm, hinconsistent result hm hw⟩

end DaemonRunner

end Latch

namespace DaemonRunner

-- A daemon over empty stores and an exchange without positions; the outside counts the
-- times the open orders were asked for.
def countingDaemon (config : DaemonConfig) (openOrders : ℕ → Except PyError (List OrderRecord)) :
    DaemonRunner ℕ where
  orderStore := { listOpenOrders := fun asked => (.ok [], asked) }
  exchange := {
    getSymbolFilters := fun symbol asked => (.ok ⟨symbol, 1 / 100, 1 / 1000, 5⟩, asked)
    submitOrder := fun order asked => (.ok order, asked)
    cancelOrder := fun _ _ asked => (.ok none, asked)
    fetchOpenOrders := fun asked => (openOrders asked, asked + 1) }
  positionStore := {
    listPositions := fun _ asked => (.ok [], asked)
    upsertPosition := fun _ asked => (.ok (), asked) }
  positionReconciler := { fetchPositionSnapshots := fun _ asked => (.ok [], asked) }
  alerts := { send := fun _ asked => asked }
  clock := { wait := fun _ _ => .ok () }
  config

section Samples

open scoped DefaultContext

-- Asked a second time, the exchange does not answer.
def secondFetchFails (asked : ℕ) : Except PyError (List OrderRecord) :=
  if asked = 1 then .error (.otherError "timeout") else .ok []

theorem run_latches_sample :
    ∃ results after,
      (countingDaemon { intervalSeconds := 0, maxIterations := some 3, stopOnMismatch := false }
        secondFetchFails).run 4 { outside := 0 } = (.ok (some results), after) ∧
      (countingDaemon { intervalSeconds := 0, maxIterations := some 3, stopOnMismatch := false }
        secondFetchFails).Latched 3 { outside := 0 } results after :=
  run_latches _ _ 3 4 rfl rfl (fun _ _ _ _ => ⟨by decide, rfl⟩) (by decide)

-- Nothing is wrong, and yet the one run does not return, as its first sleep raises, and the
-- other one ends with entries allowed.
theorem consistent_runs_latch_nothing :
    (¬∃ fuel results after,
      (countingDaemon { intervalSeconds := -1, maxIterations := some 2 } fun _ => .ok []).run fuel
        { outside := 0 } = (.ok (some results), after)) ∧
    ∃ results after,
      (countingDaemon { intervalSeconds := 0, maxIterations := some 2 } fun _ => .ok []).run 3
        { outside := 0 } = (.ok (some results), after) ∧
      sampleIntent.action = .entry ∧
      (routeCall .exchangeTestnet (startWorld sampleScript after.safeMode) sampleIntent sampleScript).1.map
        RouteResult.accepted = .ok true := by
  refine ⟨?_, _, _, rfl, rfl, by decide +kernel⟩
  rintro ⟨fuel, results, after, h⟩
  cases fuel with
  | zero => cases h
  | succ fuel =>
    have hraised :
        ((countingDaemon { intervalSeconds := -1, maxIterations := some 2 } fun _ => .ok []).run (fuel + 1)
          { outside := 0 }).1 = .error (.valueError "sleep length must be non-negative") :=
      rfl
    rw [h] at hraised
    cases hraised

end Samples

end DaemonRunner

end DualSleeve
