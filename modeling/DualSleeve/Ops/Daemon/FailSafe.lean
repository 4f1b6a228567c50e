import DualSleeve.Ops.Daemon.Latch

namespace DualSleeve.DaemonRunner

open Library

section FailSafe

variable [DecimalContext] {σ : Type} (daemon : DaemonRunner σ)

-- An iteration in which a call of the exchange or of a store raises returns a result all
-- the same, and leaves the safe mode active.
def FailsSafe (world : World σ) : Prop :=
  daemon.SomeCallRaises world →
    ∃ result after, daemon.runOnce world = (.ok result, after) ∧ result.consistent = false ∧
      after.safeMode.state = .safeMode

-- The reconcilers keep what is raised to themselves; the refresh lets it through.
theorem failsSafe_iff (world : World σ) : daemon.FailsSafe world ↔ daemon.CanRefresh world := by
  rw [← refreshPositions_returns_iff]
  constructor
  · intro h
    cases hrefresh : daemon.refreshPositions world with
    | mk outcome refreshed =>
      cases outcome with
      | ok done => exact ⟨refreshed, rfl⟩
      | error exc =>
        obtain ⟨result, after, hrun, _⟩ := h (.inl (Program.Raises.of_error hrefresh))
        rw [runOnce, Program.bind_of_error hrefresh] at hrun
        cases hrun
  · rintro ⟨refreshed, hrefresh⟩ hraises
    obtain ⟨result, after, hrun, hiterated, hfailed⟩ := daemon.runOnce_iterated hrefresh
    have hraised : daemon.FetchRaises refreshed := by
      cases hraises with
      | inl hr => exact absurd hr (Program.Raises.of_ok hrefresh)
      | inr hf =>
        rw [hrefresh] at hf
        exact hf
    have hinconsistent := hiterated.failed (hfailed.mpr hraised)
    exact ⟨result, after, hrun, hinconsistent, hiterated.latch (.inr hinconsistent)⟩

-- What a run comes to: every iteration it gets to fails safe, and it returns the results
-- of the first iterations once it has ended.
structure SafeRun (fuel : ℕ) (world : World σ) : Prop where
  iterations : ∀ k < daemon.within 0 fuel, daemon.GoesPast k world → daemon.FailsSafe (daemon.next^[k] world)
  returns : ∃ answer after, daemon.run fuel world = (.ok answer, after) ∧
    (∀ results, answer = some results →
      results = daemon.cut (daemon.iterations (daemon.within 0 fuel) world)) ∧
    (daemon.Ends 0 fuel world → answer.isSome)

-- A run that does not raise was refused no sleep; by induction on the iterations it may
-- still make.
theorem sleepsFor_of_returns {fuel : ℕ} {iterations : ℤ} {world after : World σ}
    {answer : Option (List DaemonIterationResult)}
    (h : daemon.runFrom fuel iterations world = (.ok answer, after)) :
    daemon.SleepsFor iterations fuel world := by
  induction fuel generalizing iterations world answer after with
  | zero =>
    intro k hk
    rw [within_zero] at hk
    exact absurd hk (Nat.not_lt_zero k)
  | succ fuel ih =>
    rw [runFrom] at h
    by_cases hmore : daemon.exhausted iterations = true
    · intro k hk
      rw [daemon.within_of_exhausted hmore] at hk
      exact absurd hk (Nat.not_lt_zero k)
    · rw [if_neg hmore] at h
      obtain ⟨result, between, hrun, h⟩ := Program.bind_eq_ok.mp h
      by_cases hstop : (daemon.config.stopOnMismatch && !result.consistent) = true
      · intro k _ _ hpast
        obtain ⟨first, reached, hfirst, hgo, _⟩ := hpast.rest
        cases hrun.symm.trans hfirst
        exact absurd hstop hgo
      · rw [if_neg hstop] at h
        rw [daemon.sleepsFor_succ_iff hmore hrun hstop]
        by_cases hlast : daemon.exhausted (iterations + 1) = true
        · refine ⟨fun hlater => absurd hlast hlater, ?_⟩
          intro k hk
          rw [daemon.within_of_exhausted hlast] at hk
          exact absurd hk (Nat.not_lt_zero k)
        · rw [if_neg hlast] at h
          obtain ⟨_, slept, hsleep, h⟩ := Program.bind_eq_ok.mp h
          obtain ⟨rest, final, hrest, _⟩ := Program.bind_eq_ok.mp h
          have hslept := sleep_eq_ok hsleep
          rw [hslept, ← daemon.next_of_runOnce hrun] at hrest
          refine ⟨fun _ => ?_, ih hrest⟩
          by_contra hrefused
          obtain ⟨exc, hraised⟩ := sleep_of_not_accepts hrefused
          rw [hraised] at hsleep
          cases hsleep

-- A run is safe exactly when no refresh it comes to raises, and no sleep.
theorem run_safe_iff (fuel : ℕ) (world : World σ) :
    daemon.SafeRun fuel world ↔
      (∀ k < daemon.within 0 fuel, daemon.GoesPast k world → daemon.CanRefresh (daemon.next^[k] world)) ∧
        daemon.SleepsFor 0 fuel world := by
  constructor
  · intro h
    refine ⟨?_, ?_⟩
    · intro k hk hpast
      exact (daemon.failsSafe_iff _).mp (h.iterations k hk hpast)
    · obtain ⟨answer, after, hrun, _⟩ := h.returns
      exact daemon.sleepsFor_of_returns hrun
  · rintro ⟨hrefresh, hsleep⟩
    refine ⟨fun k hk hpast => (daemon.failsSafe_iff _).mpr (hrefresh k hk hpast), ?_⟩
    obtain ⟨answer, after, hrun, hgathered⟩ := daemon.runFrom_gathered fuel 0 world hsleep hrefresh
    exact ⟨answer, after, hrun, fun results he => (hgathered.results results he).1, hgathered.returned⟩

-- Which iterations and which runs of a daemon fail safe.
theorem daemon_fails_safe_iff :
    (∀ world, daemon.FailsSafe world ↔ daemon.CanRefresh world) ∧
      ∀ fuel world, daemon.SafeRun fuel world ↔
        (∀ k < daemon.within 0 fuel, daemon.GoesPast k world → daemon.CanRefresh (daemon.next^[k] world)) ∧
          daemon.SleepsFor 0 fuel world :=
  ⟨daemon.failsSafe_iff, daemon.run_safe_iff⟩

end FailSafe

section Sample

open scoped DefaultContext

-- An exchange that does not answer for the positions, and a daemon that asks for them to
-- refresh the local ones.
def unreachableDaemon : DaemonRunner ℕ :=
  { countingDaemon { maxIterations := some 1, refreshPositionsBeforeReconcile := true } fun _ => .ok [] with
    positionReconciler := { fetchPositionSnapshots := fun _ asked => (.error (.otherError "timeout"), asked) } }

theorem refresh_failure_escapes :
    unreachableDaemon.SomeCallRaises { outside := 0 } ∧
      (unreachableDaemon.runOnce { outside := 0 }).2.safeMode.state = .normal ∧
      ¬unreachableDaemon.FailsSafe { outside := 0 } ∧ ¬unreachableDaemon.SafeRun 2 { outside := 0 } := by
  have hraises : unreachableDaemon.SomeCallRaises { outside := 0 } := .inl ⟨.otherError "timeout", rfl⟩
  have hescapes : (unreachableDaemon.runOnce { outside := 0 }).1 = .error (.otherError "timeout") := rfl
  have hunsafe : ¬unreachableDaemon.FailsSafe { outside := 0 } := by
    intro h
    obtain ⟨result, after, hrun, _⟩ := h hraises
    rw [hrun] at hescapes
    cases hescapes
  refine ⟨hraises, rfl, hunsafe, ?_⟩
  intro h
  exact hunsafe (h.iterations 0 (by decide) (goesPast_zero _ _))

end Sample

end DualSleeve.DaemonRunner
