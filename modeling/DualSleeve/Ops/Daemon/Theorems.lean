import DualSleeve.Execution.LocalStores.Theorems
import DualSleeve.Ops.Daemon

namespace DualSleeve

open Library Library.Sequence

variable {σ : Type}

-- `time.sleep` accepts the seconds now.
def Clock.Accepts (clock : Clock σ) (seconds : ℤ) (outside : σ) : Prop :=
  0 ≤ seconds ∧ clock.wait seconds outside = .ok ()

section Sleep

variable {clock : Clock σ} {seconds : ℤ} {world : World σ}

theorem sleep_of_accepts (h : clock.Accepts seconds world.outside) :
    sleep clock seconds world = (.ok (), world.after (.sleep seconds) world.outside) := by
  rw [sleep, if_neg (not_lt.mpr h.1), h.2]

theorem sleep_of_not_accepts (h : ¬clock.Accepts seconds world.outside) :
    ∃ exc, sleep clock seconds world = (.error exc, world) := by
  unfold sleep
  split
  · exact ⟨_, rfl⟩
  · rename_i hneg
    cases hwait : clock.wait seconds world.outside with
    | error exc => exact ⟨exc, rfl⟩
    | ok _ => exact absurd ⟨not_lt.mp hneg, hwait⟩ h

theorem sleep_eq_ok {after : World σ} (h : sleep clock seconds world = (.ok (), after)) :
    after = world.after (.sleep seconds) world.outside := by
  by_cases haccepts : clock.Accepts seconds world.outside
  · rw [sleep_of_accepts haccepts] at h
    cases h
    rfl
  · obtain ⟨exc, hraised⟩ := sleep_of_not_accepts haccepts
    rw [hraised] at h
    cases h

end Sleep

-- The report of a fetch that raised.
def DaemonIterationResult.Failed (result : DaemonIterationResult) : Prop :=
  result.orderReport.error.isSome ∨ result.positionReport.error.isSome

-- What an iteration accounts for, over the worlds before and after it.
structure Iterated (world : World σ) (result : DaemonIterationResult) (after : World σ) : Prop where
  active : result.safeModeActive = true ↔ after.safeMode.state = .safeMode
  latch : world.safeMode.state = .safeMode ∨ result.consistent = false → after.safeMode.state = .safeMode
  alerts : sentAlerts after.calls = sentAlerts world.calls ++
    if result.consistent then [] else [formatDaemonMismatch result]
  failed : result.Failed → result.consistent = false

namespace DaemonRunner

variable (daemon : DaemonRunner σ)

-- The refresh is off, or all its calls return.
def CanRefresh (world : World σ) : Prop :=
  daemon.config.refreshPositionsBeforeReconcile = true →
    daemon.positionStore.Refreshes daemon.positionReconciler world.outside

theorem refreshPositions_quiet : Quiet daemon.refreshPositions := by
  unfold refreshPositions
  split
  · exact (daemon.positionStore.refresh_quiet daemon.positionReconciler).bind fun _ => quiet_pure ()
  · exact quiet_pure ()

theorem refreshPositions_returns_iff (world : World σ) :
    (∃ after, daemon.refreshPositions world = (.ok (), after)) ↔ daemon.CanRefresh world := by
  unfold refreshPositions CanRefresh
  by_cases hrefresh : daemon.config.refreshPositionsBeforeReconcile = true
  · rw [if_pos hrefresh, ← LocalPositionStore.refresh_returns_iff]
    constructor
    · rintro ⟨after, h⟩ _
      obtain ⟨positions, refreshed, hr, _⟩ := Program.bind_eq_ok.mp h
      exact ⟨positions, refreshed, hr⟩
    · intro h
      obtain ⟨positions, refreshed, hr⟩ := h hrefresh
      exact ⟨refreshed, by rw [Program.bind_of_ok hr]; rfl⟩
  · rw [if_neg hrefresh]
    exact ⟨fun _ hon => absurd hon hrefresh, fun _ => ⟨world, rfl⟩⟩

section Iteration

variable [DecimalContext]

-- Some call that a reconciler makes raises.
def FetchRaises (world : World σ) : Prop :=
  (daemon.orderStore.fetch daemon.exchange).Raises world ∨
    (daemon.positionStore.fetch daemon.positionReconciler).Raises
      (daemon.orderStore.reconcileOpenOrders daemon.exchange world).2

-- Some call of an iteration raises.
def SomeCallRaises (world : World σ) : Prop :=
  daemon.refreshPositions.Raises world ∨ daemon.FetchRaises (daemon.refreshPositions world).2

-- After the refresh, nothing of an iteration raises.
theorem runOnce_iterated {world refreshed : World σ}
    (h : daemon.refreshPositions world = (.ok (), refreshed)) :
    ∃ result after, daemon.runOnce world = (.ok result, after) ∧ Iterated world result after ∧
      (result.Failed ↔ daemon.FetchRaises refreshed) := by
  have hsafe := daemon.refreshPositions_quiet.safeMode world
  have halerts := daemon.refreshPositions_quiet.alerts world
  rw [h] at hsafe halerts
  obtain ⟨orderReport, between, horders, hordersReconciled⟩ :=
    daemon.orderStore.reconcileOpenOrders_reconciled daemon.exchange refreshed
  obtain ⟨positionReport, final, hpositions, hpositionsReconciled⟩ :=
    daemon.positionStore.reconcilePositions_reconciled daemon.positionReconciler between
  unfold runOnce
  rw [Program.bind_of_ok h, Program.bind_of_ok horders, Program.bind_of_ok hpositions, Program.get_bind]
  generalize hresult : (DaemonIterationResult.mk orderReport positionReport
    !final.safeMode.allowsNewEntries) = result
  have hconsistent : result.consistent = (orderReport.consistent && positionReport.consistent) := by
    rw [← hresult]
    rfl
  have hactive : result.safeModeActive = true ↔ final.safeMode.state = .safeMode := by
    rw [← hresult]
    change (!(final.safeMode.state == .normal)) = true ↔ _
    cases final.safeMode.state <;> decide
  have hlatch : world.safeMode.state = .safeMode ∨ result.consistent = false →
      final.safeMode.state = .safeMode := by
    intro hw
    rw [hconsistent, Bool.and_eq_false_iff, ← hsafe] at hw
    refine hpositionsReconciled.latch ?_
    rcases hw with hw | hw | hw
    · exact .inl (hordersReconciled.latch (.inl hw))
    · exact .inl (hordersReconciled.latch (.inr hw))
    · exact .inr hw
  have hfailed : result.Failed ↔ daemon.FetchRaises refreshed := by
    unfold FetchRaises
    rw [← hordersReconciled.error_iff, horders, ← hpositionsReconciled.error_iff, ← hresult]
    rfl
  have hinconsistent : result.Failed → result.consistent = false := by
    intro hf
    rw [hconsistent, Bool.and_eq_false_iff]
    rw [← hresult] at hf
    cases hf with
    | inl ho => exact .inl (hordersReconciled.failed (hordersReconciled.error_iff.mp ho))
    | inr hp => exact .inr (hpositionsReconciled.failed (hpositionsReconciled.error_iff.mp hp))
  have hsent : sentAlerts final.calls = sentAlerts world.calls :=
    hpositionsReconciled.alerts.trans (hordersReconciled.alerts.trans halerts)
  cases hc : result.consistent with
  | true =>
    rw [Bool.not_true, if_neg Bool.false_ne_true]
    refine ⟨result, final, rfl, ⟨hactive, hlatch, ?_, hinconsistent⟩, hfailed⟩
    rw [hc, if_pos rfl, List.append_nil, hsent]
  | false =>
    rw [Bool.not_false, if_pos rfl]
    refine ⟨result, _, rfl, ⟨hactive, hlatch, ?_, hinconsistent⟩, hfailed⟩
    rw [hc, if_neg Bool.false_ne_true, ← hsent, World.after_calls, sentAlerts_append]
    rfl

end Iteration

end DaemonRunner

-- What the results of a run account for, over the worlds before and after it.
structure Accounted (world : World σ) (results : List DaemonIterationResult) (after : World σ) :
    Prop where
  alerts : sentAlerts after.calls = sentAlerts world.calls ++
    (results.filter (!·.consistent)).map formatDaemonMismatch
  latched : ∀ result later, result :: later <:+ results → result.consistent = false →
    ∀ reported ∈ result :: later, reported.safeModeActive = true
  active : world.safeMode.state = .safeMode → ∀ reported ∈ results, reported.safeModeActive = true
  latch : world.safeMode.state = .safeMode ∨ (∃ result ∈ results, result.consistent = false) →
    after.safeMode.state = .safeMode
  failed : ∀ result ∈ results, result.Failed → result.consistent = false

theorem accounted_nil (world : World σ) : Accounted world [] world := by
  refine ⟨(List.append_nil _).symm, ?_, fun _ _ h => absurd h List.not_mem_nil, ?_,
    fun _ h => absurd h List.not_mem_nil⟩
  · intro result later hsuffix
    exact absurd (List.suffix_nil.mp hsuffix) (List.cons_ne_nil result later)
  · rintro (h | ⟨result, hm, _⟩)
    · exact h
    · exact absurd hm List.not_mem_nil

-- An iteration before a run: what it did to the safe mode is what the run starts with.
theorem Iterated.accounted {world between next after : World σ} {result : DaemonIterationResult}
    {results : List DaemonIterationResult} (h : Iterated world result between)
    (hsafe : next.safeMode = between.safeMode) (hsent : sentAlerts next.calls = sentAlerts between.calls)
    (hrest : Accounted next results after) : Accounted world (result :: results) after := by
  have hlater : between.safeMode.state = .safeMode →
      ∀ reported ∈ result :: results, reported.safeModeActive = true := by
    intro hb reported hm
    cases List.mem_cons.mp hm with
    | inl he => exact he ▸ h.active.mpr hb
    | inr hm => exact hrest.active (hsafe ▸ hb) reported hm
  refine ⟨?_, ?_, fun hw => hlater (h.latch (.inl hw)), ?_, ?_⟩
  · rw [hrest.alerts, hsent, h.alerts, List.append_assoc, List.filter_cons]
    cases hc : result.consistent <;> rfl
  · intro first later hsuffix hc
    cases List.suffix_cons_iff.mp hsuffix with
    | inl he =>
      cases he
      exact hlater (h.latch (.inr hc))
    | inr hs => exact hrest.latched first later hs hc
  · intro hw
    apply hrest.latch
    rw [hsafe]
    rcases hw with hw | ⟨first, hm, hc⟩
    · exact .inl (h.latch (.inl hw))
    · cases List.mem_cons.mp hm with
      | inl he => exact .inl (h.latch (.inr (he ▸ hc)))
      | inr hm => exact .inr ⟨first, hm, hc⟩
  · intro first hm
    cases List.mem_cons.mp hm with
    | inl he => exact he ▸ h.failed
    | inr hm => exact hrest.failed first hm

namespace DaemonRunner

variable (daemon : DaemonRunner σ)

-- With `stop_on_mismatch`, nothing comes after the first inconsistent result.
def cut (results : List DaemonIterationResult) : List DaemonIterationResult :=
  if daemon.config.stopOnMismatch then through (!·.consistent) results else results

-- How many of the next iterations the loop allows itself, after so many.
def within (iterations : ℤ) (fuel : ℕ) : ℕ :=
  daemon.config.maxIterations.elim fuel fun limit => min (limit - iterations).toNat fuel

theorem cut_nil : daemon.cut [] = [] := by
  unfold cut
  split <;> rfl

theorem cut_of_stop {result : DaemonIterationResult}
    (h : (daemon.config.stopOnMismatch && !result.consistent) = true)
    (results : List DaemonIterationResult) : daemon.cut (result :: results) = [result] := by
  rw [Bool.and_eq_true] at h
  rw [cut, if_pos h.1]
  exact through_of_last (fun reported : DaemonIterationResult => !reported.consistent) h.2 results

theorem cut_of_go_on {result : DaemonIterationResult}
    (h : ¬(daemon.config.stopOnMismatch && !result.consistent) = true)
    (results : List DaemonIterationResult) :
    daemon.cut (result :: results) = result :: daemon.cut results := by
  unfold cut
  by_cases hstop : daemon.config.stopOnMismatch = true
  · have hlast : ¬(!result.consistent) = true := by
      intro hl
      exact h (by rw [hstop, hl]; rfl)
    rw [if_pos hstop, if_pos hstop]
    exact through_of_not_last (fun reported : DaemonIterationResult => !reported.consistent) hlast results
  · rw [if_neg hstop, if_neg hstop]

theorem exhausted_iff {iterations : ℤ} :
    daemon.exhausted iterations = true ↔
      ∃ limit, daemon.config.maxIterations = some limit ∧ limit ≤ iterations := by
  unfold exhausted
  rw [Option.any_eq_true]
  simp only [decide_eq_true_eq]

theorem within_zero (iterations : ℤ) : daemon.within iterations 0 = 0 := by
  unfold within
  cases daemon.config.maxIterations with
  | none => rfl
  | some limit => exact Nat.min_zero _

theorem within_of_exhausted {iterations : ℤ} (h : daemon.exhausted iterations = true) (fuel : ℕ) :
    daemon.within iterations fuel = 0 := by
  obtain ⟨limit, hlimit, hreached⟩ := daemon.exhausted_iff.mp h
  rw [within, hlimit, Option.elim_some]
  omega

theorem within_succ {iterations : ℤ} (h : ¬daemon.exhausted iterations = true) (fuel : ℕ) :
    daemon.within iterations (fuel + 1) = daemon.within (iterations + 1) fuel + 1 := by
  unfold within
  cases hlimit : daemon.config.maxIterations with
  | none => rfl
  | some limit =>
    have hmore : iterations < limit := by
      by_contra hreached
      exact h (daemon.exhausted_iff.mpr ⟨limit, hlimit, by omega⟩)
    simp only [Option.elim_some]
    omega

variable [DecimalContext]

-- The world of the next iteration: one iteration and a sleep later.
def next (world : World σ) : World σ :=
  (daemon.runOnce world).2.after (.sleep daemon.config.intervalSeconds) (daemon.runOnce world).2.outside

-- The results of the first iterations, were nothing to stop the loop but an exception.
def iterations : ℕ → World σ → List DaemonIterationResult
  | 0, _ => []
  | count + 1, world =>
    match (daemon.runOnce world).1 with
    | .ok result => result :: iterations count (daemon.next world)
    | .error _ => []

theorem next_of_runOnce {world after : World σ} {result : DaemonIterationResult}
    (h : daemon.runOnce world = (.ok result, after)) :
    daemon.next world = after.after (.sleep daemon.config.intervalSeconds) after.outside := by
  rw [next, h]

theorem iterations_succ {world after : World σ} {result : DaemonIterationResult}
    (h : daemon.runOnce world = (.ok result, after)) (count : ℕ) :
    daemon.iterations (count + 1) world = result :: daemon.iterations count (daemon.next world) := by
  rw [iterations, h]

-- The loop gets past so many iterations: each of them returns, and none is one to stop at.
structure GoesPast (count : ℕ) (world : World σ) : Prop where
  returned : (daemon.iterations count world).length = count
  consistent : daemon.config.stopOnMismatch = true →
    ∀ result ∈ daemon.iterations count world, result.consistent = true

theorem goesPast_zero (world : World σ) : daemon.GoesPast 0 world :=
  ⟨rfl, fun _ _ h => absurd h List.not_mem_nil⟩

theorem GoesPast.cons {daemon : DaemonRunner σ} {count : ℕ} {world after : World σ}
    {result : DaemonIterationResult} (hrun : daemon.runOnce world = (.ok result, after))
    (hstop : ¬(daemon.config.stopOnMismatch && !result.consistent) = true)
    (h : daemon.GoesPast count (daemon.next world)) : daemon.GoesPast (count + 1) world := by
  refine ⟨?_, ?_⟩
  · rw [daemon.iterations_succ hrun, List.length_cons, h.returned]
  · intro hon reported hm
    rw [daemon.iterations_succ hrun] at hm
    cases List.mem_cons.mp hm with
    | inl he =>
      rw [hon, Bool.true_and, Bool.not_eq_true, Bool.not_eq_false'] at hstop
      exact he ▸ hstop
    | inr hm => exact h.consistent hon reported hm

-- What it takes to get past one more.
theorem GoesPast.rest {daemon : DaemonRunner σ} {count : ℕ} {world : World σ}
    (h : daemon.GoesPast (count + 1) world) :
    ∃ result after, daemon.runOnce world = (.ok result, after) ∧
      ¬(daemon.config.stopOnMismatch && !result.consistent) = true ∧
      daemon.GoesPast count (daemon.next world) := by
  cases hrun : daemon.runOnce world with
  | mk outcome after =>
    cases outcome with
    | error exc =>
      have hnone := h.returned
      rw [iterations, hrun] at hnone
      cases hnone
    | ok result =>
      have hresults := daemon.iterations_succ hrun count
      refine ⟨result, after, rfl, ?_, ?_, ?_⟩
      · intro hstop
        rw [Bool.and_eq_true] at hstop
        rw [h.consistent hstop.1 result (hresults ▸ List.mem_cons_self)] at hstop
        exact absurd hstop.2 (by decide)
      · have hlength := h.returned
        rw [hresults, List.length_cons] at hlength
        exact Nat.succ.inj hlength
      · intro hon reported hm
        exact h.consistent hon reported (hresults ▸ List.mem_cons_of_mem _ hm)

-- `time.sleep` accepts every sleep that the loop comes to.
def SleepsFor (iterations : ℤ) (fuel : ℕ) (world : World σ) : Prop :=
  ∀ k < daemon.within iterations fuel, ¬daemon.exhausted (iterations + k + 1) = true →
    daemon.GoesPast (k + 1) world →
      daemon.clock.Accepts daemon.config.intervalSeconds (daemon.runOnce (daemon.next^[k] world)).2.outside

theorem sleepsFor_succ_iff {iterations : ℤ} {fuel : ℕ} {world after : World σ}
    {result : DaemonIterationResult} (hmore : ¬daemon.exhausted iterations = true)
    (hrun : daemon.runOnce world = (.ok result, after))
    (hstop : ¬(daemon.config.stopOnMismatch && !result.consistent) = true) :
    daemon.SleepsFor iterations (fuel + 1) world ↔
      (¬daemon.exhausted (iterations + 1) = true →
        daemon.clock.Accepts daemon.config.intervalSeconds after.outside) ∧
      daemon.SleepsFor (iterations + 1) fuel (daemon.next world) := by
  have hshift : ∀ k : ℕ, iterations + ((k + 1 : ℕ) : ℤ) + 1 = iterations + 1 + k + 1 := by
    intro k
    omega
  unfold SleepsFor
  rw [daemon.within_succ hmore]
  constructor
  · intro h
    refine ⟨?_, ?_⟩
    · intro hlater
      have hfirst := h 0 (Nat.succ_pos _) (by simpa using hlater)
        ((daemon.goesPast_zero _).cons hrun hstop)
      rwa [Function.iterate_zero_apply, hrun] at hfirst
    · intro k hk hlater hpast
      exact h (k + 1) (Nat.succ_lt_succ hk) (hshift k ▸ hlater) (hpast.cons hrun hstop)
  · rintro ⟨hfirst, hrest⟩ k hk hlater hpast
    cases k with
    | zero =>
      rw [Function.iterate_zero_apply, hrun]
      exact hfirst (by simpa using hlater)
    | succ k =>
      obtain ⟨_, _, _, _, hpast⟩ := hpast.rest
      exact hrest k (Nat.lt_of_succ_lt_succ hk) (hshift k ▸ hlater) hpast

-- Every iteration that the loop gets to can refresh the positions.
def CanRefreshFor (count : ℕ) (world : World σ) : Prop :=
  ∀ k < count, daemon.GoesPast k world → daemon.CanRefresh (daemon.next^[k] world)

theorem CanRefreshFor.rest {daemon : DaemonRunner σ} {count : ℕ} {world after : World σ}
    {result : DaemonIterationResult} (h : daemon.CanRefreshFor (count + 1) world)
    (hrun : daemon.runOnce world = (.ok result, after))
    (hstop : ¬(daemon.config.stopOnMismatch && !result.consistent) = true) :
    daemon.CanRefreshFor count (daemon.next world) := by
  intro k hk hpast
  exact h (k + 1) (by omega) (hpast.cons hrun hstop)

-- The loop has a last iteration: the limit is near enough, or an iteration to stop at.
def Ends (iterations : ℤ) (fuel : ℕ) (world : World σ) : Prop :=
  (∃ limit, daemon.config.maxIterations = some limit ∧ (limit - iterations).toNat < fuel) ∨
    daemon.config.stopOnMismatch = true ∧
      ∃ result ∈ daemon.iterations (daemon.within iterations fuel) world, result.consistent = false

-- What the loop comes to: the results of the first iterations, cut, once it has ended.
structure Gathered (iterations : ℤ) (fuel : ℕ) (world : World σ)
    (answer : Option (List DaemonIterationResult)) (after : World σ) : Prop where
  results : ∀ results, answer = some results →
    results = daemon.cut (daemon.iterations (daemon.within iterations fuel) world) ∧
      Accounted world results after
  returned : daemon.Ends iterations fuel world → answer.isSome

theorem gathered_of_some {iterations : ℤ} {fuel : ℕ} {world after : World σ}
    {results : List DaemonIterationResult}
    (hcut : results = daemon.cut (daemon.iterations (daemon.within iterations fuel) world))
    (haccounted : Accounted world results after) :
    daemon.Gathered iterations fuel world (some results) after := by
  refine ⟨?_, fun _ => rfl⟩
  intro given he
  cases he
  exact ⟨hcut, haccounted⟩

-- Where the loop goes on, what the rest of it gathers comes after the first result.
theorem Gathered.cons {daemon : DaemonRunner σ} {iterations : ℤ} {fuel : ℕ} {world between after : World σ}
    {result : DaemonIterationResult} {answer : Option (List DaemonIterationResult)}
    (hrun : daemon.runOnce world = (.ok result, between)) (hiterated : Iterated world result between)
    (hmore : ¬daemon.exhausted iterations = true)
    (hstop : ¬(daemon.config.stopOnMismatch && !result.consistent) = true)
    (h : daemon.Gathered (iterations + 1) fuel (daemon.next world) answer after) :
    daemon.Gathered iterations (fuel + 1) world (answer.map (result :: ·)) after := by
  have hsafe : (daemon.next world).safeMode = between.safeMode := by
    rw [daemon.next_of_runOnce hrun, World.after_safeMode]
  have hsent : sentAlerts (daemon.next world).calls = sentAlerts between.calls := by
    rw [daemon.next_of_runOnce hrun, World.after_calls, sentAlerts_append]
    exact List.append_nil _
  have hiterations : daemon.iterations (daemon.within iterations (fuel + 1)) world =
      result :: daemon.iterations (daemon.within (iterations + 1) fuel) (daemon.next world) := by
    rw [daemon.within_succ hmore, daemon.iterations_succ hrun]
  refine ⟨?_, ?_⟩
  · intro results he
    obtain ⟨rest, hr, rfl⟩ := Option.map_eq_some_iff.mp he
    obtain ⟨hcut, haccounted⟩ := h.results rest hr
    refine ⟨?_, hiterated.accounted hsafe hsent haccounted⟩
    rw [hiterations, daemon.cut_of_go_on hstop, ← hcut]
  · intro hends
    rw [Option.isSome_map]
    apply h.returned
    cases hends with
    | inl hlimit =>
      obtain ⟨limit, hmax, hnear⟩ := hlimit
      have hreached : iterations < limit := by
        by_contra hreached
        exact hmore (daemon.exhausted_iff.mpr ⟨limit, hmax, by omega⟩)
      exact .inl ⟨limit, hmax, by omega⟩
    | inr hlast =>
      obtain ⟨hon, reported, hm, hc⟩ := hlast
      rw [hiterations] at hm
      cases List.mem_cons.mp hm with
      | inl he => exact absurd (by rw [hon, ← he, hc]; rfl) hstop
      | inr hm => exact .inr ⟨hon, reported, hm, hc⟩

-- The loop does not raise where its sleeps and its refreshes do not; by induction on
-- the iterations it may still make.
theorem runFrom_gathered (fuel : ℕ) (iterations : ℤ) (world : World σ)
    (hsleep : daemon.SleepsFor iterations fuel world)
    (hrefresh : daemon.CanRefreshFor (daemon.within iterations fuel) world) :
    ∃ answer after, daemon.runFrom fuel iterations world = (.ok answer, after) ∧
      daemon.Gathered iterations fuel world answer after := by
  induction fuel generalizing iterations world with
  | zero =>
    refine ⟨none, world, rfl, ?_, ?_⟩
    · intro results he
      cases he
    · rintro (⟨limit, _, hnear⟩ | ⟨_, result, hm, _⟩)
      · exact absurd hnear (Nat.not_lt_zero _)
      · rw [within_zero] at hm
        exact absurd hm List.not_mem_nil
  | succ fuel ih =>
    rw [runFrom]
    by_cases hmore : daemon.exhausted iterations = true
    · rw [if_pos hmore]
      refine ⟨some [], world, rfl, daemon.gathered_of_some ?_ (accounted_nil world)⟩
      rw [daemon.within_of_exhausted hmore]
      exact daemon.cut_nil.symm
    · rw [if_neg hmore]
      rw [daemon.within_succ hmore] at hrefresh
      obtain ⟨refreshed, hrefreshed⟩ :=
        (daemon.refreshPositions_returns_iff world).mpr (hrefresh 0 (Nat.succ_pos _) (daemon.goesPast_zero world))
      obtain ⟨result, between, hrun, hiterated, _⟩ := daemon.runOnce_iterated hrefreshed
      have hiterations := daemon.iterations_succ hrun
      have halone : Accounted world [result] between :=
        hiterated.accounted rfl rfl (accounted_nil between)
      rw [Program.bind_of_ok hrun]
      by_cases hstop : (daemon.config.stopOnMismatch && !result.consistent) = true
      · rw [if_pos hstop]
        refine ⟨some [result], between, rfl, daemon.gathered_of_some ?_ halone⟩
        rw [daemon.within_succ hmore, hiterations, daemon.cut_of_stop hstop]
      · rw [if_neg hstop]
        by_cases hlast : daemon.exhausted (iterations + 1) = true
        · rw [if_pos hlast]
          refine ⟨some [result], between, rfl, daemon.gathered_of_some ?_ halone⟩
          rw [daemon.within_succ hmore, hiterations, daemon.within_of_exhausted hlast,
            daemon.cut_of_go_on hstop]
          exact congrArg (result :: ·) daemon.cut_nil.symm
        · obtain ⟨haccepts, hlater⟩ := (daemon.sleepsFor_succ_iff hmore hrun hstop).mp hsleep
          rw [if_neg hlast, Program.bind_of_ok (sleep_of_accepts (haccepts hlast))]
          obtain ⟨answer, after, hrest, hgathered⟩ :=
            ih (iterations + 1) (daemon.next world) hlater (hrefresh.rest hrun hstop)
          rw [daemon.next_of_runOnce hrun] at hrest
          refine ⟨answer.map (result :: ·), after, ?_, hgathered.cons hrun hiterated hmore hstop⟩
          rw [Program.bind_of_ok hrest]
          rfl

-- Every one of the iterations has a result.
theorem length_iterations {count : ℕ} {world : World σ}
    (h : ∀ k < count, daemon.CanRefresh (daemon.next^[k] world)) :
    (daemon.iterations count world).length = count := by
  induction count generalizing world with
  | zero => rfl
  | succ count ih =>
    obtain ⟨refreshed, hrefreshed⟩ :=
      (daemon.refreshPositions_returns_iff world).mpr (h 0 (Nat.succ_pos _))
    obtain ⟨result, between, hrun, _⟩ := daemon.runOnce_iterated hrefreshed
    rw [daemon.iterations_succ hrun, List.length_cons, ih fun k hk => h (k + 1) (by omega)]

end DaemonRunner

end DualSleeve
