import DualSleeve.Execution.LocalStores.Theorems
import DualSleeve.Ops.TestnetReadWriteSmoke.Lifecycle

namespace DualSleeve

open Library

def OrderCall.isSubmit : OrderCall → Bool
  | .submit _ _ => true
  | _ => false

def OrderCall.isCancel : OrderCall → Bool
  | .cancel _ _ _ => true
  | _ => false

def OrderCall.queried? : OrderCall → Option (Except PyError (Option ExchangeOrderSnapshot))
  | .query _ _ answer => some answer
  | _ => none

section Runs

variable [DecimalContext] {σ α : Type} {smoke : ReadWriteSmoke σ} {config : TestnetSmokeOrderConfig}

-- An order that was submitted is canceled once in what follows, and no other is submitted.
structure CanceledAfter (config : TestnetSmokeOrderConfig) (answer : Except PyError OrderRecord)
    (rest : List OrderCall) : Prop where
  noSubmit : ∀ call ∈ rest, call.isSubmit = false
  cancels : ∀ submitted, answer = .ok submitted →
    ∃ canceled, rest.filter OrderCall.isCancel = [.cancel submitted.clientOrderId config.symbol canceled]

theorem Lifecycle.canceledAfter {outside : σ} {outcome : Except PyError SmokeLocals} {calls : List OrderCall}
    (h : Lifecycle smoke config outside outcome calls) :
    calls = [] ∨ ∃ order answer rest, calls = .submit order answer :: rest ∧ smoke.Makes config outside order ∧
      CanceledAfter config answer rest := by
  cases h with
  | unsent => exact Or.inl rfl
  | refused order hmade exc =>
    refine Or.inr ⟨order, _, [], rfl, hmade, by simp, ?_⟩
    intro given hgiven
    cases hgiven
  | uncanceled order hmade submitted first exc =>
    refine Or.inr ⟨order, _, _, rfl, hmade, by simp [OrderCall.isSubmit], ?_⟩
    intro given hgiven
    cases hgiven
    exact ⟨.error exc, rfl⟩
  | canceled order hmade submitted first second canceled _ _ =>
    refine Or.inr ⟨order, _, _, rfl, hmade, by simp [OrderCall.isSubmit], ?_⟩
    intro given hgiven
    cases hgiven
    exact ⟨.ok canceled, rfl⟩

theorem Lifecycle.makes_of_submit {outside : σ} {outcome : Except PyError SmokeLocals} {calls : List OrderCall}
    (h : Lifecycle smoke config outside outcome calls) {order : OrderRecord}
    {answer : Except PyError OrderRecord} (hsubmit : .submit order answer ∈ calls) :
    smoke.Makes config outside order := by
  rcases h.canceledAfter with rfl | ⟨made, _, rest, rfl, hmade, hafter⟩
  · cases hsubmit
  · rcases List.mem_cons.mp hsubmit with hsame | hlater
    · cases hsame
      exact hmade
    · cases hafter.noSubmit _ hlater

-- The last query after the cancel found the order canceled.
def SeenCanceled (calls : List OrderCall) : Prop :=
  ∃ before clientOrderId symbol canceled after snapshot,
    calls = before ++ .cancel clientOrderId symbol canceled :: after ∧
      (after.filterMap OrderCall.queried?).getLast? = some (.ok (some snapshot)) ∧ snapshot.status = .canceled

theorem Lifecycle.seenCanceled {outside : σ} {locals : SmokeLocals} {calls : List OrderCall}
    (h : Lifecycle smoke config outside (.ok locals) calls) {snapshot : ExchangeOrderSnapshot}
    (hafter : locals.queryAfter = some snapshot) (hstatus : snapshot.status = .canceled) :
    SeenCanceled calls := by
  cases h with
  | canceled order hmade submitted first second canceled _ hreturned =>
    have hsecond := (hreturned locals rfl).2
    rw [hafter] at hsecond
    exact ⟨[_, _], _, _, .ok canceled, _, snapshot, rfl, by rw [hsecond]; rfl, hstatus⟩

namespace ReadWriteSmoke

variable (smoke : ReadWriteSmoke σ) (config : TestnetSmokeOrderConfig)

-- What is read returns only where the price passed the guard.
theorem validated_of_preflight {world after : World σ} {ready : SmokePreflight}
    (h : smoke.preflight config world = (.ok ready, after)) :
    config.validateNonMarketable ready.markPrice = .ok () := by
  obtain ⟨_, _, _, h⟩ := Program.bind_eq_ok.mp h
  obtain ⟨account, _, _, h⟩ := Program.bind_eq_ok.mp h
  obtain ⟨positions, _, _, h⟩ := Program.bind_eq_ok.mp h
  obtain ⟨markPrice, _, _, h⟩ := Program.bind_eq_ok.mp h
  obtain ⟨_, _, hvalid, h⟩ := Program.bind_eq_ok.mp h
  cases h
  exact (Prod.mk.inj hvalid).1

-- A reconciliation leaves the safe mode as it was or enters it for good.
theorem runReconciliation_safeMode {world after : World σ}
    {reports : ReconciliationReport × PositionReconciliationReport}
    (h : smoke.runReconciliation world = (.ok reports, after)) :
    after.safeMode = world.safeMode ∨ after.safeMode.state = .safeMode := by
  obtain ⟨_, refreshed, hrefresh, h⟩ := Program.bind_eq_ok.mp h
  obtain ⟨orderReport, compared, horders, h⟩ := Program.bind_eq_ok.mp h
  obtain ⟨positionReport, final, hpositions, h⟩ := Program.bind_eq_ok.mp h
  cases h
  have hquiet := (smoke.positionStore.refresh_quiet smoke.positionReconciler).safeMode world
  rw [hrefresh] at hquiet
  obtain ⟨_, _, horders', hfirst⟩ :=
    smoke.orderStore.reconcileOpenOrders_reconciled smoke.exchange.toExchangeAdapter refreshed
  obtain ⟨_, _, hpositions', hsecond⟩ :=
    smoke.positionStore.reconcilePositions_reconciled smoke.positionReconciler compared
  cases horders.symm.trans horders'
  cases hpositions.symm.trans hpositions'
  cases hconsistent : positionReport.consistent with
  | false => exact Or.inr (hsecond.latch (Or.inr hconsistent))
  | true =>
    cases hconsistent' : orderReport.consistent with
    | false => exact Or.inr (hsecond.latch (Or.inl (hfirst.latch (Or.inr hconsistent'))))
    | true => exact Or.inl ((hsecond.kept hconsistent).trans ((hfirst.kept hconsistent').trans hquiet))

theorem report_returned {ready : SmokePreflight} {submitted : OrderRecord}
    {queryBefore queryAfter : ExchangeOrderSnapshot} {world after : World σ}
    {result : TestnetReadWriteSmokeResult}
    (h : smoke.report config ready submitted queryBefore queryAfter world = (.ok result, after))
    (hok : result.ok = true) : queryAfter.status = .canceled ∧ after.safeMode = world.safeMode := by
  obtain ⟨⟨orderReport, positionReport⟩, reconciled, hreconciled, h⟩ := Program.bind_eq_ok.mp h
  cases h
  simp only [TestnetReadWriteSmokeResult.ok, Bool.and_eq_true, beq_iff_eq, Bool.not_not] at hok
  refine ⟨hok.1.1.1.2, (smoke.runReconciliation_safeMode hreconciled).resolve_right ?_⟩
  intro hsafe
  rw [SafeModeController.allowsNewEntries_iff, hsafe] at hok
  cases hok.2

-- Everything a run can do: it stops before the order is made, or the order goes through its
-- lifecycle with what was read beforehand.
inductive Ran (acknowledge : Bool) (world : RecordedWorld σ) :
    Except PyError TestnetReadWriteSmokeResult → RecordedWorld σ → Prop
  | stopped (exc : PyError) (after : RecordedWorld σ) (hlog : after.log = world.log) :
      Ran acknowledge world (.error exc) after
  | went (hacknowledged : acknowledge = true) (ready : SmokePreflight) (middle : RecordedWorld σ)
      (hready : smoke.recorded.preflight config world = (.ok ready, middle))
      (lifecycle : Except PyError SmokeLocals) (calls : List OrderCall)
      (hlifecycle : Lifecycle smoke config middle.outside.1 lifecycle calls)
      (outcome : Except PyError TestnetReadWriteSmokeResult) (after : RecordedWorld σ)
      (hlog : after.log = world.log ++ calls)
      (hok : ∀ result, outcome = .ok result → result.ok = true →
        after.safeMode = {} ∧ ∃ locals snapshot, lifecycle = .ok locals ∧ locals.queryAfter = some snapshot ∧
          snapshot.status = .canceled) :
      Ran acknowledge world outcome after

theorem run_ran (acknowledge : Bool) (world : RecordedWorld σ) :
    smoke.Ran config acknowledge world
      (smoke.recorded.runTestnetReadWriteSmokeWithExchange config acknowledge world).1
      (smoke.recorded.runTestnetReadWriteSmokeWithExchange config acknowledge world).2 := by
  unfold runTestnetReadWriteSmokeWithExchange
  cases acknowledge with
  | false => exact .stopped _ _ rfl
  | true =>
    have hkept := (smoke.preflight_silent config).log world
    cases hready : smoke.recorded.preflight config world with
    | mk outcome middle =>
      rw [hready] at hkept
      cases outcome with
      | error exc =>
        rw [if_neg (by simp), Program.bind_of_error hready]
        exact .stopped exc middle hkept
      | ok ready =>
        rw [if_neg (by simp), Program.bind_of_ok hready, newSafeMode, Program.modify_bind]
        obtain ⟨lifecycle, after, calls, hran, hsafe, hlog, hlifecycle⟩ :=
          smoke.orderLifecycle_noted config { middle with safeMode := {} }
        have hlog : after.log = world.log ++ calls := hlog.trans (congrArg (· ++ calls) hkept)
        cases lifecycle with
        | error exc =>
          rw [Program.bind_of_error hran]
          exact .went rfl ready middle hready _ calls hlifecycle _ after hlog (fun _ h => by cases h)
        | ok locals =>
          rw [Program.bind_of_ok hran]
          obtain ⟨submitted, queryBefore, queryAfter⟩ := locals
          have hfailed : smoke.Ran config true world
              (.error (.testnetSmokeSafetyError .lifecycleIncomplete)) after :=
            .went rfl ready middle hready _ calls hlifecycle _ after hlog (fun _ h => by cases h)
          cases submitted with
          | none => exact hfailed
          | some submitted =>
            cases queryBefore with
            | none => exact hfailed
            | some queryBefore =>
              cases queryAfter with
              | none => exact hfailed
              | some queryAfter =>
                have hkept := (smoke.report_silent config ready submitted queryBefore queryAfter).log after
                refine .went rfl ready middle hready _ calls hlifecycle _ _ (hkept.trans hlog) ?_
                intro result hresult hok
                obtain ⟨hstatus, hsafe'⟩ := smoke.recorded.report_returned config (Prod.ext hresult rfl) hok
                exact ⟨hsafe'.trans hsafe, _, queryAfter, rfl, rfl, hstatus⟩

-- The calls about orders of one run, and what the run tells of them.
structure CleansUp (acknowledge : Bool) (outside : σ) (calls : List OrderCall)
    (outcome : Except PyError TestnetReadWriteSmokeResult) (safeMode : SafeModeController) : Prop where
  submits : (calls.filter OrderCall.isSubmit).length ≤ 1
  guarded : ∀ order answer, .submit order answer ∈ calls → acknowledge = true ∧
    ∃ ready middle, smoke.preflight config { outside } = (.ok ready, middle) ∧
      config.validateNonMarketable ready.markPrice = .ok ()
  canceled : ∀ before order submitted rest, calls = before ++ .submit order (.ok submitted) :: rest →
    ∃ answer, rest.filter OrderCall.isCancel = [.cancel submitted.clientOrderId config.symbol answer]
  succeeded : ∀ result, outcome = .ok result → result.ok = true → SeenCanceled calls ∧ safeMode = {}

theorem Ran.cleansUp {acknowledge : Bool} {outside : σ} {outcome : Except PyError TestnetReadWriteSmokeResult}
    {after : RecordedWorld σ} (h : smoke.Ran config acknowledge { outside := (outside, []) } outcome after) :
    smoke.CleansUp config acknowledge outside after.log outcome after.safeMode := by
  cases h with
  | stopped exc _ hlog =>
    have hnil : after.log = [] := hlog
    rw [hnil]
    refine ⟨Nat.zero_le 1, by simp, ?_, fun _ h => by cases h⟩
    intro before order submitted rest hsplit
    simp at hsplit
  | went hacknowledged ready middle hready lifecycle calls hlifecycle _ _ hlog hok =>
    have hcalls : after.log = calls := hlog
    rw [hcalls]
    have hplain := (smoke.preflight_silent config).seenAs { outside := (outside, []) }
    rw [hready] at hplain
    have hguarded := smoke.validated_of_preflight config hplain
    refine ⟨?_, fun _ _ _ => ⟨hacknowledged, ready, _, hplain, hguarded⟩, ?_, ?_⟩
    · rcases hlifecycle.canceledAfter with rfl | ⟨order, answer, rest, rfl, -, hafter⟩
      · exact Nat.zero_le 1
      · have hnone : rest.filter OrderCall.isSubmit = [] := by simpa using hafter.noSubmit
        rw [List.filter_cons_of_pos rfl, hnone]
        exact le_rfl
    · intro before order submitted rest hsplit
      rcases hlifecycle.canceledAfter with rfl | ⟨_, _, _, rfl, -, hafter⟩
      · simp at hsplit
      · rcases List.cons_eq_append_iff.mp hsplit with ⟨-, hsame⟩ | ⟨_, -, hlater⟩
        · cases hsame
          exact hafter.cancels submitted rfl
        · have hsubmit := hafter.noSubmit (.submit order (.ok submitted)) (by simp [hlater])
          cases hsubmit
    · intro result hresult hsucceeded
      obtain ⟨hsafe, locals, snapshot, rfl, hafter, hstatus⟩ := hok result hresult hsucceeded
      exact ⟨hlifecycle.seenCanceled hafter hstatus, hsafe⟩

-- Whatever the exchange and the stores answer or raise: the run with a log is the run, and
-- its log shows the order canceled once.
theorem run_cleans_up (acknowledge : Bool) (outside : σ) :
    ∃ outcome after,
      smoke.recorded.runTestnetReadWriteSmokeWithExchange config acknowledge { outside := (outside, []) } =
        (outcome, after) ∧
      smoke.runTestnetReadWriteSmokeWithExchange config acknowledge { outside } = (outcome, after.unrecorded) ∧
      smoke.CleansUp config acknowledge outside after.log outcome after.safeMode :=
  ⟨_, _, rfl, smoke.run_seenAs config acknowledge { outside := (outside, []) },
    Ran.cleansUp smoke config (smoke.run_ran config acknowledge _)⟩

end ReadWriteSmoke

end Runs

open scoped DefaultContext in
example : ((restingSmoke smokeFilters 1000).runTestnetReadWriteSmokeWithExchange (smokeOrder .buy 700) true
    { outside := .created }).1.map TestnetReadWriteSmokeResult.ok = .ok true := by
  decide +kernel

end DualSleeve
