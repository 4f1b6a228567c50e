import DualSleeve.Execution.OrderRouter.Theorems
import DualSleeve.Ops.TestnetReadWriteSmoke.Recorded

namespace DualSleeve

open Library

variable {σ α : Type}

-- What the order is made of: the filters the router reads, and the clock.
def ReadWriteSmoke.Makes [DecimalContext] (smoke : ReadWriteSmoke σ) (config : TestnetSmokeOrderConfig) (outside : σ)
    (order : OrderRecord) : Prop :=
  ∃ filters after normalized, smoke.exchange.getSymbolFilters config.symbol outside = (.ok filters, after) ∧
    normalizeOrderIntent config.intent filters = .ok normalized ∧
    order = OrderRouter.submittedOrder normalized (smoke.now after)

-- Everything the order can go through. Once it was submitted it is queried and canceled,
-- and queried again unless the cancel raised.
inductive Lifecycle [DecimalContext] (smoke : ReadWriteSmoke σ) (config : TestnetSmokeOrderConfig) (outside : σ) :
    Except PyError SmokeLocals → List OrderCall → Prop
  | unsent (exc : PyError) : Lifecycle smoke config outside (.error exc) []
  | refused (order : OrderRecord) (hmade : smoke.Makes config outside order) (exc : PyError) :
      Lifecycle smoke config outside (.error exc) [.submit order (.error exc)]
  | uncanceled (order : OrderRecord) (hmade : smoke.Makes config outside order) (submitted : OrderRecord)
      (first : Except PyError (Option ExchangeOrderSnapshot)) (exc : PyError) :
      Lifecycle smoke config outside (.error exc) [.submit order (.ok submitted),
        .query config.symbol submitted.clientOrderId first,
        .cancel submitted.clientOrderId config.symbol (.error exc)]
  | canceled (order : OrderRecord) (hmade : smoke.Makes config outside order) (submitted : OrderRecord)
      (first second : Except PyError (Option ExchangeOrderSnapshot)) (canceled : Option OrderRecord)
      (outcome : Except PyError SmokeLocals)
      (hreturned : ∀ locals, outcome = .ok locals →
        first = .ok locals.queryBefore ∧ second = .ok locals.queryAfter) :
      Lifecycle smoke config outside outcome [.submit order (.ok submitted),
        .query config.symbol submitted.clientOrderId first,
        .cancel submitted.clientOrderId config.symbol (.ok canceled),
        .query config.symbol submitted.clientOrderId second]

-- The action ran so and made this one call about an order.
structure Noted (body : Action (σ × List OrderCall) α) (note : Except PyError α → OrderCall)
    (world : RecordedWorld σ) (answer : Except PyError α) (after : RecordedWorld σ) : Prop where
  ran : body world = (answer, after)
  safeMode : after.safeMode = world.safeMode
  log : after.log = world.log ++ [note answer]

theorem noted_remote (call : Call) (answer : Remote σ α) (note : Except PyError α → OrderCall)
    (world : RecordedWorld σ) :
    ∃ outcome after, Noted (remote call (answer.noting note)) note world outcome after :=
  ⟨_, _, rfl, rfl, rfl⟩

namespace ReadWriteSmoke

variable (smoke : ReadWriteSmoke σ) (config : TestnetSmokeOrderConfig)

theorem query_noted (clientOrderId : String) (world : RecordedWorld σ) :
    ∃ answer after, Noted (smoke.recorded.query config clientOrderId) (.query config.symbol clientOrderId)
      world answer after :=
  noted_remote _ _ _ world

theorem cancel_noted (clientOrderId : String) (world : RecordedWorld σ) :
    ∃ answer after, Noted (smoke.recorded.cancel config clientOrderId) (.cancel clientOrderId config.symbol)
      world answer after :=
  noted_remote _ _ _ world

-- Where nothing was submitted there is nothing to clean up.
theorem cancelAndQuery_of_none (world : World σ) :
    smoke.cancelAndQuery config (world, {}) = (.ok (), world, {}) := rfl

-- Whatever the query came to, the cancel comes next.
theorem cancelAndQuery_of_some (world : RecordedWorld σ) (locals : SmokeLocals) (order : OrderRecord)
    (hsubmitted : locals.submittedOrder = some order) :
    (∃ exc after, smoke.recorded.cancelAndQuery config (world, locals) = (.error exc, after, locals) ∧
      after.safeMode = world.safeMode ∧
      after.log = world.log ++ [.cancel order.clientOrderId config.symbol (.error exc)]) ∨
    ∃ canceled second outcome after final,
      smoke.recorded.cancelAndQuery config (world, locals) = (outcome, after, final) ∧
      after.safeMode = world.safeMode ∧
      after.log = world.log ++ [.cancel order.clientOrderId config.symbol (.ok canceled),
        .query config.symbol order.clientOrderId second] ∧
      (outcome = .ok () → final.queryBefore = locals.queryBefore ∧ second = .ok final.queryAfter) := by
  unfold cancelAndQuery
  rw [Program.get_bind, hsubmitted]
  obtain ⟨canceled, after, hcancel⟩ := smoke.cancel_noted config order.clientOrderId world
  dsimp only
  cases canceled with
  | error exc =>
    rw [Program.bind_of_error (Program.beside_of_eq locals hcancel.ran)]
    exact Or.inl ⟨exc, after, rfl, hcancel.safeMode, hcancel.log⟩
  | ok canceled =>
    rw [Program.bind_of_ok (Program.beside_of_eq locals hcancel.ran)]
    obtain ⟨second, final, hquery⟩ := smoke.query_noted config order.clientOrderId after
    have hsafe := hquery.safeMode.trans hcancel.safeMode
    have hlog : final.log = world.log ++ [.cancel order.clientOrderId config.symbol (.ok canceled),
        .query config.symbol order.clientOrderId second] := by
      rw [hquery.log, hcancel.log, List.append_assoc]
      rfl
    cases second with
    | error exc =>
      rw [Program.bind_of_error (Program.beside_of_eq locals hquery.ran)]
      exact Or.inr ⟨canceled, .error exc, .error exc, final, locals, rfl, hsafe, hlog, fun h => by cases h⟩
    | ok queryAfter =>
      rw [Program.bind_of_ok (Program.beside_of_eq locals hquery.ran)]
      exact Or.inr ⟨canceled, .ok queryAfter, .ok (), final, { locals with queryAfter }, rfl, hsafe, hlog,
        fun _ => ⟨rfl, rfl⟩⟩

variable [DecimalContext]

-- What routing the order comes to, and the call it leaves in the log.
inductive RouteNoted (outside : σ) : Except PyError RouteResult → List OrderCall → Prop
  | raised (exc : PyError) : RouteNoted outside (.error exc) []
  | rejected (reason : Reason) : RouteNoted outside (.ok ⟨false, none, reason⟩) []
  | refused (order : OrderRecord) (hmade : smoke.Makes config outside order) (exc : PyError) :
      RouteNoted outside (.error exc) [.submit order (.error exc)]
  | submitted (order : OrderRecord) (hmade : smoke.Makes config outside order) (submitted : OrderRecord)
      (reason : Reason) :
      RouteNoted outside (.ok ⟨true, some submitted, reason⟩) [.submit order (.ok submitted)]

theorem route_noted (world : RecordedWorld σ) :
    ∃ outcome after calls, smoke.recorded.router.route config.intent world = (outcome, after) ∧
      after.safeMode = world.safeMode ∧ after.log = world.log ++ calls ∧
      smoke.RouteNoted config world.outside.1 outcome calls := by
  have hrouted := OrderRouter.route_routed smoke.recorded.router config.intent world
  generalize smoke.recorded.router.route config.intent world = result at hrouted
  obtain ⟨outcome, after⟩ := result
  have hmade : ∀ {filters : SymbolFilters} {middle : σ × List OrderCall} {normalized : OrderIntent},
      smoke.recorded.router.exchange.getSymbolFilters config.intent.symbol world.outside =
        (.ok filters, middle) →
      normalizeOrderIntent config.intent filters = .ok normalized →
        smoke.Makes config world.outside.1
          (OrderRouter.submittedOrder normalized (smoke.recorded.router.now middle)) := by
    intro filters middle normalized hfilters hnormal
    obtain ⟨hanswer, rest⟩ := Prod.mk.inj hfilters
    refine ⟨filters, middle.1, normalized, ?_, hnormal, rfl⟩
    exact Prod.ext hanswer (congrArg Prod.fst rest)
  cases hrouted with
  | blocked => exact ⟨_, _, [], rfl, rfl, (List.append_nil _).symm, .rejected _⟩
  | notReduceOnly => exact ⟨_, _, [], rfl, rfl, (List.append_nil _).symm, .rejected _⟩
  | noFilters _ exc middle hfilters =>
    have hlog : middle.2 = world.log ++ [] := by rw [Program.beside_keeps hfilters, List.append_nil]; rfl
    exact ⟨_, _, [], rfl, rfl, hlog, .raised exc⟩
  | filtered _ filters middle hfilters exc hnormal =>
    have hlog : middle.2 = world.log ++ [] := by rw [Program.beside_keeps hfilters, List.append_nil]; rfl
    exact ⟨_, _, [], rfl, rfl, hlog, .raised exc⟩
  | signalOnly _ _ _ _ _ _ hmode => cases hmode
  | submitRaised _ filters middle hfilters normalized hnormal _ exc final hsubmit =>
    have hlog := Program.noting_notes hsubmit
    rw [Program.beside_keeps hfilters] at hlog
    exact ⟨_, _, _, rfl, rfl, hlog, .refused _ (hmade hfilters hnormal) exc⟩
  | submitted _ filters middle hfilters normalized hnormal _ order final hsubmit =>
    have hlog := Program.noting_notes hsubmit
    rw [Program.beside_keeps hfilters] at hlog
    exact ⟨_, _, _, rfl, rfl, hlog, .submitted _ (hmade hfilters hnormal) order _⟩

-- From here on the order counts as submitted, even where the query raises.
theorem submitAndQuery_of_submitted {world middle : RecordedWorld σ} {submitted : OrderRecord} {reason : Reason}
    (hroute : smoke.recorded.router.route config.intent world = (.ok ⟨true, some submitted, reason⟩, middle)) :
    ∃ first outcome after locals, smoke.recorded.submitAndQuery config (world, {}) = (outcome, after, locals) ∧
      after.safeMode = middle.safeMode ∧
      after.log = middle.log ++ [.query config.symbol submitted.clientOrderId first] ∧
      locals.submittedOrder = some submitted ∧ (outcome = .ok () → first = .ok locals.queryBefore) := by
  unfold submitAndQuery
  rw [Program.bind_of_ok (Program.beside_of_eq ({} : SmokeLocals) hroute)]
  dsimp only [assign]
  rw [Program.modify_bind]
  obtain ⟨first, after, hquery⟩ := smoke.query_noted config submitted.clientOrderId middle
  cases first with
  | error exc =>
    rw [Program.bind_of_error (Program.beside_of_eq _ hquery.ran)]
    exact ⟨_, _, _, _, rfl, hquery.safeMode, hquery.log, rfl, fun h => by cases h⟩
  | ok queryBefore =>
    rw [Program.bind_of_ok (Program.beside_of_eq _ hquery.ran)]
    exact ⟨_, _, _, _, rfl, hquery.safeMode, hquery.log, rfl, fun _ => rfl⟩

theorem orderLifecycle_of_unsent {world middle : RecordedWorld σ} {exc : PyError}
    (h : smoke.recorded.submitAndQuery config (world, {}) = (.error exc, middle, {})) :
    smoke.recorded.orderLifecycle config world = (.error exc, middle) :=
  Program.withLocals_of_eq (Program.ensure_of_ok h (smoke.recorded.cancelAndQuery_of_none config middle))

theorem orderLifecycle_noted (world : RecordedWorld σ) :
    ∃ outcome after calls, smoke.recorded.orderLifecycle config world = (outcome, after) ∧
      after.safeMode = world.safeMode ∧ after.log = world.log ++ calls ∧
      Lifecycle smoke config world.outside.1 outcome calls := by
  obtain ⟨routed, middle, calls, hroute, hsafe, hlog, hnoted⟩ := smoke.route_noted config world
  have hbeside := Program.beside_of_eq ({} : SmokeLocals) hroute
  cases hnoted with
  | raised exc =>
    have hran := smoke.orderLifecycle_of_unsent config (Program.bind_of_error hbeside)
    exact ⟨_, _, [], hran, hsafe, hlog, .unsent exc⟩
  | rejected reason =>
    have hran := smoke.orderLifecycle_of_unsent config (Program.bind_of_ok hbeside)
    exact ⟨_, _, [], hran, hsafe, hlog, .unsent _⟩
  | refused order hmade exc =>
    have hran := smoke.orderLifecycle_of_unsent config (Program.bind_of_error hbeside)
    exact ⟨_, _, _, hran, hsafe, hlog, .refused order hmade exc⟩
  | submitted order hmade submitted reason =>
    obtain ⟨first, outcome, queried, locals, hbody, hsafe', hlog', hsubmitted, hfirst⟩ :=
      smoke.submitAndQuery_of_submitted config hroute
    rw [hlog, List.append_assoc] at hlog'
    rcases smoke.cancelAndQuery_of_some config queried locals submitted hsubmitted with
      ⟨exc, after, hfinal, hsafe'', hlog''⟩ |
      ⟨canceled, second, final, after, last, hfinal, hsafe'', hlog'', hsecond⟩
    · rw [hlog', List.append_assoc] at hlog''
      exact ⟨_, _, _, Program.withLocals_of_eq (Program.ensure_of_error hbody hfinal),
        (hsafe''.trans hsafe').trans hsafe, hlog'', .uncanceled order hmade submitted first exc⟩
    · rw [hlog', List.append_assoc] at hlog''
      cases final with
      | error exc =>
        exact ⟨_, _, _, Program.withLocals_of_eq (Program.ensure_of_error hbody hfinal),
          (hsafe''.trans hsafe').trans hsafe, hlog'', .canceled order hmade submitted first second canceled _
            (fun _ h => by cases h)⟩
      | ok =>
        obtain ⟨hbefore, hafter⟩ := hsecond rfl
        refine ⟨_, _, _, Program.withLocals_of_eq (Program.ensure_of_ok hbody hfinal),
          (hsafe''.trans hsafe').trans hsafe, hlog'', .canceled order hmade submitted first second canceled _ ?_⟩
        intro given hgiven
        cases outcome with
        | error exc => cases hgiven
        | ok =>
          cases hgiven
          exact ⟨hbefore ▸ hfirst rfl, hafter⟩

end ReadWriteSmoke

end DualSleeve
