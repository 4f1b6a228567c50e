import DualSleeve.Ops.TestnetReadWriteSmoke

namespace DualSleeve

open Library

-- A call about an order, with what it came to.
inductive OrderCall where
  | submit (order : OrderRecord) (answer : Except PyError OrderRecord)
  | query (symbol clientOrderId : String) (answer : Except PyError (Option ExchangeOrderSnapshot))
  | cancel (clientOrderId symbol : String) (answer : Except PyError (Option OrderRecord))
  deriving DecidableEq

variable {σ α β : Type}

-- The exchange, and a log of the calls about orders it answered.
def ReadWriteSmokeExchange.recorded (exchange : ReadWriteSmokeExchange σ) :
    ReadWriteSmokeExchange (σ × List OrderCall) where
  getSymbolFilters symbol := (exchange.getSymbolFilters symbol).beside
  submitOrder order := (exchange.submitOrder order).noting (.submit order)
  cancelOrder clientOrderId symbol :=
    (exchange.cancelOrder clientOrderId symbol).noting (.cancel clientOrderId symbol)
  fetchOpenOrders := exchange.fetchOpenOrders.beside
  fetchAccountSnapshot := exchange.fetchAccountSnapshot.beside
  fetchPositionSnapshots symbol := (exchange.fetchPositionSnapshots symbol).beside
  fetchMarkPrice symbol := (exchange.fetchMarkPrice symbol).beside
  queryOrder symbol clientOrderId :=
    (exchange.queryOrder symbol clientOrderId).noting (.query symbol clientOrderId)

def ReadWriteSmoke.recorded (smoke : ReadWriteSmoke σ) : ReadWriteSmoke (σ × List OrderCall) where
  exchange := smoke.exchange.recorded
  orderStore := { listOpenOrders := smoke.orderStore.listOpenOrders.beside }
  positionStore := {
    listPositions includeFlat := (smoke.positionStore.listPositions includeFlat).beside
    upsertPosition position := (smoke.positionStore.upsertPosition position).beside }
  now outside := smoke.now outside.1

abbrev RecordedWorld (σ : Type) := World (σ × List OrderCall)

def World.log (world : RecordedWorld σ) : List OrderCall := world.outside.2

-- The world without the log.
def World.unrecorded (world : RecordedWorld σ) : World σ where
  outside := world.outside.1
  safeMode := world.safeMode
  orders := world.orders
  positions := world.positions
  calls := world.calls

theorem seenAs_remote_noting (call : Call) (answer : Remote σ α) (note : Except PyError α → OrderCall) :
    Program.SeenAs World.unrecorded (remote call (answer.noting note)) (remote call answer) :=
  fun _ => rfl

-- Without the log the action is the other one, and it leaves the log alone.
structure Silent (body : Action (σ × List OrderCall) α) (seen : Action σ α) : Prop where
  seenAs : Program.SeenAs World.unrecorded body seen
  log : Program.Keeps World.log body

theorem silent_remote (call : Call) (answer : Remote σ α) :
    Silent (remote call answer.beside) (remote call answer) :=
  ⟨fun _ => rfl, fun _ => rfl⟩

theorem silent_entered (reason : SafeModeReason) (report : α) :
    Silent (do enterSafeMode reason; return report : Action (σ × List OrderCall) α)
      (do enterSafeMode reason; return report) :=
  ⟨fun _ => rfl, fun _ => rfl⟩

theorem silent_pure (value : α) : Silent (pure value : Action (σ × List OrderCall) α) (pure value) :=
  ⟨Program.seenAs_pure value, Program.keeps_pure _ value⟩

theorem silent_ofExcept (result : Except PyError α) :
    Silent (Program.ofExcept result : Action (σ × List OrderCall) α) (Program.ofExcept result) :=
  ⟨Program.seenAs_ofExcept result, Program.keeps_ofExcept _ result⟩

namespace Silent

variable {first second : Action (σ × List OrderCall) α} {seen seen' : Action σ α}

theorem bind {next : α → Action (σ × List OrderCall) β} {seenNext : α → Action σ β} (hfirst : Silent first seen)
    (hnext : ∀ value, Silent (next value) (seenNext value)) : Silent (first >>= next) (seen >>= seenNext) :=
  ⟨hfirst.seenAs.bind fun value => (hnext value).seenAs, hfirst.log.bind fun value => (hnext value).log⟩

theorem get_bind {next : RecordedWorld σ → Action (σ × List OrderCall) α} {seenNext : World σ → Action σ α}
    (h : ∀ world, Silent (next world) (seenNext world.unrecorded)) :
    Silent (Program.get >>= next) (Program.get >>= seenNext) :=
  ⟨Program.seenAs_get_bind fun world => (h world).seenAs, fun world => (h world).log world⟩

theorem attempt (h : Silent first seen) : Silent (Program.attempt first) (Program.attempt seen) :=
  ⟨h.seenAs.attempt, h.log.attempt⟩

theorem ite {p : Prop} [Decidable p] (hfirst : Silent first seen) (hsecond : Silent second seen') :
    Silent (if p then first else second) (if p then seen else seen') := by
  split
  · exact hfirst
  · exact hsecond

end Silent

namespace ReadWriteSmoke

variable (smoke : ReadWriteSmoke σ) (config : TestnetSmokeOrderConfig)

theorem resolveMarkPrice_silent (symbol : String) (positions : List ExchangePositionSnapshot) :
    Silent (smoke.recorded.resolveMarkPrice symbol positions) (smoke.resolveMarkPrice symbol positions) := by
  unfold resolveMarkPrice
  split
  · exact silent_pure _
  · exact silent_remote _ _

theorem preflight_silent [DecimalContext] : Silent (smoke.recorded.preflight config) (smoke.preflight config) := by
  refine (silent_remote _ _).bind fun _ => (silent_remote _ _).bind fun _ => ?_
  refine (silent_remote _ _).bind fun positions => (smoke.resolveMarkPrice_silent _ positions).bind fun _ => ?_
  exact (silent_ofExcept _).bind fun _ => silent_pure _

theorem storePositions_silent (positions : List ExchangePositionSnapshot) :
    Silent (smoke.recorded.positionStore.storePositions positions)
      (smoke.positionStore.storePositions positions) := by
  induction positions with
  | nil => exact silent_pure _
  | cons position positions ih => exact (silent_remote _ _).bind fun _ => ih

theorem refresh_silent :
    Silent (smoke.recorded.positionStore.refreshLocalPositionsFromExchange smoke.recorded.positionReconciler)
      (smoke.positionStore.refreshLocalPositionsFromExchange smoke.positionReconciler) :=
  (silent_remote _ _).bind fun positions => (smoke.storePositions_silent positions).bind fun _ => silent_pure _

theorem reconcileOpenOrders_silent :
    Silent (smoke.recorded.orderStore.reconcileOpenOrders smoke.recorded.exchange.toExchangeAdapter)
      (smoke.orderStore.reconcileOpenOrders smoke.exchange.toExchangeAdapter) := by
  have hfetch := (silent_remote .listOpenOrders smoke.orderStore.listOpenOrders).bind fun localOrders =>
    (silent_remote .fetchOpenOrders smoke.exchange.fetchOpenOrders).bind fun exchangeOrders =>
      silent_pure (localOrders, exchangeOrders)
  refine hfetch.attempt.bind fun fetched => ?_
  cases fetched with
  | error exc => exact silent_entered _ _
  | ok orders => exact .ite (silent_entered _ _) (silent_pure _)

theorem reconcilePositions_silent [DecimalContext] :
    Silent (smoke.recorded.positionStore.reconcilePositions smoke.recorded.positionReconciler)
      (smoke.positionStore.reconcilePositions smoke.positionReconciler) := by
  have hfetch := (silent_remote (.listPositions false) (smoke.positionStore.listPositions false)).bind
    fun localPositions =>
      (silent_remote (.fetchPositionSnapshots none) (smoke.exchange.fetchPositionSnapshots none)).bind
        fun positions => silent_pure (localPositions, positions.filter (!·.isFlat))
  refine hfetch.attempt.bind fun fetched => ?_
  cases fetched with
  | error exc => exact silent_entered _ _
  | ok positions => exact .ite (silent_entered _ _) (silent_pure _)

theorem report_silent [DecimalContext] (ready : SmokePreflight) (submitted : OrderRecord)
    (queryBefore queryAfter : ExchangeOrderSnapshot) :
    Silent (smoke.recorded.report config ready submitted queryBefore queryAfter)
      (smoke.report config ready submitted queryBefore queryAfter) := by
  have hreconciled := smoke.refresh_silent.bind fun _ =>
    smoke.reconcileOpenOrders_silent.bind fun orderReport =>
      smoke.reconcilePositions_silent.bind fun positionReport => silent_pure (orderReport, positionReport)
  exact hreconciled.bind fun _ => .get_bind fun _ => silent_pure _

theorem route_seenAs [DecimalContext] (intent : OrderIntent) :
    Program.SeenAs World.unrecorded (smoke.recorded.router.route intent) (smoke.router.route intent) := by
  refine Program.seenAs_get_bind fun world => .ite (Program.seenAs_pure _) (.ite (Program.seenAs_pure _) ?_)
  refine (silent_remote _ _).seenAs.bind fun filters => (Program.seenAs_ofExcept _).bind fun normalized => ?_
  refine Program.seenAs_get_bind fun world => .ite (Program.seenAs_pure _) (.ite ?_ (Program.seenAs_raise _))
  refine (Program.seenAs_ofExcept _).bind fun order => ?_
  exact (seenAs_remote_noting _ _ _).bind fun _ => Program.seenAs_pure _

theorem assign_seenAs (change : SmokeLocals → SmokeLocals) :
    Program.SeenAs (Prod.map World.unrecorded id)
      (assign change : Program (RecordedWorld σ × SmokeLocals) PyError Unit) (assign change) :=
  fun _ => rfl

theorem submitAndQuery_seenAs [DecimalContext] :
    Program.SeenAs (Prod.map World.unrecorded id) (smoke.recorded.submitAndQuery config)
      (smoke.submitAndQuery config) := by
  refine (smoke.route_seenAs config.intent).beside.bind fun routeResult => ?_
  split
  · exact (assign_seenAs _).bind fun _ => (seenAs_remote_noting _ _ _).beside.bind fun _ => assign_seenAs _
  · exact Program.seenAs_raise _

theorem cancelAndQuery_seenAs :
    Program.SeenAs (Prod.map World.unrecorded id) (smoke.recorded.cancelAndQuery config)
      (smoke.cancelAndQuery config) := by
  refine Program.seenAs_get_bind fun state => ?_
  obtain ⟨world, submitted, queryBefore, queryAfter⟩ := state
  cases submitted with
  | none => exact Program.seenAs_pure _
  | some order =>
    refine (seenAs_remote_noting _ _ _).beside.bind fun _ => ?_
    exact (seenAs_remote_noting _ _ _).beside.bind fun _ => assign_seenAs _

theorem orderLifecycle_seenAs [DecimalContext] :
    Program.SeenAs World.unrecorded (smoke.recorded.orderLifecycle config) (smoke.orderLifecycle config) :=
  ((smoke.submitAndQuery_seenAs config).ensure (smoke.cancelAndQuery_seenAs config)).withLocals _

theorem newSafeMode_seenAs :
    Program.SeenAs World.unrecorded (newSafeMode : Action (σ × List OrderCall) Unit) newSafeMode :=
  fun _ => rfl

-- The log is only watched: the run is the same without it.
theorem run_seenAs [DecimalContext] (acknowledge : Bool) :
    Program.SeenAs World.unrecorded (smoke.recorded.runTestnetReadWriteSmokeWithExchange config acknowledge)
      (smoke.runTestnetReadWriteSmokeWithExchange config acknowledge) := by
  refine .ite (Program.seenAs_raise _) ((smoke.preflight_silent config).seenAs.bind fun ready => ?_)
  refine newSafeMode_seenAs.bind fun _ => ?_
  refine (smoke.orderLifecycle_seenAs config).bind fun locals => ?_
  split
  · exact (smoke.report_silent config ready _ _ _).seenAs
  · exact Program.seenAs_raise _

end ReadWriteSmoke

end DualSleeve
