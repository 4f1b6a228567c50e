import DualSleeve.Execution.Repair.Engine
import DualSleeve.Library.Run

namespace DualSleeve

open Library

variable {σ : Type} {queryOrder : String → String → Remote σ (Option ExchangeOrderSnapshot)}
  {clientOrderId : String} {world : World σ}

-- The snapshot is one of the stored order: of its client order id and its symbol, and of the
-- exchange order id where the row has one already.
structure Describes (snapshot : ExchangeOrderSnapshot) (clientOrderId : String) (localOrder : OrderRecord) :
    Prop where
  clientOrderId : snapshot.clientOrderId = clientOrderId
  symbol : snapshot.symbol = localOrder.intent.symbol
  exchangeOrderId : ∀ id, localOrder.exchangeOrderId = some id → snapshot.exchangeOrderId = some id

-- The exchange answers the query for a stored order with this snapshot.
def AnsweredWith (queryOrder : String → String → Remote σ (Option ExchangeOrderSnapshot))
    (clientOrderId : String) (world : World σ) (localOrder : OrderRecord)
    (snapshot : ExchangeOrderSnapshot) : Prop :=
  world.orders.getOrder clientOrderId = some localOrder ∧
    (queryOrder localOrder.intent.symbol clientOrderId world.outside).1 = .ok (some snapshot)

-- The exchange answers the query with a snapshot of the stored order.
def AnsweredOwn (queryOrder : String → String → Remote σ (Option ExchangeOrderSnapshot))
    (clientOrderId : String) (world : World σ) (localOrder : OrderRecord)
    (snapshot : ExchangeOrderSnapshot) : Prop :=
  AnsweredWith queryOrder clientOrderId world localOrder snapshot ∧
    Describes snapshot clientOrderId localOrder

-- What a repair leaves, given the answer: what does not describe the stored order is refused
-- and enters the safe mode, and a row is written from a snapshot that describes it only.
structure RespectsIdentity (queryOrder : String → String → Remote σ (Option ExchangeOrderSnapshot))
    (clientOrderId : String) (world after : World σ) : Prop where
  refuses : (¬∃ localOrder snapshot, AnsweredOwn queryOrder clientOrderId world localOrder snapshot) →
    after.orders = world.orders ∧ ∃ reason, after.safeMode = world.safeMode.enter reason
  writes : ∀ id, after.orders.getOrder id = world.orders.getOrder id ∨
    id = clientOrderId ∧ ∃ localOrder snapshot,
      AnsweredOwn queryOrder clientOrderId world localOrder snapshot ∧
        after.orders.getOrder id = some (applyRemoteSnapshot localOrder snapshot).2

-- A snapshot of the symbol of the stored order is one of that order.
def AnswersOwn (queryOrder : String → String → Remote σ (Option ExchangeOrderSnapshot))
    (clientOrderId : String) (world : World σ) : Prop :=
  ∀ localOrder snapshot, AnsweredWith queryOrder clientOrderId world localOrder snapshot →
    snapshot.symbol = localOrder.intent.symbol → Describes snapshot clientOrderId localOrder

theorem AnsweredWith.unique {localOrder other : OrderRecord} {snapshot given : ExchangeOrderSnapshot}
    (h : AnsweredWith queryOrder clientOrderId world localOrder snapshot)
    (hother : AnsweredWith queryOrder clientOrderId world other given) :
    other = localOrder ∧ given = snapshot := by
  obtain rfl := Option.some.inj (hother.1.symm.trans h.1)
  exact ⟨rfl, Option.some.inj (Except.ok.inj (hother.2.symm.trans h.2))⟩

-- The answer, as the engine finds it.
theorem AnsweredWith.finds {localOrder : OrderRecord} {snapshot : ExchangeOrderSnapshot}
    (h : AnsweredWith queryOrder clientOrderId world localOrder snapshot)
    (hsymbol : snapshot.symbol = localOrder.intent.symbol) :
    OrderRepairEngine.Finds ⟨OrderStore.repairStore, queryOrder⟩ world.repairWorld clientOrderId localOrder
      snapshot (queryOrder localOrder.intent.symbol clientOrderId world.outside).2 where
  stored := congrArg Except.ok h.1
  query := Prod.ext h.2 rfl
  symbol := hsymbol

theorem answeredWith_of_finds {localOrder : OrderRecord} {snapshot : ExchangeOrderSnapshot} {outside : σ}
    (h : OrderRepairEngine.Finds ⟨OrderStore.repairStore, queryOrder⟩ world.repairWorld clientOrderId
      localOrder snapshot outside) :
    AnsweredWith queryOrder clientOrderId world localOrder snapshot :=
  ⟨Except.ok.inj h.stored, congrArg Prod.fst h.query⟩

-- A repair that finds a snapshot of the symbol does not enter the safe mode, so it refuses
-- what it has to only if the snapshot describes the order.
theorem refuses_iff_of_finds {localOrder : OrderRecord} {snapshot : ExchangeOrderSnapshot} {outside : σ}
    {orders : OrderStore} {safeMode : SafeModeController}
    (hfinds : OrderRepairEngine.Finds ⟨OrderStore.repairStore, queryOrder⟩ world.repairWorld clientOrderId
      localOrder snapshot outside)
    (hsafe : safeMode = world.safeMode) :
    ((¬∃ localOrder snapshot, AnsweredOwn queryOrder clientOrderId world localOrder snapshot) →
      orders = world.orders ∧ ∃ reason, safeMode = world.safeMode.enter reason) ↔
      AnswersOwn queryOrder clientOrderId world := by
  have hanswered := answeredWith_of_finds hfinds
  constructor
  · intro h other given hother _
    obtain ⟨rfl, rfl⟩ := hanswered.unique hother
    by_contra hforeign
    have hnone : ¬∃ localOrder snapshot, AnsweredOwn queryOrder clientOrderId world localOrder snapshot := by
      intro hown
      obtain ⟨_, _, hsome, hdescribes⟩ := hown
      obtain ⟨rfl, rfl⟩ := hanswered.unique hsome
      exact hforeign hdescribes
    obtain ⟨_, reason, hentered⟩ := h hnone
    exact SafeModeController.enter_ne world.safeMode reason (hentered.symm.trans hsafe)
  · intro hown hnone
    exact absurd ⟨localOrder, snapshot, hanswered, hown _ _ hanswered hfinds.symbol⟩ hnone

theorem refuses_iff :
    ((¬∃ localOrder snapshot, AnsweredOwn queryOrder clientOrderId world localOrder snapshot) →
      (repairByClientOrderId queryOrder clientOrderId world).2.orders = world.orders ∧
        ∃ reason, (repairByClientOrderId queryOrder clientOrderId world).2.safeMode =
          world.safeMode.enter reason) ↔
      AnswersOwn queryOrder clientOrderId world := by
  have hcases := repairByClientOrderId_cases queryOrder clientOrderId world
  generalize repairByClientOrderId queryOrder clientOrderId world = result at hcases ⊢
  obtain ⟨outcome, after⟩ := result
  dsimp only at hcases ⊢
  have horders : after.orders = after.repairWorld.orders := rfl
  have hsafe : after.safeMode = after.repairWorld.safeMode := rfl
  rw [horders, hsafe]
  generalize after.repairWorld = final at hcases ⊢
  cases hcases with
  | unreadable hstored => cases hstored
  | gaveUp asked given hreason hkept hentered _ =>
    refine iff_of_true ?_ ?_
    · intro _
      exact ⟨hkept, given, congrArg (·.enter given) hentered⟩
    · intro localOrder snapshot hanswered hsymbol
      exact absurd (hanswered.finds hsymbol) hreason.not_finds
  | updated hfinds _ => exact refuses_iff_of_finds hfinds rfl
  | consistent hfinds _ => exact refuses_iff_of_finds hfinds rfl

theorem writes_of_answersOwn (hown : AnswersOwn queryOrder clientOrderId world) (id : String) :
    (repairByClientOrderId queryOrder clientOrderId world).2.orders.getOrder id = world.orders.getOrder id ∨
      id = clientOrderId ∧ ∃ localOrder snapshot,
        AnsweredOwn queryOrder clientOrderId world localOrder snapshot ∧
          (repairByClientOrderId queryOrder clientOrderId world).2.orders.getOrder id =
            some (applyRemoteSnapshot localOrder snapshot).2 := by
  have hrepaired := repair_repaired queryOrder clientOrderId world
  generalize (repairByClientOrderId queryOrder clientOrderId world).2 = after at hrepaired ⊢
  cases hrepaired with
  | kept _ horders _ => exact .inl (by rw [horders])
  | updated localOrder hlocal snapshot outside hquery hsymbol _ horders =>
    have hanswered : AnsweredWith queryOrder clientOrderId world localOrder snapshot :=
      ⟨hlocal, congrArg Prod.fst hquery⟩
    rw [horders, OrderStore.getOrder_applied hlocal]
    by_cases hid : id = clientOrderId
    · rw [if_pos hid]
      exact .inr ⟨hid, localOrder, snapshot, ⟨hanswered, hown _ _ hanswered hsymbol⟩, rfl⟩
    · rw [if_neg hid]
      exact .inl rfl

theorem respectsIdentity_iff :
    RespectsIdentity queryOrder clientOrderId world (repairByClientOrderId queryOrder clientOrderId world).2 ↔
      AnswersOwn queryOrder clientOrderId world :=
  ⟨fun h => refuses_iff.mp h.refuses, fun h => ⟨refuses_iff.mpr h, writes_of_answersOwn h⟩⟩

-- A repair that is asked for, and how the exchange answers while it runs.
structure RepairRequest (σ : Type) where
  clientOrderId : String
  queryOrder : String → String → Remote σ (Option ExchangeOrderSnapshot)

def repairStep (world : World σ) (request : RepairRequest σ) : World σ :=
  (repairByClientOrderId request.queryOrder request.clientOrderId world).2

-- The row of this id is that of this exchange order.
def BoundTo (id exchangeOrderId : String) (world : World σ) : Prop :=
  ∃ order, world.orders.getOrder id = some order ∧ order.exchangeOrderId = some exchangeOrderId

-- A write from a snapshot that describes the row leaves it with its exchange order.
theorem boundTo_step {after : World σ} {id exchangeOrderId : String}
    (hbound : BoundTo id exchangeOrderId world)
    (hrespects : RespectsIdentity queryOrder clientOrderId world after) :
    BoundTo id exchangeOrderId after := by
  obtain ⟨order, hstored, hexchange⟩ := hbound
  cases hrespects.writes id with
  | inl hkept => exact ⟨order, hkept.trans hstored, hexchange⟩
  | inr hwritten =>
    obtain ⟨rfl, localOrder, snapshot, ⟨hanswered, hdescribes⟩, hrow⟩ := hwritten
    obtain rfl := Option.some.inj (hstored.symm.trans hanswered.1)
    exact ⟨_, hrow, hdescribes.exchangeOrderId exchangeOrderId hexchange⟩

-- Every repair of the run respects the identity of its order, and a row that belongs to an
-- exchange order at some point belongs to it from then on.
def ObeysIdentity (world : World σ) (requests : List (RepairRequest σ)) : Prop :=
  Run.Along repairStep (fun reached request =>
      RespectsIdentity request.queryOrder request.clientOrderId reached (repairStep reached request))
    world requests ∧
    ∀ first rest, requests = first ++ rest → ∀ id exchangeOrderId,
      BoundTo id exchangeOrderId (first.foldl repairStep world) →
        Run.Always repairStep (BoundTo id exchangeOrderId) (first.foldl repairStep world) rest

-- A run of repairs respects identity exactly when the exchange answers each query with the
-- stored order itself, or with another symbol, or not at all.
theorem obeysIdentity_iff (world : World σ) (requests : List (RepairRequest σ)) :
    ObeysIdentity world requests ↔
      Run.Along repairStep (fun reached request =>
        AnswersOwn request.queryOrder request.clientOrderId reached) world requests := by
  rw [← Run.along_congr (fun _ _ => respectsIdentity_iff)]
  constructor
  · intro h
    exact h.1
  · intro h
    refine ⟨h, ?_⟩
    intro first rest hrequests id exchangeOrderId hbound
    subst hrequests
    exact Run.always_of_step (fun _ _ hb hrespects => boundTo_step hb hrespects) hbound h.rest

-- A row of the exchange order 7, with nothing filled.
def boundOrder : OrderRecord where
  clientOrderId := "B_setup123_EN_20260101000000"
  intent := {
    sleeveId := .b
    symbol := "BTCUSDT"
    side := .buy
    orderType := .limit
    action := .entry
    quantity := 1
    price := some 100 }
  status := .submitted
  exchangeOrderId := some "7"

def boundWorld : World Unit where
  outside := ()
  orders := OrderStore.upsertOrder (Table.empty orderSchema) boundOrder

-- Asked for that order, the exchange answers with another one of the symbol, which is filled.
def foreignAnswer : RepairRequest Unit where
  clientOrderId := "B_setup123_EN_20260101000000"
  queryOrder _ _ := pure (some {
    clientOrderId := "A_setup456_EN_20260101000000"
    symbol := "BTCUSDT"
    status := .filled
    exchangeOrderId := some "8"
    executedQuantity := 5
    averagePrice := some 99 })

theorem repair_copies_foreign_fills :
    BoundTo "B_setup123_EN_20260101000000" "7" boundWorld ∧
      (repairStep boundWorld foreignAnswer).orders.getOrder "B_setup123_EN_20260101000000" =
        some { boundOrder with
          status := .filled
          exchangeOrderId := some "8"
          filledQuantity := 5
          averageFillPrice := some 99 } ∧
      (repairStep boundWorld foreignAnswer).safeMode = boundWorld.safeMode ∧
      ¬ObeysIdentity boundWorld [foreignAnswer] := by
  have hbound : BoundTo "B_setup123_EN_20260101000000" "7" boundWorld :=
    ⟨boundOrder, by decide +kernel, rfl⟩
  have hrow : (repairStep boundWorld foreignAnswer).orders.getOrder "B_setup123_EN_20260101000000" =
      some { boundOrder with
        status := .filled
        exchangeOrderId := some "8"
        filledQuantity := 5
        averageFillPrice := some 99 } := by
    decide +kernel
  refine ⟨hbound, hrow, by decide +kernel, ?_⟩
  intro h
  obtain ⟨order, hstored, hexchange⟩ := boundTo_step hbound h.1.1
  obtain rfl := Option.some.inj (hrow.symm.trans hstored)
  exact absurd hexchange (by decide)

end DualSleeve
