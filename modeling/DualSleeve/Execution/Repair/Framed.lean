import DualSleeve.Execution.Repair.Engine
import DualSleeve.Storage.OrderStore.Refinement

namespace DualSleeve

open Library

-- `SQLiteOrderStore`, as the engine uses it.
def SQLiteOrderStore.repairStore (str : ℚ → String) : RepairOrderStore ColumnStore where
  getOrder := SQLiteOrderStore.getOrder
  upsertOrder := SQLiteOrderStore.upsertOrder str

-- The texts of the decimals of a snapshot read back as these.
structure ExchangeOrderSnapshot.Legible (str : ℚ → String) (snapshot : ExchangeOrderSnapshot) : Prop where
  executedQuantity : decimal (str snapshot.executedQuantity) = .ok snapshot.executedQuantity
  averagePrice : ∀ price ∈ snapshot.averagePrice, decimal (str price) = .ok price

-- The row, with the four columns a repair may write.
def OrderColumns.repaired (row : OrderColumns) (str : ℚ → String) (snapshot : ExchangeOrderSnapshot) :
    OrderColumns :=
  { row with
    exchangeOrderId := snapshot.exchangeOrderId
    status := snapshot.status.value
    filledQuantity := str snapshot.executedQuantity
    averageFillPrice := snapshot.averagePrice.map str }

-- At most the row of this id was changed, and of it at most the four columns.
structure FramedRepair (before after : ColumnStore) (clientOrderId : String) : Prop where
  others : ∀ other, other ≠ clientOrderId → after.find? other = before.find? other
  absent : before.find? clientOrderId = none → after.find? clientOrderId = none
  row : ∀ old, before.find? clientOrderId = some old →
    ∃ row, after.find? clientOrderId = some row ∧
      row = { old with
        exchangeOrderId := row.exchangeOrderId
        status := row.status
        filledQuantity := row.filledQuantity
        averageFillPrice := row.averageFillPrice }

theorem FramedRepair.refl (store : ColumnStore) (clientOrderId : String) :
    FramedRepair store store clientOrderId where
  others _ _ := rfl
  absent h := h
  row old h := ⟨old, h, rfl⟩

-- The stored order agrees with the snapshot in these fields.
structure AgreesWith (order : OrderRecord) (snapshot : ExchangeOrderSnapshot) : Prop where
  status : order.status = snapshot.status
  exchangeOrderId : order.exchangeOrderId = snapshot.exchangeOrderId
  filledQuantity : order.filledQuantity = snapshot.executedQuantity
  averageFillPrice : order.averageFillPrice = snapshot.averagePrice

namespace SQLiteOrderStore

variable {str : ℚ → String} {store : ColumnStore} {clientOrderId : String} {localOrder : OrderRecord}
  {snapshot : ExchangeOrderSnapshot}

-- An order that is read has a row, whose columns are read as its fields.
theorem getOrder_eq_some (h : getOrder store clientOrderId = .ok (some localOrder)) :
    ∃ row, Table.find? store clientOrderId = some row ∧ orderOf row = .ok localOrder := by
  unfold getOrder at h
  cases hfind : Table.find? store clientOrderId with
  | none =>
    rw [hfind] at h
    cases h
  | some row =>
    rw [hfind] at h
    obtain ⟨order, horder, he⟩ := Raise.map_eq_ok.mp h
    cases he
    exact ⟨row, rfl, horder⟩

-- A row is read with its own id; with the columns a snapshot gives it, it is read as the
-- order the snapshot makes.
theorem orderOf_eq_ok {row : OrderColumns} (hrow : orderOf row = .ok localOrder) :
    localOrder.clientOrderId = row.clientOrderId ∧
      ∀ (str : ℚ → String) (snapshot : ExchangeOrderSnapshot), snapshot.Legible str →
        orderOf (row.repaired str snapshot) = .ok (applyRemoteSnapshot localOrder snapshot).2 := by
  obtain ⟨sleeveId, hsleeve, hrow⟩ := Raise.bind_eq_ok.mp hrow
  obtain ⟨side, hside, hrow⟩ := Raise.bind_eq_ok.mp hrow
  obtain ⟨orderType, htype, hrow⟩ := Raise.bind_eq_ok.mp hrow
  obtain ⟨action, haction, hrow⟩ := Raise.bind_eq_ok.mp hrow
  obtain ⟨quantity, hquantity, hrow⟩ := Raise.bind_eq_ok.mp hrow
  obtain ⟨price, hprice, hrow⟩ := Raise.bind_eq_ok.mp hrow
  obtain ⟨_, _, hrow⟩ := Raise.bind_eq_ok.mp hrow
  obtain ⟨_, _, hrow⟩ := Raise.bind_eq_ok.mp hrow
  obtain ⟨_, _, hrow⟩ := Raise.bind_eq_ok.mp hrow
  obtain rfl := Except.ok.inj hrow
  refine ⟨rfl, ?_⟩
  intro str snapshot hlegible
  unfold orderOf OrderColumns.repaired
  simp only [hsleeve, hside, htype, haction, hquantity, hprice, orderStatusOf_value,
    hlegible.executedQuantity, optionalDecimal_str hlegible.averagePrice, Raise.ok_bind]
  rfl

-- What a repair writes to the table: the four columns of the row of the order.
theorem find_upsert_repaired {row : OrderColumns} (hfind : Table.find? store clientOrderId = some row)
    (hrow : orderOf row = .ok localOrder) (other : String) :
    Table.find? (upsertOrder str store (applyRemoteSnapshot localOrder snapshot).2) other =
      if other = clientOrderId then some (row.repaired str snapshot) else Table.find? store other := by
  have hid : localOrder.clientOrderId = clientOrderId :=
    (orderOf_eq_ok hrow).1.trans (Table.key_of_find hfind)
  have hkey : columnSchema.key (columns str (applyRemoteSnapshot localOrder snapshot).2) = clientOrderId := hid
  rw [upsertOrder, Table.find_upsert, hkey, hfind]
  rfl

theorem framedRepair_upsert {row : OrderColumns} (hfind : Table.find? store clientOrderId = some row)
    (hrow : orderOf row = .ok localOrder) :
    FramedRepair store (upsertOrder str store (applyRemoteSnapshot localOrder snapshot).2) clientOrderId where
  others other hne := by rw [find_upsert_repaired hfind hrow, if_neg hne]
  absent hnone := by
    rw [hfind] at hnone
    cases hnone
  row old hold := by
    cases hfind.symm.trans hold
    exact ⟨_, by rw [find_upsert_repaired hfind hrow, if_pos rfl], rfl⟩

theorem getOrder_upsert_repaired {row : OrderColumns} (hfind : Table.find? store clientOrderId = some row)
    (hrow : orderOf row = .ok localOrder) (hlegible : snapshot.Legible str) :
    getOrder (upsertOrder str store (applyRemoteSnapshot localOrder snapshot).2) clientOrderId =
      .ok (some (applyRemoteSnapshot localOrder snapshot).2) := by
  rw [getOrder, find_upsert_repaired hfind hrow, if_pos rfl]
  dsimp only
  rw [(orderOf_eq_ok hrow).2 str snapshot hlegible]
  rfl

end SQLiteOrderStore

def RepairReason.GaveUp (reason : RepairReason) : Prop :=
  reason ∈ [RepairReason.localOrderMissing, .exchangeOrderMissing, .exchangeFetchFailed, .symbolMismatch]

namespace OrderRepairEngine

variable {σ : Type}

-- After a repair the stored order agrees with the snapshot, and the same answer again
-- leads to no further write.
structure Settled (engine : OrderRepairEngine σ ColumnStore) (clientOrderId : String)
    (snapshot : ExchangeOrderSnapshot) (store : ColumnStore) : Prop where
  agrees : ∃ order, engine.store.getOrder store clientOrderId = .ok (some order) ∧
    AgreesWith order snapshot
  again : ∀ (world : RepairWorld σ ColumnStore) (outside : σ), world.orders = store →
    engine.queryOrder snapshot.symbol clientOrderId world.outside = (.ok (some snapshot), outside) →
      ∃ message after, engine.repairByClientOrderId clientOrderId world =
          (.ok ⟨clientOrderId, .none, .consistent, message⟩, after) ∧
        after.orders = store ∧ after.safeMode = world.safeMode ∧
        writtenOrders after.calls = writtenOrders world.calls

theorem settled_of_agrees {engine : OrderRepairEngine σ ColumnStore} {clientOrderId : String}
    {snapshot : ExchangeOrderSnapshot} {store : ColumnStore} {order : OrderRecord}
    (hstored : engine.store.getOrder store clientOrderId = .ok (some order))
    (hsymbol : snapshot.symbol = order.intent.symbol) (hagrees : AgreesWith order snapshot) :
    engine.Settled clientOrderId snapshot store where
  agrees := ⟨order, hstored, hagrees⟩
  again world outside horders hquery := by
    have hfinds : engine.Finds world clientOrderId order snapshot outside :=
      ⟨by rw [horders, hstored], by rw [← hsymbol, hquery], hsymbol⟩
    have hsame : (applyRemoteSnapshot order snapshot).1 = false :=
      unchanged_iff.mpr ⟨hagrees.status, hagrees.exchangeOrderId, hagrees.filledQuantity,
        hagrees.averageFillPrice⟩
    have hrun := repair_of_finds hfinds
    rw [hsame, if_neg Bool.false_ne_true] at hrun
    refine ⟨_, _, hrun, horders, rfl, ?_⟩
    rw [RepairWorld.queried, writtenOrders_append]
    exact List.append_nil _

-- What a repair by a client order id came to, by the reason it recommends for.
structure Report (engine : OrderRepairEngine σ ColumnStore) (world : RepairWorld σ ColumnStore)
    (clientOrderId : String) (outcome : Except PyError RepairRecommendation)
    (after : RepairWorld σ ColumnStore) : Prop where
  framed : FramedRepair world.orders after.orders clientOrderId
  raised : ∀ exc, outcome = .error exc →
    engine.store.getOrder world.orders clientOrderId = .error exc ∧ after = world
  gaveUp : ∀ recommendation, outcome = .ok recommendation → recommendation.reason.GaveUp →
    engine.GivesUp world clientOrderId recommendation.reason ∧ after.orders = world.orders ∧
      writtenOrders after.calls = writtenOrders world.calls ∧
      ∃ given, after.safeMode = world.safeMode.enter given
  settled : ∀ recommendation, outcome = .ok recommendation → ¬recommendation.reason.GaveUp →
    after.safeMode = world.safeMode ∧
      ∃ localOrder snapshot outside, engine.Finds world clientOrderId localOrder snapshot outside ∧
        engine.Settled clientOrderId snapshot after.orders

theorem GivesUp.gaveUp {ρ : Type} {engine : OrderRepairEngine σ ρ} {world : RepairWorld σ ρ}
    {clientOrderId : String} {reason : RepairReason} (h : engine.GivesUp world clientOrderId reason) :
    reason.GaveUp := by
  cases h with
  | localMissing _ => simp [RepairReason.GaveUp]
  | fetchFailed _ _ => simp [RepairReason.GaveUp]
  | remoteMissing _ _ => simp [RepairReason.GaveUp]
  | symbolMismatch _ _ _ => simp [RepairReason.GaveUp]

-- The engine on the store of texts.
def sqlite (str : ℚ → String) (queryOrder : String → String → Remote σ (Option ExchangeOrderSnapshot)) :
    OrderRepairEngine σ ColumnStore where
  store := SQLiteOrderStore.repairStore str
  queryOrder := queryOrder

theorem report_of_finds {str : ℚ → String}
    {queryOrder : String → String → Remote σ (Option ExchangeOrderSnapshot)}
    {world after : RepairWorld σ ColumnStore} {clientOrderId : String} {localOrder : OrderRecord}
    {snapshot : ExchangeOrderSnapshot} {outside : σ} {recommendation : RepairRecommendation}
    (hfinds : (sqlite str queryOrder).Finds world clientOrderId localOrder snapshot outside)
    (hreason : ¬recommendation.reason.GaveUp)
    (hframed : FramedRepair world.orders after.orders clientOrderId)
    (hstored : SQLiteOrderStore.getOrder after.orders clientOrderId =
      .ok (some (applyRemoteSnapshot localOrder snapshot).2))
    (hsafe : after.safeMode = world.safeMode) :
    (sqlite str queryOrder).Report world clientOrderId (.ok recommendation) after where
  framed := hframed
  raised _ h := by cases h
  gaveUp given h hgave := by
    obtain rfl := Except.ok.inj h
    exact absurd hgave hreason
  settled _ _ _ :=
    ⟨hsafe, localOrder, snapshot, outside, hfinds,
      settled_of_agrees hstored hfinds.symbol ⟨rfl, rfl, rfl, rfl⟩⟩

-- Every repair reports so, whatever the rows of the store and whatever the exchange answers.
theorem repair_report (str : ℚ → String)
    (queryOrder : String → String → Remote σ (Option ExchangeOrderSnapshot))
    (world : RepairWorld σ ColumnStore) (clientOrderId : String)
    (hstr : ∀ localOrder snapshot outside,
      (sqlite str queryOrder).Finds world clientOrderId localOrder snapshot outside → snapshot.Legible str) :
    (sqlite str queryOrder).Report world clientOrderId
      ((sqlite str queryOrder).repairByClientOrderId clientOrderId world).1
      ((sqlite str queryOrder).repairByClientOrderId clientOrderId world).2 := by
  have hcases := repair_cases (sqlite str queryOrder) world clientOrderId
  generalize (sqlite str queryOrder).repairByClientOrderId clientOrderId world = result at hcases
  obtain ⟨outcome, after⟩ := result
  cases hcases with
  | unreadable hstored =>
    refine ⟨.refl _ _, ?_, ?_, ?_⟩
    · intro exc h
      obtain rfl := Except.error.inj h
      exact ⟨hstored, rfl⟩
    · intro _ h
      cases h
    · intro _ h
      cases h
  | gaveUp asked given hreason horders hsafe hwrites =>
    refine ⟨?_, ?_, ?_, ?_⟩
    · change FramedRepair world.orders asked.orders clientOrderId
      rw [horders]
      exact .refl _ _
    · intro _ h
      cases h
    · intro recommendation h _
      obtain rfl := Except.ok.inj h
      refine ⟨hreason, horders, hwrites, given, ?_⟩
      rw [← hsafe]
    · intro recommendation h hgave
      obtain rfl := Except.ok.inj h
      exact absurd hreason.gaveUp hgave
  | updated hfinds hchanged =>
    obtain ⟨row, hfind, hrow⟩ := SQLiteOrderStore.getOrder_eq_some hfinds.stored
    refine report_of_finds hfinds (by simp [RepairReason.GaveUp])
      (SQLiteOrderStore.framedRepair_upsert hfind hrow) ?_ rfl
    exact SQLiteOrderStore.getOrder_upsert_repaired hfind hrow (hstr _ _ _ hfinds)
  | consistent hfinds hsame =>
    refine report_of_finds hfinds (by simp [RepairReason.GaveUp]) (.refl _ _) ?_ rfl
    rw [applied_of_unchanged hsame]
    exact hfinds.stored

-- The texts of legible rows are a store that answers like the rows.
theorem simulates_coding (str : ℚ → String) :
    Simulates OrderStore.repairStore (SQLiteOrderStore.repairStore str)
      (fun typed texts => texts = (SQLiteOrderStore.coding str).table typed ∧
        ∀ row ∈ typed.rows, SQLiteOrderStore.Legible str row)
      (fun order => SQLiteOrderStore.Legible str order.toRow) where
  getOrder := by
    intro typed texts clientOrderId hrelated
    obtain ⟨rfl, hlegible⟩ := hrelated
    exact (SQLiteOrderStore.getOrder_coding hlegible clientOrderId).symm
  upsertOrder := by
    intro typed texts order hrelated hfit
    obtain ⟨rfl, hlegible⟩ := hrelated
    refine ⟨(SQLiteOrderStore.coding str).upsert_table typed order.toRow, ?_⟩
    exact Table.forall_rows_upsert (fun _ _ => SQLiteOrderStore.Legible.conflict) hlegible hfit

theorem legible_applied {str : ℚ → String} {store : OrderStore} {clientOrderId : String}
    {localOrder : OrderRecord} {snapshot : ExchangeOrderSnapshot}
    (hlegible : ∀ row ∈ store.rows, SQLiteOrderStore.Legible str row)
    (hstored : store.getOrder clientOrderId = some localOrder) (hsnapshot : snapshot.Legible str) :
    SQLiteOrderStore.Legible str (applyRemoteSnapshot localOrder snapshot).2.toRow := by
  obtain ⟨row, hfind, rfl⟩ := Option.map_eq_some_iff.mp hstored
  have hrow := hlegible row (Table.mem_of_find hfind)
  exact ⟨hrow.quantity, hrow.price, hsnapshot.executedQuantity, hsnapshot.averagePrice⟩

-- So a repair of typed orders is the repair of their texts.
theorem repair_texts {str : ℚ → String}
    {queryOrder : String → String → Remote σ (Option ExchangeOrderSnapshot)} {world : World σ}
    (hlegible : ∀ row ∈ world.orders.rows, SQLiteOrderStore.Legible str row) (clientOrderId : String)
    (hsnapshot : ∀ localOrder snapshot outside,
      Finds ⟨OrderStore.repairStore, queryOrder⟩ world.repairWorld clientOrderId localOrder snapshot outside →
        snapshot.Legible str) :
    (sqlite str queryOrder).repairByClientOrderId clientOrderId
        ⟨world.outside, (SQLiteOrderStore.coding str).table world.orders, world.safeMode, world.calls⟩ =
      ((DualSleeve.repairByClientOrderId queryOrder clientOrderId world).1,
        ⟨(DualSleeve.repairByClientOrderId queryOrder clientOrderId world).2.outside,
          (SQLiteOrderStore.coding str).table
            (DualSleeve.repairByClientOrderId queryOrder clientOrderId world).2.orders,
          (DualSleeve.repairByClientOrderId queryOrder clientOrderId world).2.safeMode,
          (DualSleeve.repairByClientOrderId queryOrder clientOrderId world).2.calls⟩) := by
  have hfit : ∀ localOrder snapshot outside,
      Finds ⟨OrderStore.repairStore, queryOrder⟩ world.repairWorld clientOrderId localOrder snapshot outside →
        SQLiteOrderStore.Legible str (applyRemoteSnapshot localOrder snapshot).2.toRow := by
    intro localOrder snapshot outside hfinds
    exact legible_applied hlegible (Except.ok.inj hfinds.stored) (hsnapshot _ _ _ hfinds)
  obtain ⟨outcome, after, after', hrun, hrun', htexts, _⟩ :=
    repair_simulates (simulates_coding str) ⟨rfl, hlegible⟩ clientOrderId hfit
  rw [repairByClientOrderId_eq] at hrun
  obtain ⟨rfl, rfl⟩ := Prod.mk.inj hrun
  rw [htexts] at hrun'
  exact hrun'

-- The order is stored as submitted, and the exchange has filled it.
def filledSnapshot : ExchangeOrderSnapshot where
  clientOrderId := "A_open_EN_20260101000000"
  symbol := "LABUSDT"
  status := .filled
  exchangeOrderId := some "123"
  executedQuantity := 100
  averagePrice := some (122 / 100)

def answerFilled (_symbol _clientOrderId : String) : Remote Unit (Option ExchangeOrderSnapshot) :=
  pure (some filledSnapshot)

def submittedStore : ColumnStore :=
  SQLiteOrderStore.afterUpserts SQLiteOrderStore.hundredthsText
    [SQLiteOrderStore.samplePlaced "A_open_EN_20260101000000" .submitted]

theorem repair_report_filled :
    (sqlite SQLiteOrderStore.hundredthsText answerFilled).Report ⟨(), submittedStore, {}, []⟩
      "A_open_EN_20260101000000"
      ((sqlite SQLiteOrderStore.hundredthsText answerFilled).repairByClientOrderId
        "A_open_EN_20260101000000" ⟨(), submittedStore, {}, []⟩).1
      ((sqlite SQLiteOrderStore.hundredthsText answerFilled).repairByClientOrderId
        "A_open_EN_20260101000000" ⟨(), submittedStore, {}, []⟩).2 := by
  apply repair_report
  intro localOrder snapshot outside hfinds
  obtain rfl : snapshot = filledSnapshot := by
    have hanswer := congrArg Prod.fst hfinds.query
    exact (Option.some.inj (Except.ok.inj hanswer)).symm
  refine ⟨by decide +kernel, ?_⟩
  intro price hprice
  obtain rfl := Option.some.inj hprice
  decide +kernel

end OrderRepairEngine

end DualSleeve
