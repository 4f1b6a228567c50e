import DualSleeve.Exchange.BinanceRest.Theorems
import DualSleeve.Execution.Reconciliation

namespace DualSleeve

open Library

-- The openOrders endpoint answers with a list of order objects.
def RestState.OpenOrders (state : RestState) (items : List JsonObject) : Prop :=
  state.Answers "GET" "/fapi/v1/openOrders" [] (.list items)

-- What an order object says of itself.
def itemId (item : JsonObject) : String := ((item.get "clientOrderId").getD .null).str

def itemStatus (item : JsonObject) : OrderStatus := (BinanceRest.mappedStatus item).getD .unknown

def openIds (store : OrderStore) : List String := store.listOpenOrders.map OrderRecord.clientOrderId

-- The orders open locally are those of the payload, with the same statuses.
def SameOpenOrders (store : OrderStore) (items : List JsonObject) : Prop :=
  (∀ id, id ∈ openIds store ↔ id ∈ items.map itemId) ∧
    ∀ order ∈ store.listOpenOrders, ∀ item ∈ items,
      itemId item = order.clientOrderId → itemStatus item = order.status

-- The report is that of a comparison of the store with the payload, and an agreement of
-- the two leaves the safe mode alone.
structure FaithfulReport (world : World RestState) (items : List JsonObject)
    (report : ReconciliationReport) (safeMode : SafeModeController) : Prop where
  missing : report.missingOnExchange = sortedSet ((openIds world.orders).filter (· ∉ items.map itemId))
  unknown : report.unknownOnLocal = sortedSet ((items.map itemId).filter (· ∉ openIds world.orders))
  consistent : SameOpenOrders world.orders items →
    report.consistent = true ∧ safeMode = world.safeMode

theorem fetchOpenOrders_of_list {state : RestState} {items : List JsonObject}
    (h : state.OpenOrders items) : BinanceRest.adapter.fetchOpenOrders state = (.ok [], state) := by
  exact Program.bind_of_ok (BinanceRest.request_eq_ok.mpr ⟨h, rfl⟩)

-- With nothing fetched, every locally open order is missing.
theorem compareOrders_nil (orders : List OrderRecord) :
    compareOrders orders [] = {
      consistent := orders.isEmpty
      missingOnExchange := sortedSet (orders.map OrderRecord.clientOrderId)
      unknownOnLocal := []
      statusMismatches := [] } := by
  have hmissing : (orders.map OrderRecord.clientOrderId).filter (· ∉ ([] : List String)) =
      orders.map OrderRecord.clientOrderId := by
    simp
  have hcommon : (orders.map OrderRecord.clientOrderId).filter (· ∈ ([] : List String)) = [] := by
    simp
  have hempty : (sortedSet (orders.map OrderRecord.clientOrderId)).isEmpty = orders.isEmpty := by
    rw [Bool.eq_iff_iff, List.isEmpty_iff, List.isEmpty_iff, sortedSet_eq_nil_iff, List.map_eq_nil_iff]
  simp only [compareOrders, keyedDiff, KeyedDiff.isEmpty, List.map_nil, hmissing, hcommon, hempty,
    List.filter_nil]
  simp [sortedSet]

-- The reconciliation over the REST adapter is faithful exactly when no order is open on
-- the exchange: the orders of the payload are dropped.
theorem reconcile_faithful_iff (world : World RestState) (items : List JsonObject)
    (h : world.outside.OpenOrders items) :
    (∃ report, (reconcileOpenOrders BinanceRest.adapter world).1 = .ok report ∧
      FaithfulReport world items report (reconcileOpenOrders BinanceRest.adapter world).2.safeMode) ↔
        items = [] := by
  rw [reconcileOpenOrders_of_fetched (fetchOpenOrders_of_list h), compareOrders_nil]
  constructor
  · intro hf
    obtain ⟨report, hr, hfaithful⟩ := hf
    cases hr
    by_contra hne
    obtain ⟨item, hi⟩ := List.exists_mem_of_ne_nil items hne
    have hid : itemId item ∈ items.map itemId := List.mem_map_of_mem hi
    by_cases hopen : itemId item ∈ openIds world.orders
    · -- open on both sides, and yet reported missing
      have hm := (sortedSet_eq_iff.mp hfaithful.missing (itemId item)).mp hopen
      exact absurd hid (of_decide_eq_true (List.mem_filter.mp hm).2)
    · -- open on the exchange only, and not reported
      have hu : itemId item ∈ sortedSet ((items.map itemId).filter (· ∉ openIds world.orders)) :=
        mem_sortedSet.mpr (List.mem_filter.mpr ⟨hid, decide_eq_true hopen⟩)
      rw [← hfaithful.unknown] at hu
      cases hu
  · intro hnil
    subst hnil
    refine ⟨_, rfl, ?_, ?_, ?_⟩
    · simp [openIds]
    · simp [sortedSet]
    · intro hsame
      have hnone : world.orders.listOpenOrders = [] := by
        rw [← List.map_eq_nil_iff (f := OrderRecord.clientOrderId)]
        exact List.eq_nil_iff_forall_not_mem.mpr fun id hid => by simpa using (hsame.1 id).mp hid
      simp [hnone]

-- One resting order, open on both sides.
def restingOrder : OrderRecord where
  clientOrderId := "B_setup123_EN_20260101000000"
  intent := {
    sleeveId := .b
    symbol := "BTCUSDT"
    side := .buy
    orderType := .limit
    action := .entry
    quantity := 1 / 100
    price := some 100000 }
  status := .submitted

def restingItem : JsonObject :=
  [("orderId", .number "123"), ("clientOrderId", .text "B_setup123_EN_20260101000000"),
    ("symbol", .text "BTCUSDT"), ("status", .text "NEW"), ("executedQty", .text "0"),
    ("avgPrice", .text "0")]

def restingWorld (items : List JsonObject) : World RestState where
  outside := { transport := fun _ => .ok (.ok (.list items)), now := sampleClock }
  orders := OrderStore.upsertOrder (Table.empty orderSchema) restingOrder

theorem restingWorld_openOrders (items : List JsonObject) : (restingWorld items).outside.OpenOrders items := by
  have hcode : (200 : ℕ) < 400 := by decide
  exact ⟨.ok (.list items), rfl, hcode, rfl⟩

theorem reconcile_faithful_sample :
    (∃ report, (reconcileOpenOrders BinanceRest.adapter (restingWorld [])).1 = .ok report ∧
      FaithfulReport (restingWorld []) [] report
        (reconcileOpenOrders BinanceRest.adapter (restingWorld [])).2.safeMode) ↔
        ([] : List JsonObject) = [] :=
  reconcile_faithful_iff (restingWorld []) [] (restingWorld_openOrders [])

theorem reconcile_fails_on_resting_order :
    (restingWorld [restingItem]).outside.OpenOrders [restingItem] ∧
      (reconcileOpenOrders BinanceRest.adapter (restingWorld [restingItem])).2.safeMode.state = .safeMode ∧
      ¬∃ report, (reconcileOpenOrders BinanceRest.adapter (restingWorld [restingItem])).1 = .ok report ∧
        FaithfulReport (restingWorld [restingItem]) [restingItem] report
          (reconcileOpenOrders BinanceRest.adapter (restingWorld [restingItem])).2.safeMode := by
  refine ⟨restingWorld_openOrders [restingItem], by decide +kernel, ?_⟩
  intro h
  obtain ⟨report, hr, hfaithful⟩ := h
  have hreported : (reconcileOpenOrders BinanceRest.adapter (restingWorld [restingItem])).1.map
      ReconciliationReport.missingOnExchange = .ok ["B_setup123_EN_20260101000000"] := by
    decide +kernel
  have hmissing : sortedSet ((openIds (restingWorld [restingItem]).orders).filter
      (· ∉ [restingItem].map itemId)) = [] := by
    decide +kernel
  rw [hr, Except.map, hfaithful.missing, hmissing] at hreported
  cases hreported

end DualSleeve
