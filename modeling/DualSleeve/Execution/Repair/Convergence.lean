import DualSleeve.Exchange.BinanceTestnet
import DualSleeve.Execution.Reconciliation
import DualSleeve.Execution.Repair.Engine

namespace DualSleeve

open Library

variable {σ : Type}

-- A repair with a snapshot of the order gives the stored order what the snapshot says,
-- and changes nothing else.
theorem repair_of_snapshot {queryOrder : String → String → Remote σ (Option ExchangeOrderSnapshot)}
    {clientOrderId : String} {world : World σ} {localOrder : OrderRecord} {snapshot : ExchangeOrderSnapshot}
    {outside : σ} (hlocal : world.orders.getOrder clientOrderId = some localOrder)
    (hquery : queryOrder localOrder.intent.symbol clientOrderId world.outside =
      (.ok (some snapshot), outside))
    (hsymbol : snapshot.symbol = localOrder.intent.symbol) :
    ∃ recommendation after,
      repairByClientOrderId queryOrder clientOrderId world = (.ok recommendation, after) ∧
      after.outside = outside ∧ after.safeMode = world.safeMode ∧
      ∀ id, after.orders.getOrder id =
        if id = clientOrderId then some (applyRemoteSnapshot localOrder snapshot).2
        else world.orders.getOrder id := by
  have hfinds : OrderRepairEngine.Finds ⟨OrderStore.repairStore, queryOrder⟩ world.repairWorld clientOrderId
      localOrder snapshot outside := ⟨congrArg Except.ok hlocal, hquery, hsymbol⟩
  have hrun := OrderRepairEngine.repair_of_finds hfinds
  rw [repairByClientOrderId_eq] at hrun
  by_cases hchanged : (applyRemoteSnapshot localOrder snapshot).1 = true
  · rw [if_pos hchanged] at hrun
    obtain ⟨houtcome, hafter⟩ := Prod.mk.inj hrun
    refine ⟨_, _, Prod.ext houtcome rfl, congrArg RepairWorld.outside hafter,
      congrArg RepairWorld.safeMode hafter, ?_⟩
    intro id
    have horders := congrArg (fun final => OrderStore.getOrder final.orders id) hafter
    exact horders.trans (OrderStore.getOrder_applied hlocal snapshot id)
  · rw [if_neg hchanged] at hrun
    obtain ⟨houtcome, hafter⟩ := Prod.mk.inj hrun
    refine ⟨_, _, Prod.ext houtcome rfl, congrArg RepairWorld.outside hafter,
      congrArg RepairWorld.safeMode hafter, ?_⟩
    intro id
    have horders := congrArg (fun final => OrderStore.getOrder final.orders id) hafter
    -- nothing differs from the snapshot
    rw [applied_of_unchanged (Bool.eq_false_iff.mpr hchanged), ← hlocal]
    split
    · rename_i he
      subst he
      exact horders
    · exact horders

-- A repair of each of the ids, in turn.
def repairEach (queryOrder : String → String → Remote σ (Option ExchangeOrderSnapshot)) :
    List String → Action σ (List RepairRecommendation)
  | [] => return []
  | clientOrderId :: ids => do
    let recommendation ← repairByClientOrderId queryOrder clientOrderId
    let recommendations ← repairEach queryOrder ids
    return recommendation :: recommendations

namespace BinanceUsdmTestnetAdapter

-- The store and the order book hold the same ids, with the same symbols.
structure Mirrors (world : World BinanceUsdmTestnetAdapter) : Prop where
  ids : ∀ id, (world.orders.getOrder id).isSome = (world.outside.orders.find? id).isSome
  symbols : ∀ id localOrder order, world.orders.getOrder id = some localOrder →
    world.outside.orders.find? id = some order → order.intent.symbol = localOrder.intent.symbol

-- Stored and on the book, an order has one status.
def Agrees (world : World BinanceUsdmTestnetAdapter) (id : String) : Prop :=
  ∀ localOrder order, world.orders.getOrder id = some localOrder →
    world.outside.orders.find? id = some order → localOrder.status = order.status

-- What repairs of `ids` came to: the orders repaired agree, and those that did before.
structure Repairs (ids : List String) (before after : World BinanceUsdmTestnetAdapter) : Prop where
  outside : after.outside = before.outside
  safeMode : after.safeMode = before.safeMode
  mirrors : Mirrors after
  agrees : ∀ id, id ∈ ids ∨ Agrees before id → Agrees after id

-- The repair finds the order on both sides, and so it never gives up.
theorem repair_repairs {world : World BinanceUsdmTestnetAdapter} (h : Mirrors world)
    {clientOrderId : String} (hstored : (world.orders.getOrder clientOrderId).isSome) :
    ∃ recommendation after,
      repairByClientOrderId queryOrder clientOrderId world = (.ok recommendation, after) ∧
      Repairs [clientOrderId] world after := by
  obtain ⟨localOrder, hlocal⟩ := Option.isSome_iff_exists.mp hstored
  obtain ⟨order, horder⟩ := Option.isSome_iff_exists.mp (h.ids clientOrderId ▸ hstored)
  have hquery : queryOrder localOrder.intent.symbol clientOrderId world.outside =
      (.ok (some order.snapshot), world.outside) := by
    change (Except.ok ((world.outside.orders.find? clientOrderId).map OrderRecord.snapshot),
      world.outside) = _
    rw [horder, Option.map_some]
  obtain ⟨recommendation, after, hrun, houtside, hsafe, hstore⟩ :=
    repair_of_snapshot hlocal hquery (h.symbols clientOrderId localOrder order hlocal horder)
  refine ⟨recommendation, after, hrun, houtside, hsafe, ⟨?_, ?_⟩, ?_⟩
  · intro id
    rw [hstore, houtside]
    by_cases he : id = clientOrderId
    · rw [if_pos he, he, horder]
      rfl
    · rw [if_neg he]
      exact h.ids id
  · intro id stored found hs hf
    rw [hstore] at hs
    rw [houtside] at hf
    by_cases he : id = clientOrderId
    · -- the symbol of the stored order stays
      rw [if_pos he] at hs
      cases hs
      exact h.symbols clientOrderId localOrder found hlocal (he ▸ hf)
    · rw [if_neg he] at hs
      exact h.symbols id stored found hs hf
  · intro id hid stored found hs hf
    rw [hstore] at hs
    rw [houtside] at hf
    by_cases he : id = clientOrderId
    · rw [if_pos he] at hs
      rw [he, horder] at hf
      cases hs
      cases hf
      rfl
    · rw [if_neg he] at hs
      cases hid with
      | inl hm => exact absurd (List.mem_singleton.mp hm) he
      | inr hagrees => exact hagrees stored found hs hf

-- A repair stores no order and takes none away, so the others can still be repaired.
theorem Repairs.isSome {ids : List String} {before after : World BinanceUsdmTestnetAdapter}
    (h : Repairs ids before after) (hbefore : Mirrors before) (id : String) :
    (after.orders.getOrder id).isSome = (before.orders.getOrder id).isSome := by
  rw [h.mirrors.ids, h.outside, hbefore.ids]

theorem repairEach_repairs {ids : List String} {world : World BinanceUsdmTestnetAdapter}
    (h : Mirrors world) (hstored : ∀ id ∈ ids, (world.orders.getOrder id).isSome) :
    ∃ recommendations after,
      repairEach queryOrder ids world = (.ok recommendations, after) ∧ Repairs ids world after := by
  induction ids generalizing world with
  | nil => exact ⟨[], world, rfl, rfl, rfl, h, fun id hid => hid.resolve_left List.not_mem_nil⟩
  | cons clientOrderId ids ih =>
    obtain ⟨recommendation, next, hstep, hnext⟩ :=
      repair_repairs h (hstored clientOrderId List.mem_cons_self)
    have hkept : ∀ id ∈ ids, (next.orders.getOrder id).isSome := by
      intro id hid
      rw [hnext.isSome h]
      exact hstored id (List.mem_cons_of_mem _ hid)
    obtain ⟨recommendations, after, hrun, hafter⟩ := ih hnext.mirrors hkept
    refine ⟨recommendation :: recommendations, after, ?_, ?_⟩
    · rw [repairEach, Program.bind_of_ok hstep, Program.bind_of_ok hrun]
      rfl
    · refine ⟨hafter.outside.trans hnext.outside, hafter.safeMode.trans hnext.safeMode,
        hafter.mirrors, ?_⟩
      intro id hid
      refine hafter.agrees id ?_
      cases hid with
      | inl hm =>
        cases List.mem_cons.mp hm with
        | inl he => exact .inr (hnext.agrees id (.inl (List.mem_singleton.mpr he)))
        | inr hm => exact .inl hm
      | inr hagrees => exact .inr (hnext.agrees id (.inr hagrees))

-- The ids the store lists as open: those whose order has an open status on the book.
theorem mem_openIds_iff {world : World BinanceUsdmTestnetAdapter} (h : Mirrors world)
    (hagrees : ∀ id, Agrees world id) {order : OrderRecord} (horder : order ∈ world.outside.orders.rows) :
    order.clientOrderId ∈ world.orders.listOpenOrders.map OrderRecord.clientOrderId ↔
      order.status ∈ openStatuses := by
  have hfind : world.outside.orders.find? order.clientOrderId = some order := Table.find_of_mem horder
  constructor
  · intro hm
    obtain ⟨localOrder, hl, hid⟩ := List.mem_map.mp hm
    obtain ⟨hget, hopen⟩ := OrderStore.mem_listOpenOrders_iff.mp hl
    rw [← hagrees order.clientOrderId localOrder order (hid ▸ hget) hfind]
    exact hopen
  · intro hopen
    have hstored : (world.orders.getOrder order.clientOrderId).isSome := by
      rw [h.ids, hfind]
      rfl
    obtain ⟨localOrder, hget⟩ := Option.isSome_iff_exists.mp hstored
    have hid := OrderStore.clientOrderId_of_getOrder hget
    have hstatus := hagrees order.clientOrderId localOrder order hget hfind
    have hl : localOrder ∈ world.orders.listOpenOrders :=
      OrderStore.mem_listOpenOrders_iff.mpr ⟨hid.symm ▸ hget, hstatus ▸ hopen⟩
    exact List.mem_map.mpr ⟨localOrder, hl, hid⟩

-- Where the statuses agree, what can still differ is that the book lists orders that are
-- no longer open.
theorem compareOrders_consistent_iff_open {world : World BinanceUsdmTestnetAdapter} (h : Mirrors world)
    (hagrees : ∀ id, Agrees world id) :
    (compareOrders world.orders.listOpenOrders world.outside.orders.rows).consistent = true ↔
      ∀ order ∈ world.outside.orders.rows, order.status ∈ openStatuses := by
  rw [compareOrders_consistent_iff]
  constructor
  · intro hc order horder
    exact (mem_openIds_iff h hagrees horder).mp
      ((hc.1 order.clientOrderId).mpr (List.mem_map_of_mem horder))
  · intro hopen
    have hbooked : ∀ localOrder ∈ world.orders.listOpenOrders, ∃ order ∈ world.outside.orders.rows,
        order.clientOrderId = localOrder.clientOrderId ∧ localOrder.status = order.status := by
      intro localOrder hl
      have hget := (OrderStore.mem_listOpenOrders_iff.mp hl).1
      have hfound : (world.outside.orders.find? localOrder.clientOrderId).isSome := by
        rw [← h.ids, hget]
        rfl
      obtain ⟨order, hfind⟩ := Option.isSome_iff_exists.mp hfound
      exact ⟨order, Table.mem_of_find hfind, Table.key_of_find hfind,
        hagrees localOrder.clientOrderId localOrder order hget hfind⟩
    refine ⟨?_, ?_⟩
    · intro id
      constructor
      · intro hm
        obtain ⟨localOrder, hl, rfl⟩ := List.mem_map.mp hm
        obtain ⟨order, horder, hid, _⟩ := hbooked localOrder hl
        exact hid ▸ List.mem_map_of_mem horder
      · intro hm
        obtain ⟨order, horder, rfl⟩ := List.mem_map.mp hm
        exact (mem_openIds_iff h hagrees horder).mpr (hopen order horder)
    · intro id hm
      obtain ⟨localOrder, hl, rfl⟩ := List.mem_map.mp hm
      obtain ⟨order, horder, hid, hstatus⟩ := hbooked localOrder hl
      exact statusesMismatch_of_mem (OrderStore.nodup_listOpenOrders _) world.outside.orders.nodup
        hl horder hid hstatus

-- `repair_by_client_order_id` once for every id, and then `reconcile_open_orders`.
def repairAndReconcile (ids : List String) : Action BinanceUsdmTestnetAdapter ReconciliationReport := do
  let _ ← repairEach queryOrder ids
  reconcileOpenOrders exchange

-- The reconciliation finds nothing, and the safe mode was left alone.
def Converges (ids : List String) (world : World BinanceUsdmTestnetAdapter) : Prop :=
  ∃ report, (repairAndReconcile ids world).1 = .ok report ∧ report.consistent = true ∧
    (repairAndReconcile ids world).2.safeMode = world.safeMode

-- The orders of the book that are no longer open are fetched as open ones all the same,
-- so a repair converges exactly when there are none.
theorem repair_converges_iff (ids : List String) (world : World BinanceUsdmTestnetAdapter)
    (hlocal : ∀ id, id ∈ Table.keys world.orders ↔ id ∈ ids)
    (hbook : ∀ id, id ∈ world.outside.orders.keys ↔ id ∈ ids)
    (hsymbols : ∀ id localOrder order, world.orders.getOrder id = some localOrder →
      world.outside.orders.find? id = some order → order.intent.symbol = localOrder.intent.symbol) :
    Converges ids world ↔ ∀ order ∈ world.outside.orders.rows, order.status ∈ openStatuses := by
  have hstored : ∀ id, (world.orders.getOrder id).isSome ↔ id ∈ ids := by
    intro id
    rw [← hlocal, Table.mem_keys_iff, OrderStore.getOrder, Option.isSome_map, Option.isSome_iff_exists]
  have hmirrors : Mirrors world := by
    refine ⟨?_, hsymbols⟩
    intro id
    rw [Bool.eq_iff_iff, hstored, ← hbook, Table.mem_keys_iff, Option.isSome_iff_exists]
  obtain ⟨recommendations, after, hrun, hafter⟩ :=
    repairEach_repairs hmirrors fun id hid => (hstored id).mpr hid
  -- an id that was not repaired is that of no order
  have hagrees : ∀ id, Agrees after id := by
    intro id
    by_cases hid : id ∈ ids
    · exact hafter.agrees id (.inl hid)
    · intro localOrder order hget _
      have hsome : (after.orders.getOrder id).isSome := by
        rw [hget]
        rfl
      rw [hafter.isSome hmirrors] at hsome
      exact absurd ((hstored id).mp hsome) hid
  have hfetch : exchange.fetchOpenOrders after.outside = (.ok after.outside.orders.rows, after.outside) := rfl
  have hwhole : repairAndReconcile ids world = reconcileOpenOrders exchange after := Program.bind_of_ok hrun
  unfold Converges
  rw [hwhole, reconcileOpenOrders_of_fetched hfetch, ← hafter.outside,
    ← compareOrders_consistent_iff_open hafter.mirrors hagrees]
  constructor
  · intro h
    obtain ⟨report, hr, hc, _⟩ := h
    cases hr
    exact hc
  · intro hc
    refine ⟨_, rfl, hc, ?_⟩
    rw [hc, World.settled_true]
    exact hafter.safeMode

-- One order, submitted locally; the book has it in the given status.
def bookedOrder (status : OrderStatus) : OrderRecord where
  clientOrderId := "B_setup123_EN_20260101000000"
  intent := {
    sleeveId := .b
    symbol := "BTCUSDT"
    side := .buy
    orderType := .limit
    action := .entry
    quantity := 1 / 100
    price := some 100000 }
  status

def bookedWorld (status : OrderStatus) : World BinanceUsdmTestnetAdapter where
  outside := { orders := (Table.empty bookSchema).upsert (bookedOrder status) }
  orders := OrderStore.upsertOrder (Table.empty orderSchema) (bookedOrder .submitted)

theorem bookedWorld_symbols (status : OrderStatus) (id : String) (localOrder order : OrderRecord)
    (hlocal : (bookedWorld status).orders.getOrder id = some localOrder)
    (horder : (bookedWorld status).outside.orders.find? id = some order) :
    order.intent.symbol = localOrder.intent.symbol := by
  obtain ⟨row, hrow, rfl⟩ := Option.map_eq_some_iff.mp hlocal
  have hl : row = (bookedOrder .submitted).toRow := List.mem_singleton.mp (Table.mem_of_find hrow)
  have ho : order = bookedOrder status := List.mem_singleton.mp (Table.mem_of_find horder)
  rw [hl, ho]
  rfl

theorem repair_converges_sample :
    Converges ["B_setup123_EN_20260101000000"] (bookedWorld .partiallyFilled) := by
  refine (repair_converges_iff _ _ ?_ ?_ (bookedWorld_symbols _)).mpr ?_
  · exact fun id => Iff.rfl
  · exact fun id => Iff.rfl
  · decide +kernel

-- Filled on the exchange, the order is repaired, and then reported unknown locally.
theorem repair_of_filled_order_does_not_converge :
    (∀ id, id ∈ Table.keys (bookedWorld .filled).orders ↔ id ∈ ["B_setup123_EN_20260101000000"]) ∧
      (∀ id, id ∈ (bookedWorld .filled).outside.orders.keys ↔ id ∈ ["B_setup123_EN_20260101000000"]) ∧
      (∀ id localOrder order, (bookedWorld .filled).orders.getOrder id = some localOrder →
        (bookedWorld .filled).outside.orders.find? id = some order →
        order.intent.symbol = localOrder.intent.symbol) ∧
      (repairAndReconcile ["B_setup123_EN_20260101000000"] (bookedWorld .filled)).2.safeMode.state =
        .safeMode ∧
      ¬Converges ["B_setup123_EN_20260101000000"] (bookedWorld .filled) := by
  refine ⟨fun id => Iff.rfl, fun id => Iff.rfl, bookedWorld_symbols _, by decide +kernel, ?_⟩
  intro h
  obtain ⟨report, hr, hc, _⟩ := h
  have hreported : (repairAndReconcile ["B_setup123_EN_20260101000000"] (bookedWorld .filled)).1.map
      ReconciliationReport.consistent = .ok false := by
    decide +kernel
  rw [hr, Except.map, hc] at hreported
  cases hreported

end BinanceUsdmTestnetAdapter

end DualSleeve
