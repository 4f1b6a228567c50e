import DualSleeve.Storage.OrderStore.Columns

namespace DualSleeve

open Library

-- What was written of an order id, in order.
def writesOf (orders : List OrderRecord) (id : String) : List OrderRecord :=
  orders.filter (·.clientOrderId = id)

-- The map the store stands for: an id holds the intent it was first written with, and the
-- status and fill it was last written with.
def writtenOrder (orders : List OrderRecord) (id : String) : Option OrderRecord :=
  (writesOf orders id).head?.bind fun first =>
    (writesOf orders id).getLast?.map fun last => { last with intent := first.intent.persisted }

theorem writesOf_eq_nil_iff {orders : List OrderRecord} {id : String} :
    writesOf orders id = [] ↔ id ∉ orders.map OrderRecord.clientOrderId := by
  unfold writesOf
  rw [List.filter_eq_nil_iff, List.mem_map, not_exists]
  simp only [decide_eq_true_eq, not_and]

theorem clientOrderId_of_mem_writesOf {orders : List OrderRecord} {id : String} {order : OrderRecord}
    (h : order ∈ writesOf orders id) : order.clientOrderId = id := by
  simpa using (List.mem_filter.mp h).2

theorem writtenOrder_of_writes {orders : List OrderRecord} {id : String} {first last : OrderRecord}
    (hfirst : (writesOf orders id).head? = some first) (hlast : (writesOf orders id).getLast? = some last) :
    writtenOrder orders id = some { last with intent := first.intent.persisted } := by
  rw [writtenOrder, hfirst, hlast]
  rfl

-- An id that was written has a first and a last write.
theorem exists_writes {orders : List OrderRecord} {id : String}
    (h : id ∈ orders.map OrderRecord.clientOrderId) :
    ∃ first last, (writesOf orders id).head? = some first ∧ (writesOf orders id).getLast? = some last := by
  have hne : writesOf orders id ≠ [] := fun hnil => writesOf_eq_nil_iff.mp hnil h
  exact ⟨_, _, List.head?_eq_some_head hne, List.getLast?_eq_some_getLast hne⟩

theorem writtenOrder_eq_none_iff {orders : List OrderRecord} {id : String} :
    writtenOrder orders id = none ↔ id ∉ orders.map OrderRecord.clientOrderId := by
  constructor
  · intro h hmem
    obtain ⟨first, last, hfirst, hlast⟩ := exists_writes hmem
    rw [writtenOrder_of_writes hfirst hlast] at h
    cases h
  · intro h
    rw [writtenOrder, writesOf_eq_nil_iff.mpr h]
    rfl

-- A written order has its own id, and the status of its last write.
theorem writtenOrder_eq_some {orders : List OrderRecord} {id : String} {order : OrderRecord}
    (h : writtenOrder orders id = some order) :
    order.clientOrderId = id ∧
      ∃ last, (writesOf orders id).getLast? = some last ∧ last.status = order.status := by
  have hmem : id ∈ orders.map OrderRecord.clientOrderId := by
    by_contra hnot
    rw [writtenOrder_eq_none_iff.mpr hnot] at h
    cases h
  obtain ⟨first, last, hfirst, hlast⟩ := exists_writes hmem
  have hid := clientOrderId_of_mem_writesOf (List.mem_of_getLast? hlast)
  rw [writtenOrder_of_writes hfirst hlast] at h
  cases h
  exact ⟨hid, last, hlast, rfl⟩

-- The typed table, written from empty.
def typedAfter (orders : List OrderRecord) : OrderStore :=
  Table.upsertAll (Table.empty orderSchema) (orders.map OrderRecord.toRow)

theorem getOrder_typedAfter (orders : List OrderRecord) (id : String) :
    (typedAfter orders).getOrder id = writtenOrder orders id := by
  have hwrites : (orders.map OrderRecord.toRow).filter (orderSchema.key · = id) =
      (writesOf orders id).map OrderRecord.toRow := List.filter_map ..
  unfold OrderStore.getOrder typedAfter
  rw [Table.find_upsertAll_empty (fun _ _ _ => rfl) (fun _ => rfl), hwrites, List.head?_map,
    List.getLast?_map]
  by_cases hmem : id ∈ orders.map OrderRecord.clientOrderId
  · obtain ⟨first, last, hfirst, hlast⟩ := exists_writes hmem
    have hid : first.clientOrderId = last.clientOrderId :=
      (clientOrderId_of_mem_writesOf (List.mem_of_mem_head? hfirst)).trans
        (clientOrderId_of_mem_writesOf (List.mem_of_getLast? hlast)).symm
    rw [writtenOrder_of_writes hfirst hlast, hfirst, hlast]
    simp only [Option.map_some, Option.bind_some, rowToOrder_conflict, rowToOrder_toRow]
    change some { last with clientOrderId := first.clientOrderId, intent := first.intent.persisted } = _
    rw [hid]
  · rw [writtenOrder_eq_none_iff.mpr hmem, writesOf_eq_nil_iff.mpr hmem]
    rfl

namespace SQLiteOrderStore

variable {str : ℚ → String}

-- The decimals of these orders have texts that the constructor reads back.
def RoundTrips (str : ℚ → String) (orders : List OrderRecord) : Prop :=
  ∀ order ∈ orders, Legible str order.toRow

theorem legible_rows {orders : List OrderRecord} (h : RoundTrips str orders) :
    ∀ row ∈ (typedAfter orders).rows, Legible str row := by
  have hrows : ∀ row ∈ orders.map OrderRecord.toRow, Legible str row := by
    intro row hrow
    obtain ⟨order, horder, rfl⟩ := List.mem_map.mp hrow
    exact h order horder
  have hall : ∀ (rows : List OrderRow) (table : OrderStore), (∀ row ∈ rows, Legible str row) →
      (∀ row ∈ table.rows, Legible str row) → ∀ row ∈ (table.upsertAll rows).rows, Legible str row := by
    intro rows
    induction rows with
    | nil => exact fun _ _ htable => htable
    | cons row rows ih =>
      intro table hwritten htable
      exact ih _ (fun other ho => hwritten other (List.mem_cons_of_mem _ ho))
        (Table.forall_rows_upsert (fun _ _ => Legible.conflict) htable (hwritten row List.mem_cons_self))
  exact hall _ _ hrows (by intro row hrow; cases hrow)

-- The texts in the table are those of the typed rows.
theorem afterUpserts_eq (str : ℚ → String) (orders : List OrderRecord) :
    afterUpserts str orders = (coding str).table (typedAfter orders) := by
  have hfold : afterUpserts str orders = Table.upsertAll ((coding str).table (Table.empty orderSchema))
      ((orders.map OrderRecord.toRow).map (coding str).encode) := by
    unfold afterUpserts Table.upsertAll
    rw [List.map_map, List.foldl_map]
    rfl
  rw [hfold, Encoding.upsertAll_table]
  rfl

theorem getOrder_coding {store : OrderStore} (h : ∀ row ∈ store.rows, Legible str row) (id : String) :
    getOrder ((coding str).table store) id = .ok (store.getOrder id) := by
  unfold getOrder OrderStore.getOrder
  rw [Encoding.find_table]
  cases hfind : Table.find? store id with
  | none => rfl
  | some row =>
    change (orderOf ((coding str).encode row)).map some = .ok (some (rowToOrder row))
    rw [orderOf_encode (h row (Table.mem_of_find hfind))]
    rfl

theorem listOpenOrders_coding {store : OrderStore} (h : ∀ row ∈ store.rows, Legible str row) :
    listOpenOrders ((coding str).table store) = .ok store.listOpenOrders := by
  have hopen : ∀ row : OrderRow, ((coding str).encode row).status ∈ openStatuses.map OrderStatus.value ↔
      row.status ∈ openStatuses :=
    fun row => List.mem_map_of_injective OrderStatus.value_injective
  unfold listOpenOrders OrderStore.listOpenOrders Encoding.table
  rw [List.filter_map, List.mapM_map]
  simp only [Function.comp_def, hopen]
  exact Raise.mapM_eq_ok_map fun row hrow => orderOf_encode (h row (List.mem_filter.mp hrow).1)

theorem getOrder_afterUpserts {orders : List OrderRecord} (h : RoundTrips str orders) (id : String) :
    getOrder (afterUpserts str orders) id = .ok (writtenOrder orders id) := by
  rw [afterUpserts_eq, getOrder_coding (legible_rows h), getOrder_typedAfter]

-- An id is listed exactly when its last status is open.
theorem mem_openIds_iff {orders : List OrderRecord} {id : String} :
    id ∈ (typedAfter orders).listOpenOrders.map OrderRecord.clientOrderId ↔
      ∃ last, (writesOf orders id).getLast? = some last ∧ last.status ∈ openStatuses := by
  have hlisted : ∀ order, order ∈ (typedAfter orders).listOpenOrders ↔
      writtenOrder orders order.clientOrderId = some order ∧ order.status ∈ openStatuses := by
    intro order
    rw [OrderStore.mem_listOpenOrders_iff, getOrder_typedAfter]
  rw [List.mem_map]
  constructor
  · rintro ⟨order, horder, rfl⟩
    obtain ⟨hwritten, hopen⟩ := (hlisted order).mp horder
    obtain ⟨_, last, hlast, hstatus⟩ := writtenOrder_eq_some hwritten
    rw [← hstatus] at hopen
    exact ⟨last, hlast, hopen⟩
  · rintro ⟨last, hlast, hopen⟩
    have hmem := List.mem_of_getLast? hlast
    have hid := clientOrderId_of_mem_writesOf hmem
    obtain ⟨first, hfirst⟩ : ∃ first, (writesOf orders id).head? = some first :=
      ⟨_, List.head?_eq_some_head (List.ne_nil_of_mem hmem)⟩
    have hwritten := writtenOrder_of_writes hfirst hlast
    rw [← hid] at hwritten
    exact ⟨{ last with intent := first.intent.persisted }, (hlisted _).mpr ⟨hwritten, hopen⟩, hid⟩

-- Written from an empty table: an id reads as nothing exactly when it was never written,
-- and otherwise as the intent of its first write with the status and fill of its last;
-- the open orders are the ids whose last status is open, each once; and a write leaves
-- the row of every other id.
theorem orderStore_refines_map (str : ℚ → String) (orders : List OrderRecord)
    (hstr : RoundTrips str orders) :
    (∀ id, getOrder (afterUpserts str orders) id = .ok none ↔ id ∉ orders.map OrderRecord.clientOrderId) ∧
    (∀ id first last, (writesOf orders id).head? = some first → (writesOf orders id).getLast? = some last →
      ∃ order, getOrder (afterUpserts str orders) id = .ok (some order) ∧ order.clientOrderId = id ∧
        order.intent = first.intent.persisted ∧ order.status = last.status ∧
        order.exchangeOrderId = last.exchangeOrderId ∧ order.filledQuantity = last.filledQuantity ∧
        order.averageFillPrice = last.averageFillPrice) ∧
    (∃ listed, listOpenOrders (afterUpserts str orders) = .ok listed ∧
      (listed.map OrderRecord.clientOrderId).Nodup ∧
      (∀ id, id ∈ listed.map OrderRecord.clientOrderId ↔
        ∃ last, (writesOf orders id).getLast? = some last ∧ last.status ∈ openStatuses) ∧
      ∀ order ∈ listed, getOrder (afterUpserts str orders) order.clientOrderId = .ok (some order)) ∧
    ∀ (store : ColumnStore) (order : OrderRecord) other, other ≠ order.clientOrderId →
      Table.find? (upsertOrder str store order) other = Table.find? store other := by
  refine ⟨?_, ?_, ?_, ?_⟩
  · intro id
    rw [getOrder_afterUpserts hstr, Except.ok.injEq, writtenOrder_eq_none_iff]
  · intro id first last hfirst hlast
    have hid : last.clientOrderId = id := clientOrderId_of_mem_writesOf (List.mem_of_getLast? hlast)
    refine ⟨{ last with intent := first.intent.persisted }, ?_, hid, rfl, rfl, rfl, rfl, rfl⟩
    rw [getOrder_afterUpserts hstr, writtenOrder_of_writes hfirst hlast]
  · refine ⟨(typedAfter orders).listOpenOrders, ?_, OrderStore.nodup_listOpenOrders _,
      fun _ => mem_openIds_iff, ?_⟩
    · rw [afterUpserts_eq, listOpenOrders_coding (legible_rows hstr)]
    · intro order horder
      have hstored := (OrderStore.mem_listOpenOrders_iff.mp horder).1
      rw [getOrder_typedAfter] at hstored
      rw [getOrder_afterUpserts hstr, hstored]
  · intro store order other hne
    exact Table.find_upsert_of_ne store hne

-- A short order for a hundred, written as submitted and again with its first fill, and a
-- second one that is filled.
def samplePlaced (clientOrderId : String) (status : OrderStatus) : OrderRecord where
  clientOrderId
  intent := {
    sleeveId := .a
    symbol := "LABUSDT"
    side := .sell
    orderType := .limit
    action := .entry
    quantity := 100
    price := some (123 / 100)
    setupId := some "setup12345678" }
  status

def sampleWrites : List OrderRecord :=
  [samplePlaced "A_open_EN_20260101000000" .submitted,
    { samplePlaced "A_closed_EN_20260101000000" .filled with filledQuantity := 100 },
    { samplePlaced "A_open_EN_20260101000000" .partiallyFilled with
      filledQuantity := 25
      averageFillPrice := some (122 / 100) }]

-- The text of a Decimal given to hundredths.
def hundredthsText (value : ℚ) : String :=
  let hundredths := (value * 100).floor.toNat
  toString (hundredths / 100) ++ "." ++ toString (hundredths / 10 % 10) ++ toString (hundredths % 10)

theorem roundTrips_sample : RoundTrips hundredthsText sampleWrites := by
  intro order horder
  simp only [sampleWrites, List.mem_cons, List.not_mem_nil, or_false] at horder
  rcases horder with rfl | rfl | rfl
  all_goals
    refine ⟨by decide +kernel, ?_, by decide +kernel, ?_⟩
    all_goals
      intro price hprice
      cases hprice
      try decide +kernel

theorem orderStore_refines_map_sample :
    (∃ order, getOrder (afterUpserts hundredthsText sampleWrites) "A_open_EN_20260101000000" =
        .ok (some order) ∧ order.intent.price = some (123 / 100) ∧ order.status = .partiallyFilled ∧
        order.filledQuantity = 25) ∧
      ∃ listed, listOpenOrders (afterUpserts hundredthsText sampleWrites) = .ok listed ∧
        "A_open_EN_20260101000000" ∈ listed.map OrderRecord.clientOrderId ∧
        "A_closed_EN_20260101000000" ∉ listed.map OrderRecord.clientOrderId := by
  obtain ⟨_, hread, ⟨listed, hlisted, _, hids, _⟩, _⟩ :=
    orderStore_refines_map hundredthsText sampleWrites roundTrips_sample
  constructor
  · obtain ⟨order, horder, _, hintent, hstatus, _, hfilled, _⟩ :=
      hread "A_open_EN_20260101000000" _ _ rfl rfl
    refine ⟨order, horder, ?_, hstatus, hfilled⟩
    rw [hintent]
    rfl
  · refine ⟨listed, hlisted, (hids _).mpr ⟨_, rfl, by decide⟩, ?_⟩
    intro hclosed
    obtain ⟨last, hlast, hopen⟩ := (hids _).mp hclosed
    cases hlast
    exact absurd hopen (by decide)

end SQLiteOrderStore

end DualSleeve
