import DualSleeve.Execution.OrderIds.Theorems
import DualSleeve.Execution.RouteTrace.Theorems

namespace DualSleeve

open Library

-- The intent and the time of a call that hands an order to the exchange.
structure Submission where
  intent : OrderIntent
  now : DateTime

-- What an id is made of.
def Submission.collisionKey (submission : Submission) : SleeveId × List Char × OrderAction × DateTime :=
  (submission.intent.sleeveId, setupPrefix (setupIdOrManual submission.intent.setupId),
    submission.intent.action, submission.now)

def Submission.clientOrderId (submission : Submission) : String :=
  makeClientOrderId submission.intent.sleeveId (setupIdOrManual submission.intent.setupId)
    submission.intent.action submission.now

theorem nodup_clientOrderId_iff (submitted : List Submission) :
    (submitted.map Submission.clientOrderId).Nodup ↔ (submitted.map Submission.collisionKey).Nodup := by
  have hkey (a b : Submission) : a.clientOrderId = b.clientOrderId ↔ a.collisionKey = b.collisionKey := by
    simp only [Submission.clientOrderId, Submission.collisionKey, makeClientOrderId_inj, Prod.mk.injEq]
  simp only [List.Nodup, List.pairwise_map, ne_eq, hkey]

-- The row kept for an order: its id and intent are those of the order handed over.
def RowOf (order : OrderRecord) (row : OrderRow) : Prop :=
  row.clientOrderId = order.clientOrderId ∧ (rowToOrder row).intent = order.intent.persisted

theorem map_key_of_rowOf {sent : List OrderRecord} {rows : List OrderRow}
    (h : List.Forall₂ RowOf sent rows) :
    rows.map orderSchema.key = sent.map OrderRecord.clientOrderId := by
  induction h with
  | nil => rfl
  | cons hrow _ ih => exact congrArg₂ List.cons hrow.1 ih

-- `submit_order` returns in every call.
def RouteEvent.SubmitReturns : RouteEvent → Prop
  | .enter _ => True
  | .exit _ => True
  | .route _ script => ∀ order, ∃ update, script.submit order = .returned update

-- The store has one row for each order handed over, and each order finds its own
-- intent under its id.
def OneRowPerOrder (world : RouteWorld) : Prop :=
  world.orders.rows.length = (sentOrders world.calls).length ∧
    ∀ order ∈ sentOrders world.calls, ∃ stored,
      world.orders.getOrder order.clientOrderId = some stored ∧ stored.intent = order.intent.persisted

section Trace

variable [DecimalContext]

-- The calls of a trace that get past the gates and the filters.
def submissions (mode : TradingMode) : SafeModeController → List RouteEvent → List Submission
  | _, [] => []
  | safeMode, .enter reason :: events => submissions mode (safeMode.enter reason) events
  | safeMode, .exit reason :: events => submissions mode (safeMode.exit reason) events
  | safeMode, .route intent script :: events =>
      (if (handedOrder mode safeMode intent script).isSome then [⟨intent, script.now⟩] else []) ++
        submissions mode safeMode events

theorem clientOrderId_of_handed {mode : TradingMode} {safeMode : SafeModeController}
    {intent : OrderIntent} {script : Script} {order : OrderRecord}
    (h : handedOrder mode safeMode intent script = some order) :
    order.clientOrderId = Submission.clientOrderId ⟨intent, script.now⟩ := by
  obtain ⟨_, _, filters, normalized, _, hn, rfl⟩ := handedOrder_eq_some h
  rw [normalizeOrderIntent_keeps hn]
  rfl

-- A trace whose submissions all return hands over an order for each submission and
-- upserts a row for each of these orders.
theorem sent_and_stored (mode : TradingMode) (world : RouteWorld) (events : List RouteEvent)
    (hreturns : ∀ event ∈ events, event.SubmitReturns) :
    ∃ sent rows, sentOrders (events.foldl (routeStep mode) world).calls = sentOrders world.calls ++ sent ∧
      sent.map OrderRecord.clientOrderId =
        (submissions mode world.safeMode events).map Submission.clientOrderId ∧
      (events.foldl (routeStep mode) world).orders = Table.upsertAll world.orders rows ∧
      List.Forall₂ RowOf sent rows := by
  induction events generalizing world with
  | nil => exact ⟨[], [], by simp, rfl, rfl, .nil⟩
  | cons event events ih =>
    have hrest := ih (routeStep mode world event) fun other ho => hreturns other (List.mem_cons_of_mem _ ho)
    cases event with
    | enter reason => exact hrest
    | exit reason => exact hrest
    | route intent script =>
      obtain ⟨sent, rows, hsent, hids, horders, hrows⟩ := hrest
      have he := routeCall_effect mode world intent script
      change sentOrders _ = sentOrders (routeCall mode world intent script).2.calls ++ sent at hsent
      change _ = (submissions mode (routeCall mode world intent script).2.safeMode events).map _ at hids
      change _ = Table.upsertAll (routeCall mode world intent script).2.orders rows at horders
      rw [he.sent, List.append_assoc] at hsent
      rw [he.safeMode] at hids
      rw [he.orders] at horders
      cases hh : handedOrder mode world.safeMode intent script with
      | none =>
        rw [hh] at hsent horders
        refine ⟨sent, rows, hsent, ?_, horders, hrows⟩
        simpa [submissions, hh] using hids
      | some order =>
        obtain ⟨update, hu⟩ := hreturns (.route intent script) (by simp) order
        have hstored : storedOrder script order = some (order.updated update) := by
          simp only [storedOrder, hu]
        rw [hh] at hsent horders
        rw [Option.bind_some, hstored] at horders
        refine ⟨order :: sent, (order.updated update).toRow :: rows, hsent, ?_, horders,
          .cons ⟨rfl, rfl⟩ hrows⟩
        simp [submissions, hh, hids, clientOrderId_of_handed hh]

-- An exchange that answers every submission leaves one row for each order exactly
-- when no two submissions agree in sleeve, setup prefix, action and second.
theorem oneRowPerOrder_iff (mode : TradingMode) (script : Script) (safeMode : SafeModeController)
    (events : List RouteEvent) (hreturns : ∀ event ∈ events, event.SubmitReturns) :
    OneRowPerOrder (events.foldl (routeStep mode) (startWorld script safeMode)) ↔
      ((submissions mode safeMode events).map Submission.collisionKey).Nodup := by
  obtain ⟨sent, rows, hsent, hids, horders, hrows⟩ :=
    sent_and_stored mode (startWorld script safeMode) events hreturns
  change _ = (submissions mode safeMode events).map _ at hids
  have hkeys := map_key_of_rowOf hrows
  have hlength := Table.length_upsertAll_eq_iff (Table.empty orderSchema) rows
  have hsent' : sentOrders (events.foldl (routeStep mode) (startWorld script safeMode)).calls = sent := hsent
  have horders' : (events.foldl (routeStep mode) (startWorld script safeMode)).orders =
    Table.upsertAll (Table.empty orderSchema) rows := horders
  rw [← nodup_clientOrderId_iff, ← hids]
  unfold OneRowPerOrder
  rw [hsent', horders', hrows.length_eq]
  constructor
  · intro hone
    have hn := (hlength.mp (by simpa [Table.empty] using hone.1)).1
    rwa [hkeys] at hn
  · intro hn
    rw [← hkeys] at hn
    refine ⟨?_, ?_⟩
    · simpa [Table.empty] using hlength.mpr ⟨hn, fun k _ => List.not_mem_nil⟩
    · intro order ho
      obtain ⟨row, hr, hrow⟩ : ∃ row ∈ rows, RowOf order row := by
        obtain ⟨i, hi, rfl⟩ := List.getElem_of_mem ho
        have hi' : i < rows.length := hrows.length_eq ▸ hi
        exact ⟨rows[i], List.getElem_mem hi', List.Forall₂.get hrows hi hi'⟩
      have hfind : (Table.upsertAll (Table.empty orderSchema) rows).find? (orderSchema.key row) = _ :=
        Table.find_upsertAll_of_mem hn hr
      rw [Table.find_empty, Option.elim_none] at hfind
      refine ⟨rowToOrder row, ?_, hrow.2⟩
      rw [OrderStore.getOrder, ← hrow.1]
      exact congrArg (Option.map rowToOrder) hfind

end Trace

section Samples

open scoped DefaultContext

theorem sampleScript_submitReturns (intent : OrderIntent) :
    (RouteEvent.route intent sampleScript).SubmitReturns :=
  fun order => ⟨⟨order.status, none, 0, none⟩, rfl⟩

theorem oneRowPerOrder_sample :
    OneRowPerOrder ([RouteEvent.route sampleIntent sampleScript].foldl (routeStep .exchangeTestnet)
        (startWorld sampleScript {})) := by
  refine (oneRowPerOrder_iff _ _ _ _ ?_).mpr (by decide +kernel)
  intro event he
  rw [List.mem_singleton.mp he]
  exact sampleScript_submitReturns sampleIntent

-- A setup that differs from the sample's after its first eight characters, in the
-- same second.
def sameSecondIntent : OrderIntent :=
  { sampleIntent with quantity := 1 / 50, setupId := some "setup123-again" }

def sameSecondRoutes : List RouteEvent :=
  [.route sampleIntent sampleScript, .route sameSecondIntent sampleScript]

theorem oneRowPerOrder_fails_within_a_second :
    (∀ event ∈ sameSecondRoutes, event.SubmitReturns) ∧
      ¬OneRowPerOrder (sameSecondRoutes.foldl (routeStep .exchangeTestnet)
        (startWorld sampleScript {})) := by
  refine ⟨?_, ?_⟩
  · intro event he
    cases List.mem_cons.mp he with
    | inl h => exact h ▸ sampleScript_submitReturns sampleIntent
    | inr h => exact List.mem_singleton.mp h ▸ sampleScript_submitReturns sameSecondIntent
  · unfold OneRowPerOrder
    decide +kernel

end Samples

end DualSleeve
