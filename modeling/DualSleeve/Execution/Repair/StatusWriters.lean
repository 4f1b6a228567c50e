import DualSleeve.Exchange.BinanceRest.Theorems
import DualSleeve.Execution.PersistentRouter
import DualSleeve.Execution.Repair.Engine
import DualSleeve.Library.Run

namespace DualSleeve

open Library

-- A write of the order store: a routed intent or a repair, and how the exchange answers
-- while it runs.
inductive WriterEvent where
  | route (intent : OrderIntent) (transport : HttpRequest → Except PyError HttpResponse) (now : DateTime)
  | repair (clientOrderId : String) (transport : HttpRequest → Except PyError HttpResponse)
      (now : DateTime)

-- Every stored order stays stored, and its status stays or takes an edge.
def LegalWrites (before after : OrderStore) : Prop :=
  ∀ id stored, before.getOrder id = some stored →
    ∃ order, after.getOrder id = some order ∧ LegalChange stored.status order.status

theorem LegalWrites.refl (store : OrderStore) : LegalWrites store store :=
  fun _ stored h => ⟨stored, h, .refl _⟩

theorem legalWrites_upsertOrder_iff {store : OrderStore} {order : OrderRecord} :
    LegalWrites store (store.upsertOrder order) ↔
      ∀ stored, store.getOrder order.clientOrderId = some stored →
        LegalChange stored.status order.status := by
  constructor
  · intro h stored hstored
    obtain ⟨after, hafter, hlegal⟩ := h _ stored hstored
    rw [OrderStore.getOrder_upsertOrder_self] at hafter
    cases hafter
    exact hlegal
  · intro h id stored hstored
    by_cases hid : id = order.clientOrderId
    · subst hid
      exact ⟨_, OrderStore.getOrder_upsertOrder_self store order, h stored hstored⟩
    · rw [OrderStore.getOrder_upsertOrder_of_ne store hid]
      exact ⟨stored, hstored, .refl _⟩

theorem legalChange_applied {order reply : OrderRecord} {fields : JsonObject}
    (happly : BinanceRest.applyExchangeOrderPayload order (.object fields) = .ok reply)
    (hstatus : order.status = .submitted) : LegalChange .submitted reply.status := by
  rw [(BinanceRest.applied_eq happly).2.2, hstatus]
  cases hm : BinanceRest.mappedStatus fields with
  | none => exact .refl _
  | some status => exact BinanceRest.legalChange_of_mapped hm

abbrev RestWorld := World RestState

def RestWorld.connected (world : RestWorld) (transport : HttpRequest → Except PyError HttpResponse)
    (now : DateTime) : RestWorld :=
  { world with outside := { world.outside with transport, now } }

def restRouter (mode : TradingMode) : PersistentOrderRouter RestState where
  router := { mode, exchange := BinanceRest.adapter, now := RestState.now }

section Writers

variable [DecimalContext]

def writerStep (mode : TradingMode) (world : RestWorld) : WriterEvent → RestWorld
  | .route intent transport now =>
      ((restRouter mode).route intent (RestWorld.connected world transport now)).2
  | .repair clientOrderId transport now =>
      (repairByClientOrderId BinanceRest.queryOrder clientOrderId
        (RestWorld.connected world transport now)).2

-- A write is legal in the store, and in the record a route returns as submitted.
def LegalEvent (mode : TradingMode) (world : RestWorld) (event : WriterEvent) : Prop :=
  LegalWrites world.orders (writerStep mode world event).orders ∧
    match event with
    | .route intent transport now =>
        ∀ result order, ((restRouter mode).route intent (RestWorld.connected world transport now)).1 =
          .ok result → result.reason = .submittedToSimOrTestnet → result.order = some order →
            LegalChange .submitted order.status
    | .repair _ _ _ => True

-- The answer of the exchange is about an order whose stored status, if there is one,
-- can be followed by the status it names.
def AnswersLegally (mode : TradingMode) (world : RestWorld) : WriterEvent → Prop
  | .route intent transport now =>
      ∀ order outside fields reply stored,
        (restRouter mode).router.handed intent (RestWorld.connected world transport now) =
          some (order, outside) →
        outside.Answers "POST" "/fapi/v1/order" (BinanceRest.orderParams order) (.object fields) →
        BinanceRest.applyExchangeOrderPayload order (.object fields) = .ok reply →
        world.orders.getOrder order.clientOrderId = some stored →
          LegalChange stored.status ((BinanceRest.mappedStatus fields).getD .submitted)
  | .repair clientOrderId transport now =>
      ∀ stored fields snapshot,
        world.orders.getOrder clientOrderId = some stored →
        (RestWorld.connected world transport now).outside.Answers "GET" "/fapi/v1/order"
          [("symbol", .text stored.intent.symbol), ("origClientOrderId", .text clientOrderId)]
          (.object fields) →
        BinanceRest.parseOrderSnapshot fields = .ok snapshot →
        snapshot.symbol = stored.intent.symbol → LegalChange stored.status snapshot.status

theorem handed_status {router : OrderRouter RestState} {intent : OrderIntent} {world : RestWorld}
    {order : OrderRecord} {outside : RestState} (h : router.handed intent world = some (order, outside)) :
    order.status = .submitted := by
  unfold OrderRouter.handed at h
  split at h
  · split at h
    · cases h
    · split at h
      · cases h
      · cases h
        rfl
  · cases h

theorem route_legal_iff (mode : TradingMode) (world : RestWorld) (intent : OrderIntent)
    (transport : HttpRequest → Except PyError HttpResponse) (now : DateTime) :
    LegalEvent mode world (.route intent transport now) ↔
      AnswersLegally mode world (.route intent transport now) := by
  have hstored := (restRouter mode).route_stored intent (RestWorld.connected world transport now)
  unfold LegalEvent writerStep AnswersLegally
  dsimp only
  generalize (restRouter mode).route intent (RestWorld.connected world transport now) = result at hstored
  obtain ⟨outcome, after⟩ := result
  cases hstored with
  | kept _ _ hunsent horders houtcome =>
    refine iff_of_true ⟨?_, ?_⟩ ?_
    · change after.orders = world.orders at horders
      rw [horders]
      exact .refl _
    · intro result order hr hreason
      exact absurd hreason (houtcome result hr)
    · intro order outside fields reply stored hhanded hanswers happly
      exact absurd (BinanceRest.submitOrder_eq_ok.mpr ⟨fields, hanswers, happly⟩)
        (hunsent order outside reply hhanded)
  | stored order outside hhanded reply hreply _ horders =>
    have hstatus := handed_status hhanded
    obtain ⟨fields, hanswers, happly⟩ := BinanceRest.submitOrder_eq_ok.mp hreply
    obtain ⟨hid, _, hreplied⟩ := BinanceRest.applied_eq happly
    have hreturned : ∀ result record, (Except.ok ⟨true, some reply, .submittedToSimOrTestnet⟩ :
        Except PyError RouteResult) = .ok result → result.reason = .submittedToSimOrTestnet →
        result.order = some record → LegalChange .submitted record.status := by
      intro result record hr _ hrecord
      cases hr
      cases hrecord
      exact legalChange_applied happly hstatus
    change after.orders = world.orders.upsertOrder reply at horders
    rw [horders, legalWrites_upsertOrder_iff, hid, hreplied, hstatus]
    constructor
    · intro h other state given answer stored hother hgiven _ hrow
      cases hhanded.symm.trans hother
      have hfields : given = fields := by
        obtain ⟨_, h1, _, h2⟩ := hanswers
        obtain ⟨_, h3, _, h4⟩ := hgiven
        cases h1.symm.trans h3
        cases h2.symm.trans h4
        rfl
      rw [hfields]
      exact h.1 stored hrow
    · intro h
      exact ⟨fun stored hrow => h order outside fields reply stored hhanded hanswers happly hrow, hreturned⟩

theorem repair_legal_iff (mode : TradingMode) (world : RestWorld) (clientOrderId : String)
    (transport : HttpRequest → Except PyError HttpResponse) (now : DateTime) :
    LegalEvent mode world (.repair clientOrderId transport now) ↔
      AnswersLegally mode world (.repair clientOrderId transport now) := by
  have hrepaired := repair_repaired BinanceRest.queryOrder clientOrderId
    (RestWorld.connected world transport now)
  unfold LegalEvent writerStep AnswersLegally
  dsimp only
  rw [and_iff_left trivial]
  cases hrepaired with
  | kept _ horders hwhy =>
    refine iff_of_true ?_ ?_
    · rw [horders]
      exact .refl _
    · intro stored fields snapshot hrow hanswers hparse hsymbol
      rw [hwhy stored snapshot _ hrow (BinanceRest.queryOrder_eq_ok.mpr ⟨⟨fields, hanswers, hparse⟩, rfl⟩)
        hsymbol]
      exact .refl _
  | updated localOrder hlocal snapshot outside hquery hsymbol _ horders =>
    have hlocalId : localOrder.clientOrderId = clientOrderId := OrderStore.clientOrderId_of_getOrder hlocal
    have hid : (applyRemoteSnapshot localOrder snapshot).2.clientOrderId = clientOrderId := hlocalId
    obtain ⟨⟨fields, hanswers, hparse⟩, _⟩ := BinanceRest.queryOrder_eq_ok.mp hquery
    rw [horders]
    change LegalWrites world.orders (world.orders.upsertOrder _) ↔ _
    rw [legalWrites_upsertOrder_iff, hid]
    constructor
    · intro h stored given other hrow hgiven hparse' _
      cases hlocal.symm.trans hrow
      have hother := BinanceRest.queryOrder_eq_ok.mpr ⟨⟨given, hgiven, hparse'⟩, rfl⟩
      cases (Prod.mk.inj (hquery.symm.trans hother)).1
      exact h localOrder hlocal
    · intro h stored hrow
      cases hlocal.symm.trans hrow
      exact h localOrder fields snapshot hlocal hanswers hparse hsymbol

theorem writer_legal_iff (mode : TradingMode) (world : RestWorld) (event : WriterEvent) :
    LegalEvent mode world event ↔ AnswersLegally mode world event := by
  cases event with
  | route intent transport now => exact route_legal_iff mode world intent transport now
  | repair clientOrderId transport now => exact repair_legal_iff mode world clientOrderId transport now

-- The order with this id is stored with this status.
def StoredAs (id : String) (status : OrderStatus) (world : RestWorld) : Prop :=
  ∃ order, world.orders.getOrder id = some order ∧ order.status = status

theorem storedAs_step {mode : TradingMode} {world : RestWorld} {event : WriterEvent} {id : String}
    {status : OrderStatus} (hterminal : status.IsTerminal) (h : StoredAs id status world)
    (hlegal : LegalEvent mode world event) : StoredAs id status (writerStep mode world event) := by
  obtain ⟨order, hrow, rfl⟩ := h
  obtain ⟨after, hafter, hchange⟩ := hlegal.1 id order hrow
  exact ⟨after, hafter, hchange.eq_of_terminal hterminal⟩

-- Every write of the run is legal, and whatever is stored with a terminal status at some
-- point is stored with it from then on.
def ObeysStateMachine (mode : TradingMode) (world : RestWorld) (events : List WriterEvent) : Prop :=
  Run.Along (writerStep mode) (LegalEvent mode) world events ∧
    ∀ first rest, events = first ++ rest → ∀ id status, status.IsTerminal →
      StoredAs id status (first.foldl (writerStep mode) world) →
        Run.Always (writerStep mode) (StoredAs id status) (first.foldl (writerStep mode) world) rest

-- The writers obey the state machine over a run exactly when every answer names a status
-- that can follow the stored one.
theorem obeysStateMachine_iff (mode : TradingMode) (world : RestWorld) (events : List WriterEvent) :
    ObeysStateMachine mode world events ↔
      Run.Along (writerStep mode) (AnswersLegally mode) world events := by
  rw [← Run.along_congr (writer_legal_iff mode)]
  constructor
  · exact fun h => h.1
  · intro h
    refine ⟨h, ?_⟩
    intro first rest hevents id status hterminal hstored
    subst hevents
    exact Run.always_of_step (fun _ _ hs hlegal => storedAs_step hterminal hs hlegal) hstored h.rest

end Writers

-- A filled order, which the exchange then says is new.
def filledOrder : OrderRecord where
  clientOrderId := "B_setup123_EN_20260101000000"
  intent := {
    sleeveId := .b
    symbol := "BTCUSDT"
    side := .buy
    orderType := .limit
    action := .entry
    quantity := 1 / 100
    price := some 100000 }
  status := .filled
  filledQuantity := 1 / 100

def filledWorld : RestWorld where
  outside := { transport := fun _ => .error (.otherError "offline"), now := sampleClock }
  orders := OrderStore.upsertOrder (Table.empty orderSchema) filledOrder

def newAgain : WriterEvent :=
  .repair "B_setup123_EN_20260101000000"
    (fun _ => .ok (.ok (.object [("clientOrderId", .text "B_setup123_EN_20260101000000"),
      ("symbol", .text "BTCUSDT"), ("status", .text "NEW"), ("executedQty", .text "0")])))
    sampleClock

section Reopened

open scoped DefaultContext

theorem repair_reopens_filled_order :
    StoredAs "B_setup123_EN_20260101000000" .filled filledWorld ∧
      StoredAs "B_setup123_EN_20260101000000" .submitted (writerStep .exchangeTestnet filledWorld newAgain) ∧
      ¬ObeysStateMachine .exchangeTestnet filledWorld [newAgain] := by
  have hbefore : StoredAs "B_setup123_EN_20260101000000" .filled filledWorld :=
    ⟨filledOrder, by decide +kernel, rfl⟩
  have hafter : (writerStep .exchangeTestnet filledWorld newAgain).orders.getOrder
      "B_setup123_EN_20260101000000" =
    some { filledOrder with status := .submitted, filledQuantity := 0 } := by decide +kernel
  refine ⟨hbefore, ⟨_, hafter, rfl⟩, ?_⟩
  intro h
  obtain ⟨_, hkept⟩ := h
  have halways := hkept [] [newAgain] rfl _ _ (Or.inl rfl) hbefore
  obtain ⟨order, hrow, hstatus⟩ :=
    halways (writerStep .exchangeTestnet filledWorld newAgain) (by simp [Run.states])
  cases hafter.symm.trans hrow
  cases hstatus

end Reopened

end DualSleeve
