import DualSleeve.Execution.OrderIds.Theorems
import DualSleeve.Execution.OrderRouter.Theorems
import DualSleeve.Execution.RouteTrace

namespace DualSleeve

open Library Library.Text

-- What an id tells without its order: the sleeve is its first character, and the action
-- stands after the last separator before the fourteen digits of the time.

def sleeveOf (clientOrderId : String) : Option SleeveId :=
  [.a, .b].find? fun sleeve => sleeve.value.toList = clientOrderId.toList.take 1

def actionText (clientOrderId : String) : List Char :=
  ((clientOrderId.toList.reverse.drop 15).takeWhile (· ≠ '_')).reverse

def actionOf (clientOrderId : String) : Option OrderAction :=
  [.entry, .stopLoss, .takeProfit1, .takeProfit2, .takeProfit3, .timeStop, .circuitBreak].find? fun action =>
    action.value.toList = actionText clientOrderId

variable (sleeve : SleeveId) (setup : String) (action : OrderAction) (time : DateTime)

theorem toList_makeClientOrderId :
    (makeClientOrderId sleeve setup action time).toList =
      sleeve.value.toList ++ '_' :: setupPrefix setup ++ '_' :: action.value.toList ++ '_' :: strftime time :=
  String.toList_ofList

theorem length_setupPrefix_le : (setupPrefix setup).length ≤ 8 := by
  simp [setupPrefix]

theorem OrderAction.length_value_le : action.value.toList.length ≤ 3 := by
  cases action <;> decide

theorem length_makeClientOrderId_le : (makeClientOrderId sleeve setup action time).length ≤ 29 := by
  have hprefix := length_setupPrefix_le setup
  have haction := action.length_value_le
  rw [← String.length_toList, toList_makeClientOrderId]
  simp only [List.length_append, List.length_cons, sleeve.length_value, length_strftime]
  omega

theorem sleeveOf_makeClientOrderId : sleeveOf (makeClientOrderId sleeve setup action time) = some sleeve := by
  have hfirst : (makeClientOrderId sleeve setup action time).toList.take 1 = sleeve.value.toList := by
    rw [toList_makeClientOrderId]
    simp [sleeve.length_value]
  rw [sleeveOf, hfirst]
  cases sleeve <;> decide

-- The text after the last separator is read from behind.
theorem actionText_makeClientOrderId :
    actionText (makeClientOrderId sleeve setup action time) = action.value.toList := by
  have htime : ((('_' :: strftime time).reverse)).length = 15 := by simp [length_strftime]
  have haction : ∀ c ∈ action.value.toList.reverse, decide (c ≠ '_') = true := by
    intro c hc
    rw [List.mem_reverse] at hc
    simp only [decide_eq_true_eq]
    rintro rfl
    exact separator_notMem_action action hc
  rw [actionText, toList_makeClientOrderId, List.reverse_append, ← htime, List.drop_left]
  simp only [List.reverse_append, List.reverse_cons, List.append_assoc]
  rw [List.takeWhile_append_of_pos haction]
  simp

theorem actionOf_makeClientOrderId : actionOf (makeClientOrderId sleeve setup action time) = some action := by
  rw [actionOf, actionText_makeClientOrderId]
  cases action <;> decide

namespace OrderRouter

variable [DecimalContext] {σ : Type} {router : OrderRouter σ} {intent : OrderIntent} {world : World σ}
  {order : OrderRecord}

-- A call of `route` handed the order to the exchange, or made it and kept it.
inductive Generates (router : OrderRouter σ) (intent : OrderIntent) (world : World σ) (order : OrderRecord) :
    Prop
  | submitted (calls : List Call) (hcalls : (router.route intent world).2.calls = world.calls ++ calls)
      (hsent : order ∈ sentOrders calls)
  | kept (hkept : (router.route intent world).1 = .ok ⟨true, some order, .signalOnlyNoSubmit⟩)

theorem clientOrderId_newOrder {filters : SymbolFilters} {normalized : OrderIntent}
    (h : normalizeOrderIntent intent filters = .ok normalized) (now : DateTime) :
    (newOrder normalized now).clientOrderId =
      makeClientOrderId intent.sleeveId (setupIdOrManual intent.setupId) intent.action now := by
  rw [normalizeOrderIntent_keeps h]
  rfl

-- Whatever the exchange answered, the id is made of the intent's own sleeve and action.
theorem Generates.clientOrderId_eq (h : Generates router intent world order) :
    ∃ now, order.clientOrderId =
      makeClientOrderId intent.sleeveId (setupIdOrManual intent.setupId) intent.action now := by
  have hrouted := route_routed router intent world
  cases h with
  | submitted calls hcalls hsent =>
    rcases hrouted.sentOrders_eq with hnone | ⟨filters, outside, normalized, -, hnormal, hone⟩
    · rw [hcalls, sentOrders_append, List.append_right_eq_self] at hnone
      rw [hnone] at hsent
      cases hsent
    · rw [hcalls, sentOrders_append, List.append_cancel_left_eq] at hone
      rw [hone, List.mem_singleton] at hsent
      exact ⟨router.now outside, by rw [hsent]; exact clientOrderId_newOrder hnormal _⟩
  | kept hkept =>
    generalize router.route intent world = result at hrouted hkept
    obtain ⟨outcome, after⟩ := result
    subst hkept
    cases hrouted with
    | signalOnly _ filters outside _ normalized hnormal _ =>
      exact ⟨router.now outside, clientOrderId_newOrder hnormal _⟩

end OrderRouter

-- Equal ids agree in all four parts, an id is short, and the sleeve and the action are read
-- off the id of every order the router makes.
theorem client_ids_unambiguous [DecimalContext] :
    (∀ (sleeve sleeve' : SleeveId) (setup setup' : String) (action action' : OrderAction)
      (time time' : DateTime),
      makeClientOrderId sleeve setup action time = makeClientOrderId sleeve' setup' action' time' →
        sleeve = sleeve' ∧ setup.toList.take 8 = setup'.toList.take 8 ∧ action = action' ∧ time = time') ∧
    (∀ (sleeve : SleeveId) (setup : String) (action : OrderAction) (time : DateTime),
      (makeClientOrderId sleeve setup action time).length ≤ 29) ∧
    ∀ (σ : Type) (router : OrderRouter σ) (intent : OrderIntent) (world : World σ) (order : OrderRecord),
      router.Generates intent world order →
        sleeveOf order.clientOrderId = some intent.sleeveId ∧
          actionOf order.clientOrderId = some intent.action := by
  refine ⟨?_, length_makeClientOrderId_le, ?_⟩
  · intro sleeve sleeve' setup setup' action action' time time' h
    exact makeClientOrderId_inj.mp h
  · intro σ router intent world order h
    obtain ⟨now, hid⟩ := h.clientOrderId_eq
    rw [hid]
    exact ⟨sleeveOf_makeClientOrderId _ _ _ _, actionOf_makeClientOrderId _ _ _ _⟩

section Sample

open scoped ExactDecimals

-- Two setups with one prefix get one id; the order the sample intent becomes tells its parts.
theorem client_ids_unambiguous_sample :
    ("swing_up_1".toList.take 8 = "swing_up_2".toList.take 8 ∧
      (makeClientOrderId .a "swing_up_1" .takeProfit1 sampleClock).length ≤ 29) ∧
    sleeveOf (OrderRouter.submittedOrder sampleIntent sampleClock).clientOrderId = some .b ∧
    actionOf (OrderRouter.submittedOrder sampleIntent sampleClock).clientOrderId = some .entry := by
  have hsame : makeClientOrderId .a "swing_up_1" .takeProfit1 sampleClock =
      makeClientOrderId .a "swing_up_2" .takeProfit1 sampleClock :=
    makeClientOrderId_inj.mpr ⟨rfl, by decide, rfl, rfl⟩
  have hsent : (scriptedRouter .paperLocal).router.Generates sampleIntent (startWorld sampleScript {})
      (OrderRouter.submittedOrder sampleIntent sampleClock) :=
    .submitted [.getSymbolFilters "BTCUSDT",
      .submitOrder (OrderRouter.submittedOrder sampleIntent sampleClock)]
      (by decide +kernel) (by simp [sentOrders])
  refine ⟨⟨(client_ids_unambiguous.1 _ _ _ _ _ _ _ _ hsame).2.1, client_ids_unambiguous.2.1 _ _ _ _⟩, ?_⟩
  exact client_ids_unambiguous.2.2 _ _ _ _ _ hsent

end Sample

end DualSleeve
