import DualSleeve.Execution.RouteTrace.Theorems

namespace DualSleeve

open Library

-- Every order the exchange has taken has a row under its client id.
def NoOrphans (world : RouteWorld) : Prop :=
  ∀ order ∈ world.outside.accepted, (world.orders.getOrder order.clientOrderId).isSome

theorem isSome_getOrder_upsertOrder {store : OrderStore} {order : OrderRecord} {id : String} :
    ((store.upsertOrder order).getOrder id).isSome ↔
      (store.getOrder id).isSome ∨ id = order.clientOrderId := by
  by_cases h : id = order.clientOrderId
  · subst h
    simp [OrderStore.getOrder_upsertOrder_self]
  · simp [OrderStore.getOrder_upsertOrder_of_ne store h, h]

section Trace

variable [DecimalContext]

-- Where `submit_order` raises after the exchange took the order, the store already
-- has a row under the order's client id.
def RaisesOnKnownIds (mode : TradingMode) (world : RouteWorld) : RouteEvent → Prop
  | .enter _ => True
  | .exit _ => True
  | .route intent script => ∀ order ∈ handedOrder mode world.safeMode intent script,
      (∃ exc, script.submit order = .raised true exc) →
        (world.orders.getOrder order.clientOrderId).isSome

theorem raisesOnKnownIds_route {mode : TradingMode} {world : RouteWorld} {intent : OrderIntent}
    {script : Script} : RaisesOnKnownIds mode world (.route intent script) ↔
      ∀ order ∈ handedOrder mode world.safeMode intent script,
        (∃ exc, script.submit order = .raised true exc) →
          (world.orders.getOrder order.clientOrderId).isSome :=
  Iff.rfl

theorem noOrphans_route_iff {mode : TradingMode} {world : RouteWorld} (h : NoOrphans world)
    (intent : OrderIntent) (script : Script) :
    NoOrphans (routeCall mode world intent script).2 ↔
      RaisesOnKnownIds mode world (.route intent script) := by
  have he := routeCall_effect mode world intent script
  rw [raisesOnKnownIds_route, NoOrphans, he.accepted, he.orders]
  cases handedOrder mode world.safeMode intent script with
  | none => simpa [NoOrphans] using h
  | some order =>
    simp only [Option.bind_some, Option.mem_some, forall_eq']
    cases hs : script.submit order with
    | returned update =>
      refine iff_of_true ?_ (by simp)
      intro other ho
      rw [storedOrder, hs, Option.elim_some, isSome_getOrder_upsertOrder]
      cases List.mem_append.mp ho with
      | inl hold => exact Or.inl (h other hold)
      | inr hnew =>
        have heq : other = order := by simpa [acceptedOrder, hs, SubmitReply.accepted] using hnew
        exact Or.inr (heq ▸ rfl)
    | raised accepted exc =>
      have hstored : storedOrder script order = none := by rw [storedOrder, hs]
      rw [hstored, Option.elim_none]
      cases accepted with
      | false =>
        refine iff_of_true ?_ (by simp)
        simpa [NoOrphans, acceptedOrder, hs, SubmitReply.accepted] using h
      | true =>
        have haccepted : acceptedOrder script order = some order := by
          simp [acceptedOrder, hs, SubmitReply.accepted]
        rw [haccepted, Option.toList_some]
        refine ⟨fun hall _ => hall order (by simp), ?_⟩
        intro hknown other ho
        cases List.mem_append.mp ho with
        | inl hold => exact h other hold
        | inr hnew =>
          rw [List.mem_singleton.mp hnew]
          exact hknown ⟨exc, rfl⟩

theorem noOrphans_step_iff {mode : TradingMode} {world : RouteWorld} (event : RouteEvent)
    (h : NoOrphans world) :
    NoOrphans (routeStep mode world event) ↔ RaisesOnKnownIds mode world event := by
  cases event with
  | enter reason => exact iff_of_true h trivial
  | exit reason => exact iff_of_true h trivial
  | route intent script => exact noOrphans_route_iff h intent script

-- No state of a trace has an orphan exactly when every late raise of the exchange is
-- about an id that is stored already.
theorem noOrphans_always_iff (mode : TradingMode) (world : RouteWorld) (events : List RouteEvent)
    (h : NoOrphans world) :
    Run.Always (routeStep mode) NoOrphans world events ↔
      Run.Along (routeStep mode) (RaisesOnKnownIds mode) world events :=
  Run.always_iff_along (V := fun _ _ => True) (fun _ event hn _ => noOrphans_step_iff event hn) h
    (Run.along_of_forall (fun _ _ _ => trivial) world)

end Trace

section Samples

open scoped DefaultContext

theorem noOrphans_always_sample :
    Run.Always (routeStep .exchangeTestnet) NoOrphans (startWorld sampleScript {})
      [.route sampleIntent sampleScript] := by
  refine (noOrphans_always_iff _ _ _ (by intro order ho; cases ho)).mpr ⟨?_, trivial⟩
  rintro order _ ⟨exc, hraised⟩
  -- the submission returns
  cases hraised

-- The exchange takes the order, but the reply is lost.
def timeoutScript : Script :=
  { sampleScript with submit := fun _ => .raised true (.otherError "timed out") }

theorem noOrphans_fails_on_timeout :
    NoOrphans (startWorld timeoutScript {}) ∧
      ¬NoOrphans (routeStep .exchangeTestnet (startWorld timeoutScript {})
        (.route sampleIntent timeoutScript)) := by
  unfold NoOrphans
  decide +kernel

end Samples

end DualSleeve
