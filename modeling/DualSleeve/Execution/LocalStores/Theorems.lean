import DualSleeve.Execution.LocalStores
import DualSleeve.Execution.PositionReconciliation.Refresh

namespace DualSleeve

open Library

variable {σ α β : Type}

-- Returned or raised, the action left the safe mode alone and sent no alert.
structure Quiet (body : Action σ α) : Prop where
  safeMode : Program.Keeps World.safeMode body
  alerts : Program.Keeps (fun world => sentAlerts world.calls) body

theorem quiet_pure (value : α) : Quiet (pure value : Action σ α) :=
  ⟨Program.keeps_pure _ value, Program.keeps_pure _ value⟩

theorem quiet_remote {call : Call} (answer : Remote σ α) (hcall : sentAlerts [call] = []) :
    Quiet (remote call answer) := by
  refine ⟨fun _ => rfl, ?_⟩
  intro world
  change sentAlerts (world.calls ++ [call]) = _
  rw [sentAlerts_append, hcall, List.append_nil]

theorem Quiet.bind {first : Action σ α} {next : α → Action σ β} (hfirst : Quiet first)
    (hnext : ∀ value, Quiet (next value)) : Quiet (first >>= next) :=
  ⟨hfirst.safeMode.bind fun value => (hnext value).safeMode,
    hfirst.alerts.bind fun value => (hnext value).alerts⟩

-- What a reconciliation leaves behind: a consistent one the safe mode as it was, any
-- other one the safe mode entered. A fetch that raised is reported as an error.
structure Reconciled (consistent : Bool) (error : Option SafeModeReason) (raised : Prop)
    (before after : World σ) : Prop where
  kept : consistent = true → after.safeMode = before.safeMode
  entered : consistent = false → ∃ reason, after.safeMode = before.safeMode.enter reason
  alerts : sentAlerts after.calls = sentAlerts before.calls
  error_iff : error.isSome ↔ raised
  failed : raised → consistent = false

-- Once active, the safe mode stays active.
theorem Reconciled.latch {consistent : Bool} {error : Option SafeModeReason} {raised : Prop}
    {before after : World σ} (h : Reconciled consistent error raised before after)
    (hactive : before.safeMode.state = .safeMode ∨ consistent = false) :
    after.safeMode.state = .safeMode := by
  cases consistent with
  | true => rw [h.kept rfl, hactive.resolve_right Bool.noConfusion]
  | false =>
    obtain ⟨reason, hentered⟩ := h.entered rfl
    rw [hentered]
    rfl

-- Two calls in a row, where the first one listed what the store holds.
theorem listed_and_fetched {γ : Type} {listCall fetchCall : Call} {list : Remote σ α} {fetch : Remote σ β}
    (read : β → γ) {world : World σ} {listed : α} {answer : Except PyError β} {outside : σ}
    (hlist : list world.outside = (.ok listed, world.outside))
    (hfetch : remote fetchCall fetch (world.after listCall world.outside) =
      (answer, (world.after listCall world.outside).after fetchCall outside)) :
    (do
        let first ← remote listCall list
        let second ← remote fetchCall fetch
        return (first, read second) : Action σ (α × γ)) world =
      (answer.map fun second => (listed, read second),
        (world.after listCall world.outside).after fetchCall outside) := by
  rw [Program.bind_of_ok (remote_of_eq hlist)]
  cases answer with
  | error exc =>
    rw [Program.bind_of_error hfetch]
    rfl
  | ok second =>
    rw [Program.bind_of_ok hfetch]
    rfl

section Settled

variable {fetch : Action σ α} {world after : World σ}

theorem reconciled_of_fetched (hquiet : Quiet fetch) {fetched : α} (h : fetch world = (.ok fetched, after))
    (consistent : Bool) (reason : SafeModeReason) :
    Reconciled consistent none (fetch.Raises world) world (after.settled consistent reason) := by
  have hsafe := hquiet.safeMode world
  have halerts := hquiet.alerts world
  have hreturned := Program.Raises.of_ok h
  rw [h] at hsafe halerts
  cases consistent with
  | true =>
    refine ⟨fun _ => hsafe, Bool.noConfusion, halerts, ⟨Bool.noConfusion, ?_⟩, ?_⟩
    · exact fun hraised => absurd hraised hreturned
    · exact fun hraised => absurd hraised hreturned
  | false =>
    have hentered : (after.settled false reason).safeMode = world.safeMode.enter reason :=
      congrArg (SafeModeController.enter · reason) hsafe
    refine ⟨Bool.noConfusion, fun _ => ⟨reason, hentered⟩, halerts, ⟨Bool.noConfusion, ?_⟩, fun _ => rfl⟩
    exact fun hraised => absurd hraised hreturned

theorem reconciled_of_error (hquiet : Quiet fetch) {exc : PyError} (h : fetch world = (.error exc, after))
    (reason : SafeModeReason) :
    Reconciled false (some reason) (fetch.Raises world) world (after.settled false reason) := by
  have hsafe := hquiet.safeMode world
  have halerts := hquiet.alerts world
  have hraised := Program.Raises.of_error h
  rw [h] at hsafe halerts
  have hentered : (after.settled false reason).safeMode = world.safeMode.enter reason :=
    congrArg (SafeModeController.enter · reason) hsafe
  exact ⟨Bool.noConfusion, fun _ => ⟨reason, hentered⟩, halerts, ⟨fun _ => hraised, fun _ => rfl⟩,
    fun _ => rfl⟩

end Settled

namespace LocalOrderStore

variable (store : LocalOrderStore σ) (exchange : ExchangeAdapter σ)

theorem fetch_quiet : Quiet (store.fetch exchange) := by
  refine (quiet_remote _ rfl).bind ?_
  intro localOrders
  exact (quiet_remote _ rfl).bind fun _ => quiet_pure _

-- The reconciliation does not raise, whatever the store and the exchange do.
theorem reconcileOpenOrders_reconciled (world : World σ) :
    ∃ report after, store.reconcileOpenOrders exchange world = (.ok report, after) ∧
      Reconciled report.consistent report.error ((store.fetch exchange).Raises world) world after := by
  unfold reconcileOpenOrders
  cases hfetch : store.fetch exchange world with
  | mk fetched after =>
    rw [Program.attempt_bind hfetch]
    cases fetched with
    | error exc => exact ⟨_, _, rfl, reconciled_of_error (store.fetch_quiet exchange) hfetch _⟩
    | ok orders =>
      exact ⟨_, _, settle_eq _ _ _ after, reconciled_of_fetched (store.fetch_quiet exchange) hfetch _ _⟩

-- Over a store that answers with the `orders` table, it is the reconciliation of the table.
theorem reconcileOpenOrders_of_table {world : World σ}
    (h : store.listOpenOrders world.outside = (.ok world.orders.listOpenOrders, world.outside)) :
    store.reconcileOpenOrders exchange world =
      DualSleeve.reconcileOpenOrders exchange (world.after .listOpenOrders world.outside) := by
  cases hanswer : exchange.fetchOpenOrders world.outside with
  | mk answer outside =>
    have hremote : remote .fetchOpenOrders exchange.fetchOpenOrders
        (world.after .listOpenOrders world.outside) =
          (answer, (world.after .listOpenOrders world.outside).after .fetchOpenOrders outside) :=
      remote_of_eq hanswer
    have hfetch : store.fetch exchange world =
        (answer.map fun orders => (world.orders.listOpenOrders, orders),
          (world.after .listOpenOrders world.outside).after .fetchOpenOrders outside) :=
      listed_and_fetched id h hremote
    unfold reconcileOpenOrders DualSleeve.reconcileOpenOrders
    rw [Program.get_bind, Program.attempt_bind hremote, Program.attempt_bind hfetch]
    cases answer with
    | error exc => rfl
    | ok orders => rfl

end LocalOrderStore

namespace LocalPositionStore

variable (store : LocalPositionStore σ) (reconciler : PositionReconciler σ)

theorem fetch_quiet : Quiet (store.fetch reconciler) := by
  refine (quiet_remote _ rfl).bind ?_
  intro localPositions
  exact (quiet_remote _ rfl).bind fun _ => quiet_pure _

theorem reconcilePositions_reconciled [DecimalContext] (world : World σ) :
    ∃ report after, store.reconcilePositions reconciler world = (.ok report, after) ∧
      Reconciled report.consistent report.error ((store.fetch reconciler).Raises world) world after := by
  unfold reconcilePositions
  cases hfetch : store.fetch reconciler world with
  | mk fetched after =>
    rw [Program.attempt_bind hfetch]
    cases fetched with
    | error exc => exact ⟨_, _, rfl, reconciled_of_error (store.fetch_quiet reconciler) hfetch _⟩
    | ok positions =>
      exact ⟨_, _, settle_eq _ _ _ after, reconciled_of_fetched (store.fetch_quiet reconciler) hfetch _ _⟩

-- Over a store that answers with the `positions` table, it is the reconciliation of the table.
theorem reconcilePositions_of_table [DecimalContext] {world : World σ}
    (h : store.listPositions false world.outside = (.ok world.positions.listPositions, world.outside)) :
    store.reconcilePositions reconciler world =
      reconciler.reconcilePositions (world.after (.listPositions false) world.outside) := by
  cases hanswer : reconciler.fetchPositionSnapshots none world.outside with
  | mk answer outside =>
    have hremote : remote (.fetchPositionSnapshots none) (reconciler.fetchPositionSnapshots none)
        (world.after (.listPositions false) world.outside) =
          (answer, (world.after (.listPositions false) world.outside).after
            (.fetchPositionSnapshots none) outside) :=
      remote_of_eq hanswer
    have hfetch : store.fetch reconciler world =
        (answer.map fun positions => (world.positions.listPositions, positions.filter (!·.isFlat)),
          (world.after (.listPositions false) world.outside).after
            (.fetchPositionSnapshots none) outside) :=
      listed_and_fetched (List.filter fun position : ExchangePositionSnapshot => !position.isFlat) h hremote
    unfold reconcilePositions PositionReconciler.reconcilePositions
    rw [Program.get_bind, Program.attempt_bind hremote, Program.attempt_bind hfetch]
    cases answer with
    | error exc => rfl
    | ok positions => rfl

theorem storePositions_quiet (positions : List ExchangePositionSnapshot) :
    Quiet (store.storePositions positions) := by
  induction positions with
  | nil => exact quiet_pure ()
  | cons position positions ih => exact (quiet_remote _ rfl).bind fun _ => ih

theorem refresh_quiet : Quiet (store.refreshLocalPositionsFromExchange reconciler) := by
  refine (quiet_remote _ rfl).bind ?_
  intro positions
  exact (store.storePositions_quiet positions).bind fun _ => quiet_pure _

-- The store takes each of the positions, one after the other.
def TakesAll : List ExchangePositionSnapshot → σ → Prop
  | [], _ => True
  | position :: positions, outside =>
    ∃ after, store.upsertPosition position outside = (.ok (), after) ∧ TakesAll positions after

theorem storePositions_returns_iff (positions : List ExchangePositionSnapshot) (world : World σ) :
    (∃ after, store.storePositions positions world = (.ok (), after)) ↔
      store.TakesAll positions world.outside := by
  induction positions generalizing world with
  | nil => exact ⟨fun _ => trivial, fun _ => ⟨world, rfl⟩⟩
  | cons position positions ih =>
    rw [storePositions, TakesAll]
    cases hwrite : store.upsertPosition position world.outside with
    | mk outcome outside =>
      have hremote : remote (.upsertPosition position) (store.upsertPosition position) world =
          (outcome, world.after (.upsertPosition position) outside) :=
        remote_of_eq hwrite
      cases outcome with
      | error exc =>
        rw [Program.bind_of_error hremote]
        constructor
        · rintro ⟨after, h⟩
          cases h
        · rintro ⟨after, h, _⟩
          cases h
      | ok written =>
        rw [Program.bind_of_ok hremote, ih]
        constructor
        · intro h
          exact ⟨outside, rfl, h⟩
        · rintro ⟨after, he, h⟩
          cases he
          exact h

-- Asked for all positions, the exchange answers, and the store takes what it answers.
def Refreshes (outside : σ) : Prop :=
  ∃ positions after, reconciler.Answers outside positions after ∧ store.TakesAll positions after

theorem refresh_returns_iff (world : World σ) :
    (∃ positions after, store.refreshLocalPositionsFromExchange reconciler world = (.ok positions, after)) ↔
      store.Refreshes reconciler world.outside := by
  unfold refreshLocalPositionsFromExchange Refreshes PositionReconciler.Answers
  cases hanswer : reconciler.fetchPositionSnapshots none world.outside with
  | mk answer outside =>
    have hremote : remote (.fetchPositionSnapshots none) (reconciler.fetchPositionSnapshots none) world =
        (answer, world.after (.fetchPositionSnapshots none) outside) :=
      remote_of_eq hanswer
    cases answer with
    | error exc =>
      rw [Program.bind_of_error hremote]
      constructor
      · rintro ⟨positions, after, h⟩
        cases h
      · rintro ⟨positions, after, h, _⟩
        cases h
    | ok fetched =>
      rw [Program.bind_of_ok hremote]
      have hstore := store.storePositions_returns_iff fetched
        (world.after (.fetchPositionSnapshots none) outside)
      constructor
      · rintro ⟨positions, after, h⟩
        obtain ⟨_, stored, hs, _⟩ := Program.bind_eq_ok.mp h
        exact ⟨fetched, outside, rfl, hstore.mp ⟨stored, hs⟩⟩
      · rintro ⟨positions, after, he, h⟩
        cases he
        obtain ⟨stored, hs⟩ := hstore.mpr h
        exact ⟨fetched, stored, by rw [Program.bind_of_ok hs]; rfl⟩

end LocalPositionStore

end DualSleeve
