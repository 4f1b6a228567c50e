import DualSleeve.Exchange.Interfaces
import DualSleeve.Storage.OrderStore
import DualSleeve.Storage.PositionStore
import DualSleeve.Execution.SafeMode

namespace DualSleeve

open Library

-- A call that leaves the program: to the exchange, to a store, to the alert sink or to
-- the clock.
inductive Call where
  | getSymbolFilters (symbol : String)
  | submitOrder (order : OrderRecord)
  | cancelOrder (clientOrderId symbol : String)
  | fetchOpenOrders
  | queryOrder (symbol clientOrderId : String)
  | fetchAccountSnapshot
  | fetchPositionSnapshots (symbol : Option String)
  | fetchMarkPrice (symbol : String)
  | upsertOrder (order : OrderRecord)
  | listOpenOrders
  | listPositions (includeFlat : Bool)
  | upsertPosition (position : ExchangePositionSnapshot)
  | sendAlert (message : String)
  | sleep (seconds : ℤ)
  deriving DecidableEq

-- What the components share. `outside` is whatever the exchange and the clock
-- remember; `calls` lists the calls made so far, the latest last.
structure World (σ : Type) where
  outside : σ
  safeMode : SafeModeController := {}
  orders : OrderStore := Table.empty orderSchema
  positions : PositionStore := Table.empty positionSchema
  calls : List Call := []

abbrev Action (σ α : Type) := Program (World σ) PyError α

variable {σ α : Type}

-- Make a call of the exchange and note it.
def remote (call : Call) (answer : Remote σ α) : Action σ α := fun world =>
  let (outcome, outside) := answer world.outside
  (outcome, { world with outside, calls := world.calls ++ [call] })

def enterSafeMode (reason : SafeModeReason) : Action σ Unit :=
  Program.modify fun world => { world with safeMode := world.safeMode.enter reason }

def exitSafeMode (reason : String) : Action σ Unit :=
  Program.modify fun world => { world with safeMode := world.safeMode.exit reason }

def upsertOrder (order : OrderRecord) : Action σ Unit :=
  Program.modify fun world =>
    { world with orders := world.orders.upsertOrder order, calls := world.calls ++ [.upsertOrder order] }

def upsertPosition (position : ExchangePositionSnapshot) : Action σ Unit := fun world =>
  match world.positions.upsertPosition position with
  | .ok positions => (.ok (), { world with positions })
  | .error exc => (.error exc, world)

-- `World.after call outside`: the call was made and left the outside so.
def World.after (world : World σ) (call : Call) (outside : σ) : World σ :=
  { world with outside, calls := world.calls ++ [call] }

section Fields

variable (world : World σ) (call : Call) (outside : σ)

@[simp] theorem World.after_outside : (world.after call outside).outside = outside := rfl

@[simp] theorem World.after_safeMode : (world.after call outside).safeMode = world.safeMode := rfl

@[simp] theorem World.after_orders : (world.after call outside).orders = world.orders := rfl

@[simp] theorem World.after_positions : (world.after call outside).positions = world.positions := rfl

@[simp] theorem World.after_calls : (world.after call outside).calls = world.calls ++ [call] := rfl

end Fields

theorem remote_of_eq {call : Call} {answer : Remote σ α} {world : World σ} {outcome : Except PyError α}
    {outside : σ} (h : answer world.outside = (outcome, outside)) :
    remote call answer world = (outcome, world.after call outside) := by
  simp only [remote, h, World.after]

-- What a reconciler leaves once it has compared both sides: a mismatch enters the safe mode.
def World.settled (world : World σ) (consistent : Bool) (reason : SafeModeReason) : World σ :=
  if consistent then world else { world with safeMode := world.safeMode.enter reason }

@[simp] theorem World.settled_true (world : World σ) (reason : SafeModeReason) :
    world.settled true reason = world := rfl

-- The entry of the safe mode tells whether both sides agreed.
theorem World.settled_safeMode_iff (world : World σ) (consistent : Bool) (reason : SafeModeReason) :
    (consistent = true ↔ (world.settled consistent reason).safeMode = world.safeMode) ∧
      (consistent = false ↔
        ∃ given, (world.settled consistent reason).safeMode = world.safeMode.enter given) := by
  cases consistent with
  | true =>
    refine ⟨iff_of_true rfl rfl, iff_of_false Bool.noConfusion ?_⟩
    intro h
    obtain ⟨given, hg⟩ := h
    exact SafeModeController.enter_ne _ given hg.symm
  | false =>
    exact ⟨iff_of_false Bool.noConfusion (SafeModeController.enter_ne _ reason), iff_of_true rfl ⟨reason, rfl⟩⟩

theorem settle_eq (report : α) (consistent : Bool) (reason : SafeModeReason) (world : World σ) :
    (if !consistent then do
        enterSafeMode reason
        return report
      else return report : Action σ α) world = (.ok report, world.settled consistent reason) := by
  cases consistent <;> rfl

-- The orders handed to `submit_order`, and those written to the order store, in turn.
def sentOrders : List Call → List OrderRecord :=
  List.filterMap fun call => match call with
    | .submitOrder order => some order
    | _ => none

def writtenOrders : List Call → List OrderRecord :=
  List.filterMap fun call => match call with
    | .upsertOrder order => some order
    | _ => none

-- The messages handed to the alert sink, in turn.
def sentAlerts : List Call → List String :=
  List.filterMap fun call => match call with
    | .sendAlert message => some message
    | _ => none

@[simp] theorem sentOrders_append (calls more : List Call) :
    sentOrders (calls ++ more) = sentOrders calls ++ sentOrders more :=
  List.filterMap_append

@[simp] theorem writtenOrders_append (calls more : List Call) :
    writtenOrders (calls ++ more) = writtenOrders calls ++ writtenOrders more :=
  List.filterMap_append

@[simp] theorem sentAlerts_append (calls more : List Call) :
    sentAlerts (calls ++ more) = sentAlerts calls ++ sentAlerts more :=
  List.filterMap_append

end DualSleeve
