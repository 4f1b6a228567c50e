import DualSleeve.Execution.OrderStateMachine
import DualSleeve.Library.Program
import DualSleeve.Library.Run
import Mathlib.Algebra.Order.Ring.Rat

namespace DualSleeve

open Library

variable {τ : Type}

-- The record the caller holds, with its times; `τ` is what the clock reads.
structure StampedOrder (τ : Type) extends OrderRecord where
  createdAt : τ
  updatedAt : τ
  deriving DecidableEq

namespace OrderStateMachine

-- `transition`, on the caller's own record.
def transitionInPlace (newStatus : OrderStatus) (now : τ) : Program (StampedOrder τ) PyError Unit := do
  let order ← Program.get
  let changed ← Program.ofExcept (transition order.toOrderRecord newStatus)
  Program.modify fun order => { order with toOrderRecord := changed, updatedAt := now }

-- The status a fill of this quantity leads to.
def fillStatus (quantity filledQuantity : ℚ) : OrderStatus :=
  if filledQuantity = quantity then .filled else .partiallyFilled

-- The fill is written before the status it leads to is looked up.
def applyFill (filledQuantity averageFillPrice : ℚ) (now : τ) :
    Program (StampedOrder τ) PyError Unit := do
  let order ← Program.get
  if filledQuantity < 0 then
    Program.raise (.valueError "filled_quantity cannot be negative")
  else if order.intent.quantity < filledQuantity then
    Program.raise (.valueError "filled_quantity cannot exceed order quantity")
  else do
    Program.modify fun order =>
      { order with filledQuantity := filledQuantity, averageFillPrice := some averageFillPrice }
    let status := fillStatus order.intent.quantity filledQuantity
    if status = order.status ∧ order.status = .partiallyFilled then
      Program.modify fun order => { order with updatedAt := now }
    else transitionInPlace status now

-- A call of either method, with the time it reads.
inductive Call (τ : Type) where
  | transition (newStatus : OrderStatus) (now : τ)
  | applyFill (filledQuantity averageFillPrice : ℚ) (now : τ)

def Call.run : Call τ → Program (StampedOrder τ) PyError Unit
  | .transition newStatus now => transitionInPlace newStatus now
  | .applyFill filledQuantity averageFillPrice now => OrderStateMachine.applyFill filledQuantity averageFillPrice now

-- The record after a call; an exception is caught by the caller.
def callStep (order : StampedOrder τ) (call : Call τ) : StampedOrder τ := (call.run order).2

-- All that `transition` can do.
inductive Transitioned (order : StampedOrder τ) (newStatus : OrderStatus) (now : τ) :
    Except PyError Unit × StampedOrder τ → Prop
  | changed (hallowed : newStatus ∈ allowedTransitions order.status) :
      Transitioned order newStatus now (.ok (), { order with status := newStatus, updatedAt := now })
  | refused (hallowed : newStatus ∉ allowedTransitions order.status) :
      Transitioned order newStatus now
        (.error (.invalidOrderTransition order.status newStatus), order)

theorem transitionInPlace_cases (order : StampedOrder τ) (newStatus : OrderStatus) (now : τ) :
    Transitioned order newStatus now (transitionInPlace newStatus now order) := by
  unfold transitionInPlace
  rw [Program.get_bind]
  by_cases h : newStatus ∈ allowedTransitions order.status
  · rw [transition_of_mem h, Program.ofExcept_ok_bind, Program.modify_apply]
    exact .changed h
  · rw [transition, if_pos h, Program.ofExcept_error_bind]
    exact .refused h

-- All that `apply_fill` can do.
inductive FillApplied (order : StampedOrder τ) (filledQuantity averageFillPrice : ℚ) (now : τ) :
    Except PyError Unit × StampedOrder τ → Prop
  | outOfRange (hrange : filledQuantity < 0 ∨ order.intent.quantity < filledQuantity) (exc : PyError) :
      FillApplied order filledQuantity averageFillPrice now (.error exc, order)
  | accepted (hnonneg : 0 ≤ filledQuantity) (hle : filledQuantity ≤ order.intent.quantity)
      (hallowed : fillStatus order.intent.quantity filledQuantity ∈ allowedTransitions order.status) :
      FillApplied order filledQuantity averageFillPrice now (.ok (), { order with
        filledQuantity := filledQuantity
        averageFillPrice := some averageFillPrice
        status := fillStatus order.intent.quantity filledQuantity
        updatedAt := now })
  | refused (hnonneg : 0 ≤ filledQuantity) (hle : filledQuantity ≤ order.intent.quantity)
      (hallowed : fillStatus order.intent.quantity filledQuantity ∉ allowedTransitions order.status) :
      FillApplied order filledQuantity averageFillPrice now
        (.error (.invalidOrderTransition order.status (fillStatus order.intent.quantity filledQuantity)),
          { order with filledQuantity := filledQuantity, averageFillPrice := some averageFillPrice })

theorem applyFill_cases (order : StampedOrder τ) (filledQuantity averageFillPrice : ℚ) (now : τ) :
    FillApplied order filledQuantity averageFillPrice now
      (applyFill filledQuantity averageFillPrice now order) := by
  unfold applyFill
  rw [Program.get_bind]
  by_cases hneg : filledQuantity < 0
  · rw [if_pos hneg]
    exact .outOfRange (.inl hneg) _
  rw [if_neg hneg]
  by_cases hgt : order.intent.quantity < filledQuantity
  · rw [if_pos hgt]
    exact .outOfRange (.inr hgt) _
  rw [if_neg hgt, Program.modify_bind]
  by_cases hsame : fillStatus order.intent.quantity filledQuantity = order.status ∧
      order.status = .partiallyFilled
  · -- a repeated partial fill is an edge of its own in the table
    have hallowed : fillStatus order.intent.quantity filledQuantity ∈ allowedTransitions order.status := by
      rw [hsame.1, hsame.2]
      decide
    have haccepted := @FillApplied.accepted τ order filledQuantity averageFillPrice now
      (not_lt.mp hneg) (not_lt.mp hgt) hallowed
    rw [if_pos hsame, Program.modify_apply]
    rw [hsame.1] at haccepted
    exact haccepted
  · rw [if_neg hsame]
    cases hresult : transitionInPlace (fillStatus order.intent.quantity filledQuantity) now
      { order with filledQuantity := filledQuantity, averageFillPrice := some averageFillPrice } with
    | mk outcome after =>
      have hcases := transitionInPlace_cases
        { order with filledQuantity := filledQuantity, averageFillPrice := some averageFillPrice }
        (fillStatus order.intent.quantity filledQuantity) now
      rw [hresult] at hcases
      cases hcases with
      | changed hallowed => exact .accepted (not_lt.mp hneg) (not_lt.mp hgt) hallowed
      | refused hallowed => exact .refused (not_lt.mp hneg) (not_lt.mp hgt) hallowed

end OrderStateMachine

end DualSleeve
