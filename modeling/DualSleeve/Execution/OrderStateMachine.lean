import DualSleeve.Core.Models

namespace DualSleeve

def allowedTransitions : OrderStatus → List OrderStatus
  | .created => [.submitted, .rejected, .unknown]
  | .submitted => [.partiallyFilled, .filled, .canceled, .rejected, .expired, .unknown]
  | .partiallyFilled => [.partiallyFilled, .filled, .canceled, .unknown]
  | .filled => []
  | .canceled => []
  | .rejected => []
  | .expired => []
  | .unknown => [.submitted, .canceled, .filled]

namespace OrderStateMachine

def transition (order : OrderRecord) (newStatus : OrderStatus) : Except PyError OrderRecord :=
  if newStatus ∉ allowedTransitions order.status then
    .error (.invalidOrderTransition order.status newStatus)
  else .ok { order with status := newStatus }

theorem transition_of_mem {order : OrderRecord} {newStatus : OrderStatus}
    (h : newStatus ∈ allowedTransitions order.status) :
    transition order newStatus = .ok { order with status := newStatus } :=
  if_neg (not_not.mpr h)

end OrderStateMachine

def OrderStatus.IsTerminal (status : OrderStatus) : Prop :=
  status = .filled ∨ status = .canceled ∨ status = .rejected ∨ status = .expired

instance (status : OrderStatus) : Decidable status.IsTerminal := by
  unfold OrderStatus.IsTerminal
  infer_instance

-- A status change the state machine knows: none, or an edge.
def LegalChange (before after : OrderStatus) : Prop :=
  before = after ∨ after ∈ allowedTransitions before

instance (before after : OrderStatus) : Decidable (LegalChange before after) :=
  inferInstanceAs (Decidable (_ ∨ _))

@[simp] theorem LegalChange.refl (status : OrderStatus) : LegalChange status status := Or.inl rfl

-- No edge leaves a terminal status.
theorem LegalChange.eq_of_terminal {before after : OrderStatus} (h : LegalChange before after)
    (ht : before.IsTerminal) : after = before := by
  rcases h with rfl | h
  · rfl
  · rcases ht with rfl | rfl | rfl | rfl <;> cases h

end DualSleeve
