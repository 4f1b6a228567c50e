import DualSleeve.Execution.OrderStateMachine.Coherence
import DualSleeve.Library.Raise

namespace DualSleeve

open Library Library.Raise

def OrderRecord.remainingQuantity (order : OrderRecord) : ℚ :=
  let remaining := order.intent.quantity - order.filledQuantity
  if remaining > 0 then remaining else 0

def shouldCancelEntryRemainder (order : OrderRecord) (elapsedSeconds : ℤ) (minFillRatio : ℚ := 1 / 2)
    (maxWaitSeconds : ℤ := 30) : Except PyError Bool :=
  if elapsedSeconds < maxWaitSeconds then
    .ok false
  else if order.intent.quantity ≤ 0 then
    .ok true
  else do
    let fillRatio ← divide order.filledQuantity order.intent.quantity
    return fillRatio < minFillRatio || order.remainingQuantity > 0

namespace OrderStateMachine

variable {τ : Type}

def FillInRange (order : StampedOrder τ) : Prop :=
  0 ≤ order.filledQuantity ∧ order.filledQuantity ≤ order.intent.quantity

instance (order : StampedOrder τ) : Decidable (FillInRange order) := inferInstanceAs (Decidable (_ ∧ _))

theorem fillInRange_step {order : StampedOrder τ} (h : FillInRange order) (call : Call τ) :
    FillInRange (callStep order call) := by
  unfold callStep
  cases call with
  | transition newStatus now =>
    have hcases := transitionInPlace_cases order newStatus now
    change FillInRange (transitionInPlace newStatus now order).2
    generalize transitionInPlace newStatus now order = result at hcases
    cases hcases <;> exact h
  | applyFill filledQuantity averageFillPrice now =>
    have hcases := applyFill_cases order filledQuantity averageFillPrice now
    change FillInRange (applyFill filledQuantity averageFillPrice now order).2
    generalize applyFill filledQuantity averageFillPrice now order = result at hcases
    cases hcases with
    | outOfRange => exact h
    | accepted hnonneg hle => exact ⟨hnonneg, hle⟩
    | refused hnonneg hle => exact ⟨hnonneg, hle⟩

-- Of an order with its fill in range all that counts is whether anything of it is open: a
-- minimum ratio of at most one decides nothing that the remainder does not.
theorem shouldCancelEntryRemainder_eq {order : OrderRecord} (hnonneg : 0 ≤ order.filledQuantity)
    (hle : order.filledQuantity ≤ order.intent.quantity) (elapsedSeconds : ℤ) (minFillRatio : ℚ)
    (maxWaitSeconds : ℤ) :
    shouldCancelEntryRemainder order elapsedSeconds minFillRatio maxWaitSeconds =
      .ok (decide (maxWaitSeconds ≤ elapsedSeconds ∧ (order.intent.quantity = 0 ∨
        order.filledQuantity < order.intent.quantity ∨ 1 < minFillRatio))) := by
  unfold shouldCancelEntryRemainder
  by_cases hearly : elapsedSeconds < maxWaitSeconds
  · rw [if_pos hearly, decide_eq_false fun h => absurd h.1 (not_le.mpr hearly)]
  rw [if_neg hearly]
  by_cases hquantity : order.intent.quantity ≤ 0
  · have hzero : order.intent.quantity = 0 := le_antisymm hquantity (hnonneg.trans hle)
    rw [if_pos hquantity, decide_eq_true ⟨not_lt.mp hearly, .inl hzero⟩]
  have hpos := not_le.mp hquantity
  rw [if_neg hquantity, divide_of_ne_zero _ hpos.ne', ok_bind]
  refine congrArg Except.ok ?_
  by_cases hopen : order.filledQuantity < order.intent.quantity
  · have hremaining : order.remainingQuantity > 0 := by
      rw [OrderRecord.remainingQuantity, if_pos (sub_pos.mpr hopen)]
      exact sub_pos.mpr hopen
    rw [decide_eq_true hremaining, Bool.or_true, decide_eq_true ⟨not_lt.mp hearly, .inr (.inl hopen)⟩]
  · have hfull : order.filledQuantity = order.intent.quantity := le_antisymm hle (not_lt.mp hopen)
    have hremaining : ¬ order.remainingQuantity > 0 := by
      rw [OrderRecord.remainingQuantity, hfull, sub_self]
      simp
    rw [decide_eq_false hremaining, Bool.or_false, hfull, div_self hpos.ne']
    refine decide_eq_decide.mpr ⟨fun hratio => ⟨not_lt.mp hearly, .inr (.inr hratio)⟩, ?_⟩
    rintro ⟨-, hzero | hlt | hratio⟩
    · exact absurd hzero hpos.ne'
    · exact absurd hlt (lt_irrefl _)
    · exact hratio

-- Whatever is called on an order, and whichever of the calls raise, the question about its
-- remainder never raises; from the end of the wait on the answer is yes exactly while the
-- order is open, but for an empty order and for a ratio above one, where it is always yes.
theorem remainder_over_calls {order : StampedOrder τ} (h : FillInRange order) (calls : List (Call τ)) :
    Run.Always callStep (fun reached => ∀ elapsedSeconds minFillRatio maxWaitSeconds,
      shouldCancelEntryRemainder reached.toOrderRecord elapsedSeconds minFillRatio maxWaitSeconds =
        .ok (decide (maxWaitSeconds ≤ elapsedSeconds ∧ (order.intent.quantity = 0 ∨
          reached.filledQuantity < order.intent.quantity ∨ 1 < minFillRatio)))) order calls := by
  have hruns : Run.Always callStep (fun reached => FillInRange reached ∧ reached.intent = order.intent) order calls :=
    Run.always_of_step (V := fun _ _ => True) (fun state call hs _ =>
      ⟨fillInRange_step hs.1 call, (intent_callStep state call).trans hs.2⟩) ⟨h, rfl⟩
      (Run.along_of_forall (fun _ _ _ => trivial) order)
  intro reached hreached elapsedSeconds minFillRatio maxWaitSeconds
  obtain ⟨hrange, hintent⟩ := hruns reached hreached
  rw [shouldCancelEntryRemainder_eq hrange.1 hrange.2, hintent]

-- An order for ten, canceled with four filled: the rest counts as open.
theorem remainder_over_calls_sample :
    shouldCancelEntryRemainder ([.transition .submitted sampleClock, .applyFill 4 2000 sampleClock,
      .transition .canceled sampleClock].foldl callStep sampleOrder).toOrderRecord 45 = .ok true := by
  have hrange : FillInRange sampleOrder := by decide +kernel
  have hruns := remainder_over_calls hrange
    [.transition .submitted sampleClock, .applyFill 4 2000 sampleClock, .transition .canceled sampleClock]
  exact (hruns _ (by decide +kernel) 45 (1 / 2) 30).trans (by decide +kernel)

end OrderStateMachine

end DualSleeve
