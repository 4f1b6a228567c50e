import DualSleeve.Execution.OrderStateMachine.Calls

namespace DualSleeve.OrderStateMachine

open Library

variable {τ : Type}

-- A call that raises leaves the record as it was.
def RaiseKeeps (order : StampedOrder τ) (call : Call τ) : Prop :=
  call.run.Raises order → callStep order call = order

-- What a terminal order may no longer change.
def SameOutcome (settled order : StampedOrder τ) : Prop :=
  order.status = settled.status ∧ order.filledQuantity = settled.filledQuantity ∧
    order.averageFillPrice = settled.averageFillPrice

-- No raising call of the run changes the record, and whatever is terminal at some point
-- keeps its status and its fill from then on.
def Atomic (order : StampedOrder τ) (calls : List (Call τ)) : Prop :=
  Run.Along callStep RaiseKeeps order calls ∧
    ∀ first rest, calls = first ++ rest → (first.foldl callStep order).status.IsTerminal →
      Run.Always callStep (SameOutcome (first.foldl callStep order)) (first.foldl callStep order) rest

-- A fill in range leads to a status the order can take, or reports what is already stored.
def FillHasEdge (order : StampedOrder τ) : Call τ → Prop
  | .transition _ _ => True
  | .applyFill filledQuantity averageFillPrice _ =>
      0 ≤ filledQuantity → filledQuantity ≤ order.intent.quantity →
        fillStatus order.intent.quantity filledQuantity ∈ allowedTransitions order.status ∨
          order.filledQuantity = filledQuantity ∧ order.averageFillPrice = some averageFillPrice

theorem raiseKeeps_iff (order : StampedOrder τ) (call : Call τ) :
    RaiseKeeps order call ↔ FillHasEdge order call := by
  unfold RaiseKeeps callStep
  cases call with
  | transition newStatus now =>
    refine iff_of_true ?_ trivial
    have hcases := transitionInPlace_cases order newStatus now
    intro hraises
    change (transitionInPlace newStatus now order).2 = order
    generalize hresult : transitionInPlace newStatus now order = result at hcases
    cases hcases with
    | changed => exact absurd hraises (Program.Raises.of_ok hresult)
    | refused => rfl
  | applyFill filledQuantity averageFillPrice now =>
    have hcases := applyFill_cases order filledQuantity averageFillPrice now
    change ((applyFill filledQuantity averageFillPrice now).Raises order →
      (applyFill filledQuantity averageFillPrice now order).2 = order) ↔ _
    generalize hresult : applyFill filledQuantity averageFillPrice now order = result at hcases
    cases hcases with
    | outOfRange hrange exc =>
      refine iff_of_true (fun _ => rfl) ?_
      intro hnonneg hle
      cases hrange with
      | inl hneg => exact absurd hneg (not_lt.mpr hnonneg)
      | inr hgt => exact absurd hgt (not_lt.mpr hle)
    | accepted hnonneg hle hallowed =>
      exact iff_of_true (fun hraises => absurd hraises (Program.Raises.of_ok hresult))
        fun _ _ => .inl hallowed
    | refused hnonneg hle hallowed =>
      constructor
      · intro h _ _
        have hsame := h (Program.Raises.of_error hresult)
        rw [StampedOrder.mk.injEq, OrderRecord.mk.injEq] at hsame
        exact .inr ⟨hsame.1.2.2.2.2.1.symm, hsame.1.2.2.2.2.2.symm⟩
      · intro h _
        cases h hnonneg hle with
        | inl hedge => exact absurd hedge hallowed
        | inr hstored =>
          change StampedOrder.mk { order.toOrderRecord with
            filledQuantity := filledQuantity
            averageFillPrice := some averageFillPrice } order.createdAt order.updatedAt = order
          rw [← hstored.1, ← hstored.2]

-- On a terminal order every call raises.
theorem raises_of_terminal {order : StampedOrder τ} (h : order.status.IsTerminal) (call : Call τ) :
    call.run.Raises order := by
  have hnone : ∀ status, status ∉ allowedTransitions order.status := by
    intro status hstatus
    rcases h with h | h | h | h <;> rw [h] at hstatus <;> cases hstatus
  cases call with
  | transition newStatus now =>
    have hcases := transitionInPlace_cases order newStatus now
    change (transitionInPlace newStatus now).Raises order
    generalize hresult : transitionInPlace newStatus now order = result at hcases
    cases hcases with
    | changed hallowed => exact absurd hallowed (hnone _)
    | refused => exact .of_error hresult
  | applyFill filledQuantity averageFillPrice now =>
    have hcases := applyFill_cases order filledQuantity averageFillPrice now
    change (applyFill filledQuantity averageFillPrice now).Raises order
    generalize hresult : applyFill filledQuantity averageFillPrice now order = result at hcases
    cases hcases with
    | outOfRange _ _ => exact .of_error hresult
    | accepted _ _ hallowed => exact absurd hallowed (hnone _)
    | refused => exact .of_error hresult

theorem sameOutcome_step {settled order : StampedOrder τ} {call : Call τ}
    (hterminal : settled.status.IsTerminal) (h : SameOutcome settled order)
    (hkeeps : RaiseKeeps order call) : SameOutcome settled (callStep order call) := by
  have hstatus : order.status.IsTerminal := by
    rw [h.1]
    exact hterminal
  rw [hkeeps (raises_of_terminal hstatus call)]
  exact h

-- A run is atomic exactly when every fill in range finds an edge to the status it leads to
-- or reports what is already stored.
theorem atomic_iff (order : StampedOrder τ) (calls : List (Call τ)) :
    Atomic order calls ↔ Run.Along callStep FillHasEdge order calls := by
  rw [← Run.along_congr raiseKeeps_iff]
  constructor
  · exact fun h => h.1
  · intro h
    refine ⟨h, ?_⟩
    intro first rest hcalls hterminal
    subst hcalls
    exact Run.always_of_step (fun _ _ hs hkeeps => sameOutcome_step hterminal hs hkeeps)
      ⟨rfl, rfl, rfl⟩ h.rest

-- An order for ten, as it is created.
def sampleOrder : StampedOrder DateTime where
  clientOrderId := "B_setup123_EN_20260101000000"
  intent := {
    sleeveId := .b
    symbol := "ETHUSDT"
    side := .buy
    orderType := .limit
    action := .entry
    quantity := 10
    price := some 2000
    setupId := some "setup12345678" }
  createdAt := sampleClock
  updatedAt := sampleClock

-- A late report of a partial fill, on the order already filled.
theorem late_fill_is_kept :
    ¬Atomic sampleOrder [.transition .submitted sampleClock, .applyFill 10 2000 sampleClock,
      .applyFill 5 1900 sampleClock] := by
  intro h
  have hlate := h.1.2.2.1 ⟨.invalidOrderTransition .filled .partiallyFilled, by decide +kernel⟩
  exact absurd (congrArg (fun order => order.filledQuantity) hlate) (by decide +kernel)

end DualSleeve.OrderStateMachine
