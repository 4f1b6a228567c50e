import DualSleeve.Execution.OrderStateMachine.Atomicity
import Mathlib.Tactic.Linarith

namespace DualSleeve.OrderStateMachine

open Library

variable {τ : Type}

-- The fill of an order, against its status.
structure Coherent (order : StampedOrder τ) : Prop where
  nonneg : 0 ≤ order.filledQuantity
  le_quantity : order.filledQuantity ≤ order.intent.quantity
  filled : order.status = .filled → order.filledQuantity = order.intent.quantity
  partially : order.status = .partiallyFilled →
    0 < order.filledQuantity ∧ order.filledQuantity < order.intent.quantity
  unfilled : order.status = .created ∨ order.status = .rejected → order.filledQuantity = 0

instance (order : StampedOrder τ) : Decidable (Coherent order) :=
  decidable_of_iff
    (0 ≤ order.filledQuantity ∧ order.filledQuantity ≤ order.intent.quantity ∧
      (order.status = .filled → order.filledQuantity = order.intent.quantity) ∧
      (order.status = .partiallyFilled →
        0 < order.filledQuantity ∧ order.filledQuantity < order.intent.quantity) ∧
      (order.status = .created ∨ order.status = .rejected → order.filledQuantity = 0))
    ⟨fun ⟨h1, h2, h3, h4, h5⟩ => ⟨h1, h2, h3, h4, h5⟩, fun ⟨h1, h2, h3, h4, h5⟩ => ⟨h1, h2, h3, h4, h5⟩⟩

def FillGrows (order : StampedOrder τ) (call : Call τ) : Prop :=
  order.filledQuantity ≤ (callStep order call).filledQuantity

instance (order : StampedOrder τ) (call : Call τ) : Decidable (FillGrows order call) :=
  inferInstanceAs (Decidable (_ ≤ _))

-- Every state of the run is coherent, and the fill never decreases along it.
def StaysCoherent (order : StampedOrder τ) (calls : List (Call τ)) : Prop :=
  Run.Always callStep Coherent order calls ∧ Run.Along callStep FillGrows order calls

instance (order : StampedOrder τ) (calls : List (Call τ)) : Decidable (StaysCoherent order calls) :=
  inferInstanceAs (Decidable (_ ∧ _))

-- A status is set where the stored fill fits it; a fill in range is no smaller than the
-- stored one, is not reported of an order created or rejected, and is not the empty fill
-- of a submitted order.
def FitsFill (order : StampedOrder τ) : Call τ → Prop
  | .transition newStatus _ => newStatus ∈ allowedTransitions order.status →
      (newStatus = .filled → order.filledQuantity = order.intent.quantity) ∧
      (newStatus = .partiallyFilled →
        0 < order.filledQuantity ∧ order.filledQuantity < order.intent.quantity) ∧
      (newStatus = .rejected → order.filledQuantity = 0)
  | .applyFill filledQuantity _ _ => 0 ≤ filledQuantity → filledQuantity ≤ order.intent.quantity →
      order.filledQuantity ≤ filledQuantity ∧
      (order.status = .created ∨ order.status = .rejected → filledQuantity = 0) ∧
      (order.status = .submitted → 0 < filledQuantity)

instance (order : StampedOrder τ) : (call : Call τ) → Decidable (FitsFill order call)
  | .transition newStatus _ =>
    inferInstanceAs (Decidable (newStatus ∈ allowedTransitions order.status → _ ∧ _ ∧ _))
  | .applyFill filledQuantity _ _ =>
    inferInstanceAs (Decidable (0 ≤ filledQuantity → _ → _ ∧ _ ∧ _))

theorem intent_callStep (order : StampedOrder τ) (call : Call τ) :
    (callStep order call).intent = order.intent := by
  unfold callStep
  cases call with
  | transition newStatus now =>
    have hcases := transitionInPlace_cases order newStatus now
    change (transitionInPlace newStatus now order).2.intent = _
    generalize transitionInPlace newStatus now order = result at hcases
    cases hcases <;> rfl
  | applyFill filledQuantity averageFillPrice now =>
    have hcases := applyFill_cases order filledQuantity averageFillPrice now
    change (applyFill filledQuantity averageFillPrice now order).2.intent = _
    generalize applyFill filledQuantity averageFillPrice now order = result at hcases
    cases hcases <;> rfl

theorem created_notMem (status : OrderStatus) : OrderStatus.created ∉ allowedTransitions status := by
  cases status <;> decide

theorem transition_fits_iff {order : StampedOrder τ} (h : Coherent order) (newStatus : OrderStatus)
    (now : τ) :
    Coherent (callStep order (.transition newStatus now)) ∧ FillGrows order (.transition newStatus now) ↔
      FitsFill order (.transition newStatus now) := by
  have hcases := transitionInPlace_cases order newStatus now
  unfold FillGrows callStep FitsFill
  change Coherent (transitionInPlace newStatus now order).2 ∧
    order.filledQuantity ≤ (transitionInPlace newStatus now order).2.filledQuantity ↔ _
  generalize transitionInPlace newStatus now order = result at hcases
  cases hcases with
  | refused hallowed => exact iff_of_true ⟨h, le_refl _⟩ fun hmem => absurd hmem hallowed
  | changed hallowed =>
    constructor
    · rintro ⟨hafter, _⟩ _
      exact ⟨hafter.filled, hafter.partially, fun hr => hafter.unfilled (.inr hr)⟩
    · intro hfits
      obtain ⟨hfilled, hpartially, hrejected⟩ := hfits hallowed
      refine ⟨⟨h.nonneg, h.le_quantity, hfilled, hpartially, ?_⟩, le_refl _⟩
      intro hstatus
      cases hstatus with
      | inl hcreated =>
        change newStatus = .created at hcreated
        rw [hcreated] at hallowed
        exact absurd hallowed (created_notMem _)
      | inr hr => exact hrejected hr

theorem fillStatus_eq_filled_iff {quantity filledQuantity : ℚ} :
    fillStatus quantity filledQuantity = .filled ↔ filledQuantity = quantity := by
  unfold fillStatus
  by_cases h : filledQuantity = quantity <;> simp [h]

theorem fillStatus_eq_partiallyFilled_iff {quantity filledQuantity : ℚ} :
    fillStatus quantity filledQuantity = .partiallyFilled ↔ filledQuantity ≠ quantity := by
  unfold fillStatus
  by_cases h : filledQuantity = quantity <;> simp [h]

-- A submitted or partially filled order takes every fill, an unknown one the full fill,
-- and no other order takes any.
theorem fill_allowed_iff {status : OrderStatus} {quantity filledQuantity : ℚ} :
    fillStatus quantity filledQuantity ∈ allowedTransitions status ↔
      status = .submitted ∨ status = .partiallyFilled ∨
        status = .unknown ∧ filledQuantity = quantity := by
  unfold fillStatus
  by_cases h : filledQuantity = quantity
  · rw [if_pos h]
    cases status <;> simp [allowedTransitions, h]
  · rw [if_neg h]
    cases status <;> simp [allowedTransitions, h]

theorem accepted_fits_iff {order : StampedOrder τ} (h : Coherent order)
    (hpos : 0 < order.intent.quantity) {filledQuantity averageFillPrice : ℚ} {now : τ}
    (hnonneg : 0 ≤ filledQuantity) (hle : filledQuantity ≤ order.intent.quantity)
    (hallowed : fillStatus order.intent.quantity filledQuantity ∈ allowedTransitions order.status) :
    Coherent { order with
        filledQuantity := filledQuantity
        averageFillPrice := some averageFillPrice
        status := fillStatus order.intent.quantity filledQuantity
        updatedAt := now } ∧ order.filledQuantity ≤ filledQuantity ↔
      order.filledQuantity ≤ filledQuantity ∧
        (order.status = .created ∨ order.status = .rejected → filledQuantity = 0) ∧
        (order.status = .submitted → 0 < filledQuantity) := by
  have hopen := fill_allowed_iff.mp hallowed
  constructor
  · rintro ⟨hafter, hgrows⟩
    refine ⟨hgrows, ?_, ?_⟩
    · intro hstatus
      rcases hstatus with hs | hs <;> rw [hs] at hopen <;> simp at hopen
    · intro _
      by_cases hfull : filledQuantity = order.intent.quantity
      · rw [hfull]
        exact hpos
      · exact (hafter.partially (fillStatus_eq_partiallyFilled_iff.mpr hfull)).1
  · rintro ⟨hgrows, _, hsubmitted⟩
    refine ⟨⟨hnonneg, hle, fillStatus_eq_filled_iff.mp, ?_, ?_⟩, hgrows⟩
    · intro hpartially
      have hpart := fillStatus_eq_partiallyFilled_iff.mp hpartially
      refine ⟨?_, lt_of_le_of_ne hle hpart⟩
      rcases hopen with hs | hs | hs
      · exact hsubmitted hs
      · have hbefore := (h.partially hs).1
        change 0 < filledQuantity
        linarith
      · exact absurd hs.2 hpart
    · intro hstatus
      have hfill : fillStatus order.intent.quantity filledQuantity = .filled ∨
          fillStatus order.intent.quantity filledQuantity = .partiallyFilled := by
        by_cases hfull : filledQuantity = order.intent.quantity
        · exact .inl (fillStatus_eq_filled_iff.mpr hfull)
        · exact .inr (fillStatus_eq_partiallyFilled_iff.mpr hfull)
      change fillStatus order.intent.quantity filledQuantity = .created ∨
        fillStatus order.intent.quantity filledQuantity = .rejected at hstatus
      rcases hfill with hf | hf <;> rw [hf] at hstatus <;> simp at hstatus

theorem refused_fits_iff {order : StampedOrder τ} (h : Coherent order)
    {filledQuantity averageFillPrice : ℚ} (hnonneg : 0 ≤ filledQuantity)
    (hle : filledQuantity ≤ order.intent.quantity)
    (hallowed : fillStatus order.intent.quantity filledQuantity ∉ allowedTransitions order.status) :
    Coherent { order with
        filledQuantity := filledQuantity
        averageFillPrice := some averageFillPrice } ∧ order.filledQuantity ≤ filledQuantity ↔
      order.filledQuantity ≤ filledQuantity ∧
        (order.status = .created ∨ order.status = .rejected → filledQuantity = 0) ∧
        (order.status = .submitted → 0 < filledQuantity) := by
  rw [fill_allowed_iff, not_or, not_or] at hallowed
  obtain ⟨hsubmitted, hpartially, _⟩ := hallowed
  constructor
  · rintro ⟨hafter, hgrows⟩
    exact ⟨hgrows, hafter.unfilled, fun hs => absurd hs hsubmitted⟩
  · rintro ⟨hgrows, hunfilled, _⟩
    refine ⟨⟨hnonneg, hle, ?_, fun hs => absurd hs hpartially, hunfilled⟩, hgrows⟩
    -- a filled order was filled in full, so no fill in range is larger
    intro hfilled
    have hfull := h.filled hfilled
    change filledQuantity = order.intent.quantity
    linarith

theorem applyFill_fits_iff {order : StampedOrder τ} (h : Coherent order)
    (hpos : 0 < order.intent.quantity) (filledQuantity averageFillPrice : ℚ) (now : τ) :
    Coherent (callStep order (.applyFill filledQuantity averageFillPrice now)) ∧
        FillGrows order (.applyFill filledQuantity averageFillPrice now) ↔
      FitsFill order (.applyFill filledQuantity averageFillPrice now) := by
  have hcases := applyFill_cases order filledQuantity averageFillPrice now
  unfold FillGrows callStep FitsFill
  change Coherent (applyFill filledQuantity averageFillPrice now order).2 ∧
    order.filledQuantity ≤ (applyFill filledQuantity averageFillPrice now order).2.filledQuantity ↔ _
  generalize applyFill filledQuantity averageFillPrice now order = result at hcases
  cases hcases with
  | outOfRange hrange exc =>
    refine iff_of_true ⟨h, le_refl _⟩ ?_
    intro hnonneg hle
    cases hrange with
    | inl hneg => exact absurd hneg (not_lt.mpr hnonneg)
    | inr hgt => exact absurd hgt (not_lt.mpr hle)
  | accepted hnonneg hle hallowed =>
    have hfits := @accepted_fits_iff τ order h hpos filledQuantity averageFillPrice now hnonneg hle hallowed
    exact hfits.trans ⟨fun hf _ _ => hf, fun hf => hf hnonneg hle⟩
  | refused hnonneg hle hallowed =>
    have hfits := @refused_fits_iff τ order h filledQuantity averageFillPrice hnonneg hle hallowed
    exact hfits.trans ⟨fun hf _ _ => hf, fun hf => hf hnonneg hle⟩

theorem call_fits_iff {order : StampedOrder τ} (hpos : 0 < order.intent.quantity) (h : Coherent order)
    (call : Call τ) :
    Coherent (callStep order call) ∧ FillGrows order call ↔ FitsFill order call := by
  cases call with
  | transition newStatus now => exact transition_fits_iff h newStatus now
  | applyFill filledQuantity averageFillPrice now =>
    exact applyFill_fits_iff h hpos filledQuantity averageFillPrice now

-- A new order stays coherent over a run exactly when every call fits its fill.
theorem staysCoherent_iff (order : StampedOrder τ) (hpos : 0 < order.intent.quantity)
    (hcreated : order.status = .created) (hunfilled : order.filledQuantity = 0)
    (calls : List (Call τ)) :
    StaysCoherent order calls ↔ Run.Along callStep FitsFill order calls := by
  have hstart : Coherent order := by
    refine ⟨hunfilled.ge, ?_, ?_, ?_, fun _ => hunfilled⟩
    · rw [hunfilled]
      exact hpos.le
    · rw [hcreated]
      intro h
      cases h
    · rw [hcreated]
      intro h
      cases h
  have hquantity : ∀ (state : StampedOrder τ) call, 0 < state.intent.quantity →
      0 < (callStep state call).intent.quantity := by
    intro state call h
    rw [intent_callStep]
    exact h
  exact Run.always_and_along_iff hquantity (fun _ call hq h => call_fits_iff hq h call) hpos hstart

-- Submitted, filled in two steps, and the last report comes twice.
theorem staysCoherent_sample :
    StaysCoherent sampleOrder [.transition .submitted sampleClock, .applyFill 4 2000 sampleClock,
      .applyFill 10 1990 sampleClock, .applyFill 10 1990 sampleClock] :=
  (staysCoherent_iff sampleOrder (by decide +kernel) rfl rfl _).mpr (by decide +kernel)

-- A fill of an order not yet submitted, an empty fill, reports out of order, and an order
-- filled by its status alone.
theorem fills_lose_status :
    ¬StaysCoherent sampleOrder [.applyFill 5 2000 sampleClock] ∧
      ¬StaysCoherent sampleOrder [.transition .submitted sampleClock, .applyFill 0 0 sampleClock] ∧
      ¬StaysCoherent sampleOrder [.transition .submitted sampleClock, .applyFill 5 2000 sampleClock,
        .applyFill 3 2000 sampleClock] ∧
      ¬StaysCoherent sampleOrder [.transition .submitted sampleClock, .transition .filled sampleClock] := by
  decide +kernel

end DualSleeve.OrderStateMachine
