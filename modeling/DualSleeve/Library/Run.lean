import Mathlib.Data.List.Basic

namespace DualSleeve.Library.Run

variable {S E : Type*}

-- The states a run goes through, the one it starts in included.
def states (step : S → E → S) : S → List E → List S
  | state, [] => [state]
  | state, event :: events => state :: states step (step state event) events

-- `P` holds in every state of the run.
def Always (step : S → E → S) (P : S → Prop) (state : S) (events : List E) : Prop :=
  ∀ reached ∈ states step state events, P reached

-- Every step of the run meets `C`, a condition on the state before it and the event.
def Along (step : S → E → S) (C : S → E → Prop) : S → List E → Prop
  | _, [] => True
  | state, event :: events => C state event ∧ Along step C (step state event) events

instance (step : S → E → S) (P : S → Prop) [DecidablePred P] (state : S) (events : List E) :
    Decidable (Always step P state events) :=
  inferInstanceAs (Decidable (∀ reached ∈ states step state events, P reached))

instance decidableAlong (step : S → E → S) (C : S → E → Prop) [∀ state event, Decidable (C state event)] :
    (state : S) → (events : List E) → Decidable (Along step C state events)
  | _, [] => isTrue trivial
  | state, event :: events =>
    have := decidableAlong step C (step state event) events
    inferInstanceAs (Decidable (C state event ∧ Along step C (step state event) events))

@[simp] theorem always_nil (step : S → E → S) (P : S → Prop) (state : S) :
    Always step P state [] ↔ P state := by
  simp [Always, states]

@[simp] theorem always_cons (step : S → E → S) (P : S → Prop) (state : S) (event : E)
    (events : List E) :
    Always step P state (event :: events) ↔ P state ∧ Always step P (step state event) events := by
  simp [Always, states]

@[simp] theorem along_nil (step : S → E → S) (C : S → E → Prop) (state : S) :
    Along step C state [] := trivial

@[simp] theorem along_cons (step : S → E → S) (C : S → E → Prop) (state : S) (event : E)
    (events : List E) :
    Along step C state (event :: events) ↔ C state event ∧ Along step C (step state event) events :=
  Iff.rfl

theorem Always.head {step : S → E → S} {P : S → Prop} {state : S} {events : List E}
    (h : Always step P state events) : P state := by
  cases events with
  | nil => simpa using h
  | cons event events => exact ((always_cons _ _ _ _ _).mp h).1

theorem Along.imp {step : S → E → S} {C D : S → E → Prop}
    (hcd : ∀ state event, C state event → D state event) {state : S} {events : List E}
    (h : Along step C state events) : Along step D state events := by
  induction events generalizing state with
  | nil => trivial
  | cons event events ih => exact ⟨hcd _ _ h.1, ih h.2⟩

theorem along_congr {step : S → E → S} {C D : S → E → Prop}
    (hcd : ∀ state event, C state event ↔ D state event) (state : S) (events : List E) :
    Along step C state events ↔ Along step D state events :=
  ⟨Along.imp fun s e => (hcd s e).mp, Along.imp fun s e => (hcd s e).mpr⟩

-- What is left of a run is a run from the state reached.
theorem Along.rest {step : S → E → S} {C : S → E → Prop} {state : S} {events more : List E}
    (h : Along step C state (events ++ more)) : Along step C (events.foldl step state) more := by
  induction events generalizing state with
  | nil => exact h
  | cons event events ih => exact ih h.2

theorem along_of_forall {step : S → E → S} {C : S → E → Prop} {events : List E}
    (h : ∀ event ∈ events, ∀ state, C state event) (state : S) : Along step C state events := by
  induction events generalizing state with
  | nil => trivial
  | cons event events ih =>
    exact ⟨h event (by simp) state, ih (fun other ho => h other (List.mem_cons_of_mem _ ho)) _⟩

-- An invariant of every valid step holds in every state of a valid run.
theorem always_of_step {step : S → E → S} {V : S → E → Prop} {P : S → Prop}
    (hstep : ∀ state event, P state → V state event → P (step state event))
    {state : S} {events : List E} (h : P state) (hv : Along step V state events) :
    Always step P state events := by
  induction events generalizing state with
  | nil => simpa using h
  | cons event events ih =>
    exact (always_cons _ _ _ _ _).mpr ⟨h, ih (hstep _ _ h hv.1) hv.2⟩

-- `I` holds along every run. Where a step from `P` keeps `P` and is a `D` step exactly when
-- it meets `C`, a run has `P` throughout and only `D` steps exactly when all meet `C`.
theorem always_and_along_iff {step : S → E → S} {C D : S → E → Prop} {I P : S → Prop}
    (hinvariant : ∀ state event, I state → I (step state event))
    (hstep : ∀ state event, I state → P state → (P (step state event) ∧ D state event ↔ C state event))
    {state : S} {events : List E} (hi : I state) (h : P state) :
    Always step P state events ∧ Along step D state events ↔ Along step C state events := by
  induction events generalizing state with
  | nil => simp [h]
  | cons event events ih =>
    rw [always_cons, along_cons, along_cons]
    have hp := hstep state event hi h
    have hnext := hinvariant state event hi
    constructor
    · rintro ⟨⟨_, hrest⟩, hd, hdrest⟩
      exact ⟨hp.mp ⟨hrest.head, hd⟩, (ih hnext hrest.head).mp ⟨hrest, hdrest⟩⟩
    · rintro ⟨hc, hcrest⟩
      obtain ⟨hkept, hd⟩ := hp.mpr hc
      obtain ⟨hrest, hdrest⟩ := (ih hnext hkept).mpr hcrest
      exact ⟨⟨h, hrest⟩, hd, hdrest⟩

-- Where a valid step keeps `P` exactly when it meets `C`, a valid run has `P`
-- throughout exactly when all its steps meet `C`.
theorem always_iff_along {step : S → E → S} {V C : S → E → Prop} {P : S → Prop}
    (hstep : ∀ state event, P state → V state event → (P (step state event) ↔ C state event))
    {state : S} {events : List E} (h : P state) (hv : Along step V state events) :
    Always step P state events ↔ Along step C state events := by
  induction events generalizing state with
  | nil => simp [h]
  | cons event events ih =>
    rw [always_cons, along_cons]
    have hp := hstep state event h hv.1
    constructor
    · rintro ⟨_, hrest⟩
      exact ⟨hp.mp hrest.head, (ih hrest.head hv.2).mp hrest⟩
    · rintro ⟨hc, hrest⟩
      exact ⟨h, (ih (hp.mpr hc) hv.2).mpr hrest⟩

end DualSleeve.Library.Run
