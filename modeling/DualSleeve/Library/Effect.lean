import DualSleeve.Library.Program
import DualSleeve.Library.Run
import Mathlib.Order.Defs.Unbundled

namespace DualSleeve.Library

variable {σ ε α β : Type} {R : σ → σ → Prop}

namespace Program

-- Returned or raised, the program leads from a state to a related one.
def Leads (R : σ → σ → Prop) (body : Program σ ε α) : Prop := ∀ state, R state (body state).2

theorem Leads.of_eq {body : Program σ ε α} (h : Leads R body) {state after : σ} {outcome : Except ε α}
    (hrun : body state = (outcome, after)) : R state after := by
  have hrelated := h state
  rwa [hrun] at hrelated

theorem Leads.attempt {body : Program σ ε α} (h : Leads R body) : Leads R (attempt body) :=
  h

-- What a program does after it looked at the state may depend on it.
theorem leads_get_bind {next : σ → Program σ ε β} (h : ∀ state, R state (next state state).2) :
    Leads R (get >>= next) :=
  h

theorem Leads.ite {p : Prop} [Decidable p] {first second : Program σ ε α} (hfirst : Leads R first)
    (hsecond : Leads R second) : Leads R (if p then first else second) := by
  split
  · exact hfirst
  · exact hsecond

-- A sequence relates as its first part does where that raises, and else as both parts do in turn.
theorem Leads.sequence {S T : σ → σ → Prop} {first : Program σ ε α} {next : α → Program σ ε β}
    (hraised : ∀ {before after}, R before after → T before after)
    (hreturned : ∀ {before between after}, R before between → S between after → T before after)
    (hfirst : Leads R first) (hnext : ∀ value, Leads S (next value)) : Leads T (first >>= next) := by
  intro state
  cases h : first state with
  | mk outcome after =>
    have hrelated := hfirst.of_eq h
    cases outcome with
    | ok value =>
      rw [bind_of_ok h]
      exact hreturned hrelated (hnext value after)
    | error exc =>
      rw [bind_of_error h]
      exact hraised hrelated

section Preorder

variable [IsPreorder σ R]

theorem leads_pure (value : α) : Leads R (pure value : Program σ ε α) :=
  fun state => refl state

theorem leads_ofExcept (result : Except ε α) : Leads R (ofExcept result) :=
  fun state => refl state

theorem Leads.bind {first : Program σ ε α} {next : α → Program σ ε β} (hfirst : Leads R first)
    (hnext : ∀ value, Leads R (next value)) : Leads R (first >>= next) :=
  Leads.sequence id (fun hbefore hafter => IsTrans.trans _ _ _ hbefore hafter) hfirst hnext

end Preorder

end Program

namespace Run

-- Steps that lead to related states make a run that does.
theorem foldl_related [IsPreorder σ R] {E : Type} {step : σ → E → σ} {events : List E}
    (h : ∀ event ∈ events, ∀ state, R state (step state event)) (state : σ) :
    R state (events.foldl step state) := by
  induction events generalizing state with
  | nil => exact refl state
  | cons event events ih =>
    have hfirst := h event List.mem_cons_self state
    exact IsTrans.trans _ _ _ hfirst (ih (fun other hother => h other (List.mem_cons_of_mem _ hother)) _)

end Run

end DualSleeve.Library
