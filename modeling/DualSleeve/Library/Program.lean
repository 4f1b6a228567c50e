import Mathlib.Logic.Basic
import Mathlib.Order.Basic

namespace DualSleeve.Library

-- A program over a state that may raise. Whatever it wrote before it raised stays
-- written, so an exception carries the state it was raised in.
def Program (σ ε α : Type) : Type := σ → Except ε α × σ

namespace Program

variable {σ τ ε α β γ : Type}

def ret (value : α) : Program σ ε α := fun state => (.ok value, state)

def andThen (first : Program σ ε α) (next : α → Program σ ε β) : Program σ ε β := fun state =>
  match first state with
  | (.ok value, after) => next value after
  | (.error exc, after) => (.error exc, after)

instance : Monad (Program σ ε) where
  pure := ret
  bind := andThen

def raise (exc : ε) : Program σ ε α := fun state => (.error exc, state)

def ofExcept (result : Except ε α) : Program σ ε α := fun state => (result, state)

def get : Program σ ε σ := fun state => (.ok state, state)

def modify (change : σ → σ) : Program σ ε Unit := fun state => (.ok (), change state)

-- `try: body except Exception`: the outcome of the body, as a value.
def attempt (body : Program σ ε α) : Program σ ε (Except ε α) := fun state =>
  (.ok (body state).1, (body state).2)

-- `try: body finally: finalizer`: what the finalizer raises takes the place of the outcome.
def ensure (body : Program σ ε α) (finalizer : Program σ ε Unit) : Program σ ε α := fun state =>
  match finalizer (body state).2 with
  | (.ok _, final) => ((body state).1, final)
  | (.error exc, final) => (.error exc, final)

-- The program over a state that holds something else besides.
def beside (body : Program σ ε α) : Program (σ × τ) ε α := fun state =>
  ((body state.1).1, (body state.1).2, state.2)

-- The program with a note of what it came to.
def noting (note : Except ε α → τ) (body : Program σ ε α) : Program (σ × List τ) ε α := fun state =>
  ((body state.1).1, (body state.1).2, state.2 ++ [note (body state.1).1])

-- A block with local variables, and what they hold at its end.
def withLocals (locals : τ) (body : Program (σ × τ) ε Unit) : Program σ ε τ := fun state =>
  let (outcome, after, locals) := body (state, locals)
  (outcome.map fun _ => locals, after)

-- Returned or raised, the program left this view of the state as it was.
def Keeps (view : σ → τ) (body : Program σ ε α) : Prop := ∀ state, view (body state).2 = view state

-- Seen through a view of its state, the program is another one.
def SeenAs (view : σ → τ) (body : Program σ ε α) (seen : Program τ ε α) : Prop :=
  ∀ state, seen (view state) = ((body state).1, view (body state).2)

def Raises (body : Program σ ε α) (state : σ) : Prop := ∃ exc, (body state).1 = .error exc

@[simp] theorem pure_apply (value : α) (state : σ) :
    (pure value : Program σ ε α) state = (.ok value, state) := rfl

@[simp] theorem modify_apply (change : σ → σ) (state : σ) :
    (modify change : Program σ ε Unit) state = (.ok (), change state) := rfl

@[simp] theorem ofExcept_apply (result : Except ε α) (state : σ) :
    (ofExcept result : Program σ ε α) state = (result, state) := rfl

theorem bind_apply (first : Program σ ε α) (next : α → Program σ ε β) (state : σ) :
    (first >>= next) state = match first state with
      | (.ok value, after) => next value after
      | (.error exc, after) => (.error exc, after) := rfl

theorem bind_of_ok {first : Program σ ε α} {next : α → Program σ ε β} {state after : σ} {value : α}
    (h : first state = (.ok value, after)) : (first >>= next) state = next value after := by
  rw [bind_apply, h]

theorem Raises.of_ok {body : Program σ ε α} {state after : σ} {value : α}
    (h : body state = (.ok value, after)) : ¬body.Raises state := by
  rintro ⟨exc, he⟩
  rw [h] at he
  cases he

theorem Raises.of_error {body : Program σ ε α} {state after : σ} {exc : ε}
    (h : body state = (.error exc, after)) : body.Raises state :=
  ⟨exc, congrArg Prod.fst h⟩

theorem bind_of_error {first : Program σ ε α} {next : α → Program σ ε β} {state after : σ} {exc : ε}
    (h : first state = (.error exc, after)) : (first >>= next) state = (.error exc, after) := by
  rw [bind_apply, h]

theorem keeps_pure (view : σ → τ) (value : α) : Keeps view (pure value : Program σ ε α) :=
  fun _ => rfl

theorem Keeps.bind {view : σ → τ} {first : Program σ ε α} {next : α → Program σ ε β}
    (hfirst : Keeps view first) (hnext : ∀ value, Keeps view (next value)) :
    Keeps view (first >>= next) := by
  intro state
  have hkept := hfirst state
  cases h : first state with
  | mk outcome after =>
    rw [h] at hkept
    cases outcome with
    | ok value => rw [bind_of_ok h, hnext value after, hkept]
    | error exc => rw [bind_of_error h, hkept]

theorem keeps_ofExcept (view : σ → τ) (result : Except ε α) : Keeps view (ofExcept result) :=
  fun _ => rfl

theorem Keeps.attempt {view : σ → τ} {body : Program σ ε α} (h : Keeps view body) :
    Keeps view (attempt body) :=
  h

-- A sequence that returns went through a value and a state of its first part.
theorem bind_eq_ok {first : Program σ ε α} {next : α → Program σ ε β} {state final : σ} {result : β} :
    (first >>= next) state = (.ok result, final) ↔
      ∃ value after, first state = (.ok value, after) ∧ next value after = (.ok result, final) := by
  rw [bind_apply]
  cases h : first state with
  | mk outcome after =>
    cases outcome with
    | ok value => simp [and_assoc]
    | error exc => simp

theorem beside_of_eq {body : Program σ ε α} {state after : σ} {outcome : Except ε α} (other : τ)
    (h : body state = (outcome, after)) : (beside body) (state, other) = (outcome, after, other) := by
  simp only [beside, h]

theorem beside_keeps {body : Program σ ε α} {state after : σ × τ} {outcome : Except ε α}
    (h : beside body state = (outcome, after)) : after.2 = state.2 := by
  obtain ⟨-, rfl⟩ := Prod.mk.inj h
  rfl

theorem noting_notes {note : Except ε α → τ} {body : Program σ ε α} {state after : σ × List τ}
    {outcome : Except ε α} (h : noting note body state = (outcome, after)) :
    after.2 = state.2 ++ [note outcome] := by
  obtain ⟨rfl, rfl⟩ := Prod.mk.inj h
  rfl

theorem ensure_of_ok {body : Program σ ε α} {finalizer : Program σ ε Unit} {state after final : σ}
    {outcome : Except ε α} (h : body state = (outcome, after)) (hfinal : finalizer after = (.ok (), final)) :
    ensure body finalizer state = (outcome, final) := by
  simp only [ensure, h, hfinal]

theorem ensure_of_error {body : Program σ ε α} {finalizer : Program σ ε Unit} {state after final : σ}
    {outcome : Except ε α} {exc : ε} (h : body state = (outcome, after))
    (hfinal : finalizer after = (.error exc, final)) : ensure body finalizer state = (.error exc, final) := by
  simp only [ensure, h, hfinal]

theorem withLocals_of_eq {body : Program (σ × τ) ε Unit} {state after : σ} {before locals : τ}
    {outcome : Except ε Unit} (h : body (state, before) = (outcome, after, locals)) :
    withLocals before body state = (outcome.map fun _ => locals, after) := by
  simp only [withLocals, h]

@[simp] theorem get_bind (next : σ → Program σ ε β) (state : σ) :
    (get >>= next) state = next state state := rfl

@[simp] theorem modify_bind (change : σ → σ) (next : Unit → Program σ ε β) (state : σ) :
    (modify change >>= next) state = next () (change state) := rfl

theorem attempt_bind {body : Program σ ε α} {next : Except ε α → Program σ ε β} {state after : σ}
    {outcome : Except ε α} (h : body state = (outcome, after)) :
    (attempt body >>= next) state = next outcome after := by
  rw [bind_apply, attempt, h]

@[simp] theorem ofExcept_ok_bind (value : α) (next : α → Program σ ε β) (state : σ) :
    ((ofExcept (.ok value) : Program σ ε α) >>= next) state = next value state := rfl

@[simp] theorem ofExcept_error_bind (exc : ε) (next : α → Program σ ε β) (state : σ) :
    ((ofExcept (.error exc) : Program σ ε α) >>= next) state = (.error exc, state) := rfl

section Views

variable {view : σ → τ}

theorem seenAs_pure (value : α) : SeenAs view (pure value : Program σ ε α) (pure value) :=
  fun _ => rfl

theorem seenAs_raise (exc : ε) : SeenAs view (raise exc : Program σ ε α) (raise exc) :=
  fun _ => rfl

theorem seenAs_ofExcept (result : Except ε α) : SeenAs view (ofExcept result) (ofExcept result) :=
  fun _ => rfl

theorem SeenAs.bind {first : Program σ ε α} {seen : Program τ ε α} {next : α → Program σ ε β}
    {seenNext : α → Program τ ε β} (hfirst : SeenAs view first seen)
    (hnext : ∀ value, SeenAs view (next value) (seenNext value)) :
    SeenAs view (first >>= next) (seen >>= seenNext) := by
  intro state
  have hseen := hfirst state
  cases h : first state with
  | mk outcome after =>
    rw [h] at hseen
    cases outcome with
    | ok value => rw [bind_of_ok h, bind_of_ok hseen, hnext value after]
    | error exc => rw [bind_of_error h, bind_of_error hseen]

theorem seenAs_get_bind {next : σ → Program σ ε α} {seen : τ → Program τ ε α}
    (h : ∀ state, SeenAs view (next state) (seen (view state))) : SeenAs view (get >>= next) (get >>= seen) :=
  fun state => h state state

theorem SeenAs.ite {p : Prop} [Decidable p] {first second : Program σ ε α} {seen seen' : Program τ ε α}
    (hfirst : SeenAs view first seen) (hsecond : SeenAs view second seen') :
    SeenAs view (if p then first else second) (if p then seen else seen') := by
  split
  · exact hfirst
  · exact hsecond

theorem SeenAs.attempt {body : Program σ ε α} {seen : Program τ ε α} (h : SeenAs view body seen) :
    SeenAs view (attempt body) (attempt seen) := by
  intro state
  simp only [Program.attempt, h state]

theorem SeenAs.ensure {body : Program σ ε α} {seen : Program τ ε α} {finalizer : Program σ ε Unit}
    {seenFinalizer : Program τ ε Unit} (h : SeenAs view body seen)
    (hfinal : SeenAs view finalizer seenFinalizer) :
    SeenAs view (ensure body finalizer) (ensure seen seenFinalizer) := by
  intro state
  have hseen := hfinal (body state).2
  cases hraised : finalizer (body state).2 with
  | mk outcome final =>
    rw [hraised] at hseen
    cases outcome <;> simp only [Program.ensure, h state, hseen, hraised]

-- What is held besides is seen as it is.
theorem SeenAs.beside {body : Program σ ε α} {seen : Program τ ε α} (h : SeenAs view body seen) :
    SeenAs (Prod.map view (id : γ → γ)) (beside body) (beside seen) := by
  intro state
  simp only [Program.beside, Prod.map, h state.1, id]

theorem SeenAs.withLocals {body : Program (σ × γ) ε Unit} {seen : Program (τ × γ) ε Unit}
    (h : SeenAs (Prod.map view id) body seen) (locals : γ) :
    SeenAs view (withLocals locals body) (withLocals locals seen) := by
  intro state
  have hseen := h (state, locals)
  simp only [Prod.map, id] at hseen
  simp only [Program.withLocals, hseen]

end Views

end Program

end DualSleeve.Library
