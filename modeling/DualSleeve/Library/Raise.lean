import Mathlib.Logic.Basic
import Mathlib.Data.List.Basic

namespace DualSleeve.Library.Raise

variable {ε : Type*} {α β : Type}

@[simp] theorem ok_bind (value : α) (next : α → Except ε β) :
    ((Except.ok value : Except ε α) >>= next) = next value := rfl

@[simp] theorem error_bind (exc : ε) (next : α → Except ε β) :
    ((Except.error exc : Except ε α) >>= next) = .error exc := rfl

theorem bind_of_ok {first : Except ε α} {next : α → Except ε β} {value : α} (h : first = .ok value) :
    (first >>= next) = next value := by
  rw [h, ok_bind]

theorem bind_eq_ok {first : Except ε α} {next : α → Except ε β} {result : β} :
    (first >>= next) = .ok result ↔ ∃ value, first = .ok value ∧ next value = .ok result := by
  cases first <;> simp

theorem bind_eq_error {first : Except ε α} {next : α → Except ε β} {exc : ε} :
    (first >>= next) = .error exc ↔
      first = .error exc ∨ ∃ value, first = .ok value ∧ next value = .error exc := by
  cases first <;> simp

theorem exists_ok {result : Except ε α} (h : result.isOk = true) : ∃ value, result = .ok value := by
  cases result with
  | ok value => exact ⟨value, rfl⟩
  | error exc => cases h

theorem map_eq_ok {f : α → β} {first : Except ε α} {result : β} :
    first.map f = .ok result ↔ ∃ value, first = .ok value ∧ f value = result := by
  cases first <;> simp [Except.map]

theorem map_eq_error {f : α → β} {first : Except ε α} {exc : ε} :
    first.map f = .error exc ↔ first = .error exc := by
  cases first <;> simp [Except.map]

-- The values of a `mapM` that did not raise.
theorem mem_mapM {f : α → Except ε β} {items : List α} {results : List β}
    (h : items.mapM f = .ok results) {result : β} :
    result ∈ results ↔ ∃ item ∈ items, f item = .ok result := by
  induction items generalizing results with
  | nil =>
    obtain rfl := Except.ok.inj h
    simp
  | cons item items ih =>
    rw [List.mapM_cons] at h
    obtain ⟨first, hfirst, h⟩ := bind_eq_ok.mp h
    obtain ⟨rest, hrest, h⟩ := bind_eq_ok.mp h
    obtain rfl := Except.ok.inj h
    rw [List.mem_cons, ih hrest, List.exists_mem_cons_iff, hfirst, Except.ok.injEq]
    exact or_congr_left eq_comm

theorem mapM_ok (f : α → Except ε β) (items : List α) (h : ∀ item ∈ items, ∃ result, f item = .ok result) :
    ∃ results, items.mapM f = .ok results := by
  induction items with
  | nil => exact ⟨[], rfl⟩
  | cons item items ih =>
    obtain ⟨first, hfirst⟩ := h item List.mem_cons_self
    obtain ⟨rest, hrest⟩ := ih fun next hnext => h next (List.mem_cons_of_mem item hnext)
    exact ⟨first :: rest, by rw [List.mapM_cons, hfirst, ok_bind, hrest]; rfl⟩

theorem mapM_eq_ok_map {f : α → Except ε β} {g : α → β} {items : List α}
    (h : ∀ item ∈ items, f item = .ok (g item)) : items.mapM f = .ok (items.map g) := by
  induction items with
  | nil => rfl
  | cons item items ih =>
    rw [List.mapM_cons, h item List.mem_cons_self, ok_bind,
      ih fun next hnext => h next (List.mem_cons_of_mem item hnext)]
    rfl

theorem mapM_congr {f g : α → Except ε β} {items : List α} (h : ∀ item ∈ items, f item = g item) :
    items.mapM f = items.mapM g := by
  induction items with
  | nil => rfl
  | cons item items ih =>
    rw [List.mapM_cons, List.mapM_cons, h item List.mem_cons_self,
      ih fun next hnext => h next (List.mem_cons_of_mem item hnext)]

theorem mapM_map {γ : Type} {f : α → Except ε β} {f' : α → Except ε γ} {g : β → γ} {items : List α}
    (h : ∀ item, f' item = (f item).map g) : items.mapM f' = (items.mapM f).map (List.map g) := by
  induction items with
  | nil => rfl
  | cons item items ih =>
    rw [List.mapM_cons, List.mapM_cons, h, ih]
    cases f item with
    | error exc => rfl
    | ok first =>
      cases items.mapM f with
      | error exc => rfl
      | ok rest => rfl

-- What every step of a fold keeps holds of its result.
theorem foldlM_keeps {f : β → α → Except ε β} {P : β → Prop}
    (hstep : ∀ value item next, P value → f value item = .ok next → P next) {items : List α}
    {start result : β} (hstart : P start) (h : items.foldlM f start = .ok result) : P result := by
  induction items generalizing start with
  | nil =>
    cases h
    exact hstart
  | cons item items ih =>
    rw [List.foldlM_cons] at h
    obtain ⟨next, hnext, h⟩ := bind_eq_ok.mp h
    exact ih (hstep start item next hstart hnext) h

end DualSleeve.Library.Raise
