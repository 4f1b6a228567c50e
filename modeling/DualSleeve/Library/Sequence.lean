import Mathlib.Data.List.Basic
import Mathlib.Algebra.Order.Ring.Int

namespace DualSleeve.Library.Sequence

variable {α β : Type*}

-- Sequences read by integer positions. A negative position counts from the end.
def place (length : ℕ) (index : ℤ) : ℤ :=
  if index < 0 then length + index else index

-- `values[index]`
def item? (values : List α) (index : ℤ) : Option α :=
  if place values.length index < 0 then none else values[(place values.length index).toNat]?

-- `values[:stop]`
def upTo (values : List α) (stop : ℤ) : List α :=
  values.take (place values.length stop).toNat

-- `values[start:]`
def onward (values : List α) (start : ℤ) : List α :=
  values.drop (place values.length start).toNat

-- `values[start:stop]`
def slice (values : List α) (start stop : ℤ) : List α :=
  (upTo values stop).drop (place values.length start).toNat

-- `range(start, stop)`
def integers (start stop : ℤ) : List ℤ :=
  (List.range (stop - start).toNat).map fun steps : ℕ => start + steps

-- The values up to the first that meets `last`, that one included.
def through (last : α → Bool) : List α → List α
  | [] => []
  | value :: values => if last value then [value] else value :: through last values

theorem through_of_last (last : α → Bool) {value : α} (h : last value = true) (values : List α) :
    through last (value :: values) = [value] :=
  if_pos h

theorem through_of_not_last (last : α → Bool) {value : α} (h : ¬last value = true) (values : List α) :
    through last (value :: values) = value :: through last values :=
  if_neg h

theorem place_of_nonneg {length : ℕ} {index : ℤ} (h : 0 ≤ index) : place length index = index :=
  if_neg (by omega)

@[simp] theorem place_neg_one (length : ℕ) : place length (-1) = length - 1 := rfl

theorem item?_of_nonneg {values : List α} {index : ℤ} (h : 0 ≤ index) :
    item? values index = values[index.toNat]? := by
  rw [item?, place_of_nonneg h, if_neg (by omega)]

theorem item?_neg_one (values : List α) : item? values (-1) = values.getLast? := by
  rw [item?, place_neg_one, List.getLast?_eq_getElem?]
  cases values with
  | nil => simp
  | cons first rest =>
    rw [if_neg (by simp)]
    congr 1
    simp

theorem item?_map (f : α → β) (values : List α) (index : ℤ) :
    item? (values.map f) index = (item? values index).map f := by
  unfold item?
  rw [List.length_map, List.getElem?_map]
  by_cases h : place values.length index < 0
  · rw [if_pos h, if_pos h, Option.map_none]
  · rw [if_neg h, if_neg h]

theorem mem_of_item? {values : List α} {index : ℤ} {value : α} (h : item? values index = some value) :
    value ∈ values := by
  unfold item? at h
  split at h
  · cases h
  · exact List.mem_of_getElem? h

theorem upTo_of_nonneg {values : List α} {stop : ℤ} (h : 0 ≤ stop) :
    upTo values stop = values.take stop.toNat := by
  rw [upTo, place_of_nonneg h]

theorem onward_of_nonneg {values : List α} {start : ℤ} (h : 0 ≤ start) :
    onward values start = values.drop start.toNat := by
  rw [onward, place_of_nonneg h]

theorem upTo_map (f : α → β) (values : List α) (stop : ℤ) :
    upTo (values.map f) stop = (upTo values stop).map f := by
  rw [upTo, upTo, List.length_map, List.map_take]

theorem onward_map (f : α → β) (values : List α) (start : ℤ) :
    onward (values.map f) start = (onward values start).map f := by
  rw [onward, onward, List.length_map, List.map_drop]

theorem slice_map (f : α → β) (values : List α) (start stop : ℤ) :
    slice (values.map f) start stop = (slice values start stop).map f := by
  rw [slice, slice, List.length_map, upTo_map, List.map_drop]

-- The items before the last, from the `count`-th before it on.
theorem slice_before_last (values : List α) (count : ℕ) (h : count + 1 ≤ values.length) :
    slice values (-(count : ℤ) - 1) (-1) = values.dropLast.drop (values.length - 1 - count) := by
  have hstart : (place values.length (-(count : ℤ) - 1)).toNat = values.length - 1 - count := by
    rw [place, if_pos (by omega)]
    omega
  have hstop : (place values.length (-1)).toNat = values.length - 1 := by
    rw [place_neg_one]
    omega
  rw [slice, upTo, hstart, hstop, List.dropLast_eq_take]

theorem place_add_one {length : ℕ} {index : ℤ} (h : index ≠ -1) :
    place length (index + 1) = place length index + 1 := by
  unfold place
  by_cases hindex : index < 0
  · rw [if_pos (by omega), if_pos hindex]
    omega
  · rw [if_neg (by omega), if_neg hindex]

-- An item stands between the values before it and the ones onward from the next position.
theorem split_at_item {values : List α} {index : ℤ} {value : α} (hindex : index ≠ -1)
    (h : item? values index = some value) :
    ∃ before, values = before ++ value :: onward values (index + 1) ∧
      place values.length index = before.length := by
  unfold item? at h
  by_cases hplace : place values.length index < 0
  · rw [if_pos hplace] at h
    cases h
  rw [if_neg hplace] at h
  obtain ⟨hlt, hvalue⟩ := List.getElem?_eq_some_iff.mp h
  refine ⟨values.take (place values.length index).toNat, ?_, ?_⟩
  · rw [onward, place_add_one hindex, show (place values.length index + 1).toNat =
      (place values.length index).toNat + 1 by omega, ← hvalue, List.getElem_cons_drop hlt,
      List.take_append_drop]
  · rw [List.length_take]
    omega

-- The item some steps after another.
theorem item?_add {before between after : List α} {first value : α} {index : ℤ}
    (hplace : place (before ++ first :: (between ++ value :: after)).length index = before.length) :
    item? (before ++ first :: (between ++ value :: after)) (index + (between.length + 1)) =
      some value := by
  have hlength : (before ++ first :: (between ++ value :: after)).length =
      before.length + (between.length + 1) + (after.length + 1) := by
    simp only [List.length_append, List.length_cons]
    omega
  have hsteps : place (before ++ first :: (between ++ value :: after)).length
      (index + (between.length + 1)) = before.length + (between.length + 1) := by
    rw [hlength] at hplace ⊢
    unfold place at hplace ⊢
    by_cases hindex : index < 0
    · rw [if_pos hindex] at hplace
      rw [if_pos (by omega)]
      omega
    · rw [if_neg hindex] at hplace
      rw [if_neg (by omega)]
      omega
  rw [item?, hsteps, if_neg (by omega), show ((before.length : ℤ) + (between.length + 1)).toNat =
    before.length + (between.length + 1) by omega, List.getElem?_append_right (by omega),
    Nat.add_sub_cancel_left, List.getElem?_cons_succ, List.getElem?_append_right le_rfl, Nat.sub_self,
    List.getElem?_cons_zero]

-- Earlier values before a sequence leave what is read from its end on as it was.

theorem item?_append_right (earlier values : List α) {index : ℤ} (h : 0 ≤ index) :
    item? (earlier ++ values) (earlier.length + index) = item? values index := by
  rw [item?_of_nonneg (by omega), item?_of_nonneg h, List.getElem?_append_right (by omega)]
  congr 1
  omega

theorem slice_append_right (earlier values : List α) {start stop : ℤ} (hstart : start < 0) (hstop : stop < 0)
    (hstart' : -start ≤ values.length) (hstop' : -stop ≤ values.length) :
    slice (earlier ++ values) start stop = slice values start stop := by
  have hplace : ∀ index : ℤ, index < 0 → -index ≤ values.length →
      (place (earlier ++ values).length index).toNat = earlier.length + (place values.length index).toNat := by
    intro index hnegative hbound
    rw [place, place, if_pos hnegative, if_pos hnegative, List.length_append]
    omega
  rw [slice, slice, upTo, upTo, hplace start hstart hstart', hplace stop hstop hstop', List.take_length_add_append,
    List.drop_length_add_append]

theorem integers_add (offset start stop : ℤ) :
    integers (offset + start) (offset + stop) = (integers start stop).map (offset + ·) := by
  rw [integers, integers, List.map_map, show offset + stop - (offset + start) = stop - start by omega]
  refine List.map_congr_left fun steps _ => ?_
  simp only [Function.comp_apply]
  omega

theorem mem_integers {start stop index : ℤ} :
    index ∈ integers start stop ↔ start ≤ index ∧ index < stop := by
  simp only [integers, List.mem_map, List.mem_range]
  constructor
  · intro h
    obtain ⟨steps, hsteps, rfl⟩ := h
    omega
  · intro h
    exact ⟨(index - start).toNat, by omega, by omega⟩

-- If `p` holds before every value where it holds, the values that meet it come first.
theorem eq_filter_append (p : α → Bool) {values : List α}
    (h : values.Pairwise fun near far => p far = true → p near = true) :
    ∃ rest, values = values.filter p ++ rest ∧ ∀ value ∈ rest, p value = false := by
  induction values with
  | nil => exact ⟨[], rfl, nofun⟩
  | cons first values ih =>
    obtain ⟨hfirst, hvalues⟩ := List.pairwise_cons.mp h
    by_cases hp : p first = true
    · obtain ⟨rest, hsplit, hrest⟩ := ih hvalues
      rw [List.filter_cons_of_pos hp]
      exact ⟨rest, congrArg (first :: ·) hsplit, hrest⟩
    · have hnone : ∀ value ∈ first :: values, p value = false := by
        intro value hvalue
        cases List.mem_cons.mp hvalue with
        | inl heq => exact heq ▸ Bool.eq_false_iff.mpr hp
        | inr hmem => exact Bool.eq_false_iff.mpr fun hlater => hp (hfirst value hmem hlater)
      refine ⟨first :: values, ?_, hnone⟩
      rw [List.filter_eq_nil_iff.mpr fun value hvalue => ne_true_of_eq_false (hnone value hvalue),
        List.nil_append]

-- Of the values that meet `p` there is a last one.
theorem exists_last_of_mem (p : α → Prop) [DecidablePred p] {items : List α}
    (h : ∃ item ∈ items, p item) :
    ∃ before last after, items = before ++ last :: after ∧ p last ∧ ∀ item ∈ after, ¬ p item := by
  induction items with
  | nil =>
    obtain ⟨item, hitem, -⟩ := h
    cases hitem
  | cons first rest ih =>
    by_cases hrest : ∃ item ∈ rest, p item
    · obtain ⟨before, last, after, rfl, hlast, hafter⟩ := ih hrest
      exact ⟨first :: before, last, after, rfl, hlast, hafter⟩
    · obtain ⟨item, hitem, hp⟩ := h
      have hfirst : item = first := by
        cases List.mem_cons.mp hitem with
        | inl heq => exact heq
        | inr hmem => exact absurd ⟨item, hmem, hp⟩ hrest
      subst hfirst
      exact ⟨[], item, rest, rfl, hp, fun later hlater hlaterp => hrest ⟨later, hlater, hlaterp⟩⟩

-- All but the last element are followed by another one.
theorem exists_after_of_mem_dropLast {R : α → α → Prop} {values : List α} (h : values.Pairwise R)
    {value : α} (hvalue : value ∈ values.dropLast) : ∃ after ∈ values, R value after := by
  have hne : values ≠ [] := by
    rintro rfl
    cases hvalue
  rw [← List.dropLast_append_getLast hne] at h
  obtain ⟨-, -, hafter⟩ := List.pairwise_append.mp h
  exact ⟨values.getLast hne, List.getLast_mem hne, hafter value hvalue _ (List.mem_singleton_self _)⟩

theorem countP_le_one_of_dropLast {p : α → Bool} {values : List α}
    (h : ∀ value ∈ values.dropLast, ¬p value) : values.countP p ≤ 1 := by
  cases List.eq_nil_or_concat values with
  | inl hnil => simp [hnil]
  | inr hconcat =>
    obtain ⟨before, last, rfl⟩ := hconcat
    rw [List.concat_eq_append, List.dropLast_concat] at h
    rw [List.concat_eq_append, List.countP_append, List.countP_eq_zero.mpr h, zero_add]
    exact List.countP_le_length

end DualSleeve.Library.Sequence
