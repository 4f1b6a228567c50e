import Mathlib.Data.List.Basic
import Mathlib.Data.Nat.Digits.Lemmas
import Mathlib.Tactic.IntervalCases

namespace DualSleeve.Library.Text

-- `n` in exactly `width` decimal digits, zero padded; higher digits are not shown.
def paddedDigits (width n : ℕ) : List Char :=
  (List.range width).reverse.map fun place => Nat.digitChar (n / 10 ^ place % 10)

@[simp] theorem length_paddedDigits (width n : ℕ) : (paddedDigits width n).length = width := by
  simp [paddedDigits]

theorem paddedDigits_succ (width n : ℕ) :
    paddedDigits (width + 1) n = Nat.digitChar (n / 10 ^ width % 10) :: paddedDigits width n := by
  simp [paddedDigits, List.range_succ]

theorem digitChar_injective {a b : ℕ} (ha : a < 10) (hb : b < 10)
    (h : Nat.digitChar a = Nat.digitChar b) : a = b := by
  interval_cases a <;> interval_cases b <;> first | rfl | exact absurd h (by decide)

theorem paddedDigits_mod {width n m : ℕ} (h : paddedDigits width n = paddedDigits width m) :
    n % 10 ^ width = m % 10 ^ width := by
  induction width with
  | zero => simp [Nat.mod_one]
  | succ width ih =>
    rw [paddedDigits_succ, paddedDigits_succ] at h
    obtain ⟨hd, hr⟩ := List.cons.inj h
    have he := digitChar_injective (Nat.mod_lt _ (by omega)) (Nat.mod_lt _ (by omega)) hd
    rw [Nat.mod_pow_succ, Nat.mod_pow_succ, ih hr, he]

-- Numbers that fit the width are told apart by their digits.
theorem paddedDigits_injective {width n m : ℕ} (hn : n < 10 ^ width) (hm : m < 10 ^ width)
    (h : paddedDigits width n = paddedDigits width m) : n = m := by
  have he := paddedDigits_mod h
  rwa [Nat.mod_eq_of_lt hn, Nat.mod_eq_of_lt hm] at he

-- Two texts that end in a separator and a part without it split at the same place.
theorem append_separator_inj {α : Type*} {separator : α} {left left' right right' : List α}
    (hright : separator ∉ right) (hright' : separator ∉ right')
    (h : left ++ separator :: right = left' ++ separator :: right') : left = left' ∧ right = right' := by
  rcases List.append_eq_append_iff.mp h with ⟨extra, rfl, he⟩ | ⟨extra, rfl, he⟩
  · cases extra with
    | nil => simpa using he
    | cons first extra =>
      have hmem : separator ∈ right := by
        rw [List.cons_append] at he
        rw [(List.cons.inj he).2]
        simp
      exact absurd hmem hright
  · cases extra with
    | nil => simpa [eq_comm] using he
    | cons first extra =>
      have hmem : separator ∈ right' := by
        rw [List.cons_append] at he
        rw [(List.cons.inj he).2]
        simp
      exact absurd hmem hright'

end DualSleeve.Library.Text
