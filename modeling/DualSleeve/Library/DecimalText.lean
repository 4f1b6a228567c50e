import Mathlib.Data.Rat.Defs
import Mathlib.Data.String.Basic
import Mathlib.Tactic.Ring

namespace DualSleeve.Library.DecimalText

-- The number a decimal numeral stands for: an optional sign, digits with at most one
-- point, and an optional exponent.

def digit (c : Char) : Option ℕ := if c.isDigit then some (c.toNat - '0'.toNat) else none

def digits (cs : List Char) : Option ℕ :=
  cs.foldlM (fun value c => (digit c).map (10 * value + ·)) 0

-- The sign in front, and what follows it.
def signed : List Char → Bool × List Char
  | '-' :: cs => (true, cs)
  | '+' :: cs => (false, cs)
  | cs => (false, cs)

def exponent : List Char → Option ℤ
  | [] => some 0
  | _ :: cs =>
      match signed cs with
      | (_, []) => none
      | (negative, power) => (digits power).map fun (n : ℕ) => if negative then -(n : ℤ) else n

def scale (value : ℚ) (power : ℤ) : ℚ :=
  if 0 ≤ power then value * 10 ^ power.toNat else value / 10 ^ (-power).toNat

def parse (cs : List Char) : Option ℚ := do
  let (negative, cs) := signed cs
  let (mantissa, power) := cs.span fun c => c != 'e' && c != 'E'
  let (whole, fraction) := mantissa.span (· != '.')
  let fraction := fraction.drop 1
  let power ← exponent power
  if whole ++ fraction = [] then none
  else
    let value ← digits (whole ++ fraction)
    let value := scale value (power - fraction.length)
    return if negative then -value else value

-- Numerals of one length are ordered as texts as they are as numbers.

theorem foldlM_digits (cs : List Char) (start : ℕ) :
    cs.foldlM (fun value c => (digit c).map (10 * value + ·)) start =
      (digits cs).map (10 ^ cs.length * start + ·) := by
  unfold digits
  induction cs generalizing start with
  | nil => simp
  | cons c cs ih =>
    rw [List.foldlM_cons, List.foldlM_cons]
    cases digit c with
    | none => rfl
    | some value =>
      simp only [Option.map_some, Option.bind_eq_bind, Option.bind_some]
      rw [ih (10 * start + value), ih (10 * 0 + value), Option.map_map]
      congr 1
      funext rest
      simp only [Function.comp_apply, List.length_cons]
      ring

theorem digits_cons (c : Char) (cs : List Char) :
    digits (c :: cs) =
      (digit c).bind fun value => (digits cs).map (10 ^ cs.length * value + ·) := by
  rw [digits, List.foldlM_cons]
  cases digit c with
  | none => rfl
  | some value =>
    simp only [Option.map_some, Option.bind_eq_bind, Option.bind_some]
    rw [foldlM_digits, Nat.mul_zero, Nat.zero_add]

theorem toNat_of_digit {c : Char} {value : ℕ} (h : digit c = some value) :
    c.toNat = 48 + value ∧ value < 10 := by
  unfold digit at h
  by_cases hc : c.isDigit
  · rw [if_pos hc, Option.some.injEq] at h
    have hrange : 48 ≤ c.toNat ∧ c.toNat ≤ 57 := by
      simp only [Char.isDigit, Bool.and_eq_true, decide_eq_true_eq, UInt32.le_iff_toNat_le, ge_iff_le] at hc
      exact hc
    have hzero : '0'.toNat = 48 := rfl
    omega
  · rw [if_neg hc] at h
    cases h

theorem digits_lt {cs : List Char} {value : ℕ} (h : digits cs = some value) : value < 10 ^ cs.length := by
  induction cs generalizing value with
  | nil =>
    obtain rfl := Option.some.inj h
    exact Nat.one_pos
  | cons c cs ih =>
    rw [digits_cons] at h
    obtain ⟨first, hfirst, h⟩ := Option.bind_eq_some_iff.mp h
    obtain ⟨rest, hrest, rfl⟩ := Option.map_eq_some_iff.mp h
    have hlt := ih hrest
    have hten := (toNat_of_digit hfirst).2
    calc 10 ^ cs.length * first + rest < 10 ^ cs.length * first + 10 ^ cs.length := by omega
      _ = 10 ^ cs.length * (first + 1) := by ring
      _ ≤ 10 ^ cs.length * 10 := Nat.mul_le_mul_left _ hten
      _ = 10 ^ (c :: cs).length := by rw [List.length_cons, Nat.pow_succ]

-- The leading digit decides, whatever follows it.
theorem leading_lt {unit x y a b : ℕ} (hlt : x < y) (ha : a < unit) : unit * x + a < unit * y + b := by
  calc unit * x + a < unit * (x + 1) := by rw [Nat.mul_succ]; omega
    _ ≤ unit * y := Nat.mul_le_mul_left unit hlt
    _ ≤ unit * y + b := Nat.le_add_right _ _

theorem digits_lt_iff {left right : List Char} {a b : ℕ} (hleft : digits left = some a)
    (hright : digits right = some b) (hlength : left.length = right.length) :
    left < right ↔ a < b := by
  induction left generalizing right a b with
  | nil =>
    obtain rfl := List.length_eq_zero_iff.mp hlength.symm
    obtain rfl := Option.some.inj (hleft.symm.trans hright)
    simp
  | cons c cs ih =>
    cases right with
    | nil => cases hlength
    | cons d ds =>
      rw [digits_cons] at hleft hright
      obtain ⟨x, hx, hleft⟩ := Option.bind_eq_some_iff.mp hleft
      obtain ⟨a, ha, rfl⟩ := Option.map_eq_some_iff.mp hleft
      obtain ⟨y, hy, hright⟩ := Option.bind_eq_some_iff.mp hright
      obtain ⟨b, hb, rfl⟩ := Option.map_eq_some_iff.mp hright
      have hlen : cs.length = ds.length := Nat.succ.inj hlength
      have halt := digits_lt ha
      have hblt := digits_lt hb
      have hcx := (toNat_of_digit hx).1
      have hdy := (toNat_of_digit hy).1
      have hchar : c < d ↔ x < y := by
        rw [Char.lt_def, UInt32.lt_iff_toNat_lt]
        show c.toNat < d.toNat ↔ x < y
        omega
      have hsame : c = d ↔ x = y := by
        rw [← Char.toNat_inj]
        omega
      rw [List.cons_lt_cons_iff, hchar, hsame, ih ha hb hlen, ← hlen]
      rw [← hlen] at hblt
      constructor
      · intro h
        cases h with
        | inl hlt => exact leading_lt hlt halt
        | inr heq =>
          rw [heq.1]
          omega
      · intro h
        rcases lt_trichotomy x y with hlt | heq | hgt
        · exact Or.inl hlt
        · subst heq
          exact Or.inr ⟨rfl, by omega⟩
        · have hback : 10 ^ cs.length * y + b < 10 ^ cs.length * x + a := leading_lt hgt hblt
          omega

-- The decimal text of a number is its numeral.

theorem digits_of_isDigit {cs : List Char} (h : ∀ c ∈ cs, c.isDigit) (start : ℕ) :
    cs.foldlM (fun value c => (digit c).map (10 * value + ·)) start =
      some (Nat.ofDigitChars 10 cs start) := by
  induction cs generalizing start with
  | nil => rfl
  | cons c cs ih =>
    rw [List.foldlM_cons, digit, if_pos (h c List.mem_cons_self), Nat.ofDigitChars_cons]
    exact ih (fun later hlater => h later (List.mem_cons_of_mem c hlater)) _

theorem digits_toString (n : ℕ) : digits (toString n).toList = some n := by
  rw [Nat.toString_eq_repr, Nat.toList_repr, digits,
    digits_of_isDigit (fun c hc => Nat.isDigit_of_mem_toDigits (by omega) (by omega) hc),
    Nat.ofDigitChars_ten_toDigits]

theorem length_toString {width n : ℕ} (hlow : 10 ^ width ≤ n) (hhigh : n < 10 ^ (width + 1)) :
    (toString n).toList.length = width + 1 := by
  rw [Nat.toString_eq_repr, Nat.toList_repr]
  have hle : (Nat.toDigits 10 n).length ≤ width + 1 :=
    (Nat.length_toDigits_le_iff (by omega) (Nat.succ_pos width)).mpr hhigh
  have hpos : 0 < (Nat.toDigits 10 n).length := Nat.length_toDigits_pos
  by_contra hne
  have hsmall : n < 10 ^ width :=
    (Nat.length_toDigits_le_iff (by omega) (by omega : 0 < width)).mp (by omega)
  omega

end DualSleeve.Library.DecimalText
