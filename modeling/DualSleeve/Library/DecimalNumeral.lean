import DualSleeve.Library.DecimalText
import Mathlib.Algebra.Order.Field.Rat
import Mathlib.Data.List.TakeWhile
import Mathlib.Data.Nat.Factorization.Basic
import Mathlib.Tactic.FieldSimp

namespace DualSleeve.Library.DecimalNumeral

-- The numbers that decimal numerals stand for, and their numerals without an exponent.

def IsDecimal (x : ℚ) : Prop := ∃ (coefficient : ℤ) (places : ℕ), x = coefficient / 10 ^ places

-- The digits of a number, with zeros in front to have one more than `places`.
def padded (places value : ℕ) : List Char :=
  List.replicate (places + 1 - (toString value).toList.length) '0' ++ (toString value).toList

def sign (coefficient : ℤ) : List Char := if coefficient < 0 then ['-'] else []

def point (fraction : List Char) : List Char := if fraction = [] then [] else '.' :: fraction

-- The numeral of `coefficient / 10 ^ places`, with that many digits behind the point.
def fixed (coefficient : ℤ) (places : ℕ) : List Char :=
  let digits := padded places coefficient.natAbs
  sign coefficient ++ digits.take (digits.length - places) ++ point (digits.drop (digits.length - places))

-- The least number of places that a decimal can be written with.
def places (x : ℚ) : ℕ := ((List.range (x.den + 1)).find? fun count => x.den ∣ 10 ^ count).getD 0

-- The shortest numeral of a decimal.
def shortest (x : ℚ) : List Char := fixed (x.num * (10 ^ places x / x.den : ℕ)) (places x)

section Closure

variable {x y : ℚ}

theorem isDecimal_intCast (n : ℤ) : IsDecimal n := ⟨n, 0, by simp⟩

theorem IsDecimal.mul (hx : IsDecimal x) (hy : IsDecimal y) : IsDecimal (x * y) := by
  obtain ⟨a, m, rfl⟩ := hx
  obtain ⟨b, n, rfl⟩ := hy
  refine ⟨a * b, m + n, ?_⟩
  rw [div_mul_div_comm, pow_add, Int.cast_mul]

theorem IsDecimal.neg (hx : IsDecimal x) : IsDecimal (-x) := by
  obtain ⟨a, m, rfl⟩ := hx
  refine ⟨-a, m, ?_⟩
  rw [Int.cast_neg, neg_div]

theorem isDecimal_zpow (power : ℤ) : IsDecimal ((10 : ℚ) ^ power) := by
  cases power with
  | ofNat places => exact ⟨10 ^ places, 0, by simp⟩
  | negSucc places => exact ⟨1, places + 1, by simp [zpow_negSucc]⟩

theorem isDecimal_scale (value : ℕ) (power : ℤ) : IsDecimal (DecimalText.scale value power) := by
  unfold DecimalText.scale
  split
  · have hpower := isDecimal_intCast (10 ^ power.toNat)
    have hvalue := isDecimal_intCast value
    simpa using hvalue.mul hpower
  · exact ⟨value, (-power).toNat, by simp⟩

-- What a numeral stands for is a decimal.
theorem isDecimal_parse {cs : List Char} (h : DecimalText.parse cs = some x) : IsDecimal x := by
  unfold DecimalText.parse at h
  simp only [Option.bind_eq_bind, Option.bind_eq_some_iff] at h
  obtain ⟨power, -, h⟩ := h
  split at h
  · cases h
  · obtain ⟨value, -, h⟩ := Option.bind_eq_some_iff.mp h
    have hscaled := isDecimal_scale value
    split at h
    · cases h
      exact (hscaled _).neg
    · cases h
      exact hscaled _

end Closure

section Parse

open DecimalText

theorem digits_zeros (count : ℕ) (cs : List Char) : digits (List.replicate count '0' ++ cs) = digits cs := by
  induction count with
  | zero => rfl
  | succ count ih =>
    have hzero : digit '0' = some 0 := rfl
    rw [List.replicate_succ, List.cons_append, digits_cons, hzero, ih]
    cases digits cs <;> simp

theorem digits_padded (places value : ℕ) : digits (padded places value) = some value := by
  rw [padded, digits_zeros, digits_toString]

theorem isDigit_padded {places value : ℕ} {c : Char} (h : c ∈ padded places value) : c.isDigit := by
  rcases List.mem_append.mp h with hzero | hdigit
  · rw [List.eq_of_mem_replicate hzero]
    rfl
  · rw [Nat.toString_eq_repr, Nat.toList_repr] at hdigit
    exact Nat.isDigit_of_mem_toDigits (by omega) (by omega) hdigit

theorem length_padded (places value : ℕ) : places < (padded places value).length := by
  rw [padded, List.length_append, List.length_replicate]
  omega

variable {whole fraction : List Char}

theorem span_point (hwhole : ∀ c ∈ whole, c.isDigit) :
    (whole ++ point fraction).span (· != '.') = (whole, point fraction) := by
  have hkept : ∀ c ∈ whole, (c != '.') = true := by
    intro c hc
    have hdigit := hwhole c hc
    rw [bne_iff_ne]
    rintro rfl
    cases hdigit
  rw [List.span_eq_takeWhile_dropWhile, List.takeWhile_append_of_pos hkept, List.dropWhile_append_of_pos hkept]
  unfold point
  split <;> simp

theorem drop_point : (point fraction).drop 1 = fraction := by
  unfold point
  split
  · rename_i h
    rw [h]
    rfl
  · rfl

-- Digits and a point hold no exponent.
theorem span_exponent (hwhole : ∀ c ∈ whole, c.isDigit) (hfraction : ∀ c ∈ fraction, c.isDigit) :
    (whole ++ point fraction).span (fun c => c != 'e' && c != 'E') = (whole ++ point fraction, []) := by
  have hkept : ∀ c ∈ whole ++ point fraction, (c != 'e' && c != 'E') = true := by
    intro c hc
    have hplain : c.isDigit ∨ c = '.' := by
      rcases List.mem_append.mp hc with hc | hc
      · exact .inl (hwhole c hc)
      · unfold point at hc
        split at hc
        · cases hc
        · exact (List.mem_cons.mp hc).elim .inr fun hc => .inl (hfraction c hc)
    rw [Bool.and_eq_true, bne_iff_ne, bne_iff_ne]
    constructor
    · rintro rfl
      rcases hplain with h | h <;> cases h
    · rintro rfl
      rcases hplain with h | h <;> cases h
  rw [List.span_eq_takeWhile_dropWhile, List.takeWhile_eq_self_iff.mpr hkept, List.dropWhile_eq_nil_iff.mpr hkept]

-- A sign, digits and digits behind a point; by the sign.
theorem parse_point (negative : Bool) {value : ℕ} (hne : whole ≠ []) (hwhole : ∀ c ∈ whole, c.isDigit)
    (hfraction : ∀ c ∈ fraction, c.isDigit) (hdigits : digits (whole ++ fraction) = some value) :
    parse ((if negative then ['-'] else []) ++ whole ++ point fraction) =
      some (if negative then -((value : ℚ) / 10 ^ fraction.length) else (value : ℚ) / 10 ^ fraction.length) := by
  have hsigned : signed ((if negative then ['-'] else []) ++ whole ++ point fraction) =
      (negative, whole ++ point fraction) := by
    cases negative with
    | true => rfl
    | false =>
      obtain ⟨c, rest, rfl⟩ := List.exists_cons_of_ne_nil hne
      have hdigit := hwhole c List.mem_cons_self
      change signed (c :: (rest ++ point fraction)) = _
      unfold signed
      split
      · rename_i heq
        cases heq
        cases hdigit
      · rename_i heq
        cases heq
        cases hdigit
      · rfl
  have hscale : scale (value : ℚ) (0 - (fraction.length : ℤ)) = value / 10 ^ fraction.length := by
    unfold scale
    split
    · rename_i h
      have hzero : fraction.length = 0 := by omega
      simp [hzero]
    · simp
  have hsome : whole ++ fraction ≠ [] := by simp [hne]
  unfold parse
  simp only [hsigned, span_exponent hwhole hfraction, span_point hwhole, drop_point, exponent, if_neg hsome,
    hdigits, hscale, Option.bind_eq_bind, Option.bind_some]
  cases negative <;> rfl

-- The numeral of a number is read as this number.
theorem parse_fixed (coefficient : ℤ) (places : ℕ) :
    parse (fixed coefficient places) = some ((coefficient : ℚ) / 10 ^ places) := by
  have hlong := length_padded places coefficient.natAbs
  have hdigit : ∀ c ∈ padded places coefficient.natAbs, c.isDigit := fun c hc => isDigit_padded hc
  have hvalue := digits_padded places coefficient.natAbs
  unfold fixed
  generalize padded places coefficient.natAbs = digits at hlong hdigit hvalue
  have hne : digits.take (digits.length - places) ≠ [] := by
    rw [← List.length_pos_iff, List.length_take]
    omega
  have hplaces : (digits.drop (digits.length - places)).length = places := by
    rw [List.length_drop]
    omega
  have hparse := parse_point (decide (coefficient < 0)) hne (fun c hc => hdigit c (List.mem_of_mem_take hc))
    (fun c hc => hdigit c (List.mem_of_mem_drop hc)) (by rw [List.take_append_drop]; exact hvalue)
  simp only [decide_eq_true_eq, hplaces] at hparse
  rw [sign, hparse]
  congr 1
  split
  · rename_i h
    rw [← neg_div, ← Int.cast_natCast, Int.ofNat_natAbs_of_nonpos h.le, Int.cast_neg, neg_neg]
  · rename_i h
    rw [← Int.cast_natCast, Int.natAbs_of_nonneg (not_lt.mp h)]

-- The characters of a numeral.
theorem mem_fixed {coefficient : ℤ} {places : ℕ} {c : Char} (h : c ∈ fixed coefficient places) :
    c.isDigit ∨ c = '-' ∨ c = '.' := by
  unfold fixed sign point at h
  simp only [List.mem_append] at h
  rcases h with (h | h) | h
  · split at h
    · exact .inr (.inl (List.mem_singleton.mp h))
    · cases h
  · exact .inl (isDigit_padded (List.mem_of_mem_take h))
  · split at h
    · cases h
    · rcases List.mem_cons.mp h with h | h
      · exact .inr (.inr h)
      · exact .inl (isDigit_padded (List.mem_of_mem_drop h))

end Parse

section Shortest

-- A divisor of a power of ten divides the power with itself as its exponent: no prime goes
-- into a number as often as the number itself says.
theorem dvd_pow_self_of_dvd_pow {den count : ℕ} (hpos : den ≠ 0) (h : den ∣ 10 ^ count) : den ∣ 10 ^ den := by
  rw [← Nat.factorization_le_iff_dvd hpos (pow_ne_zero _ (by norm_num))] at h ⊢
  intro prime
  have hle := h prime
  rw [Nat.factorization_pow, Finsupp.smul_apply, smul_eq_mul] at hle ⊢
  have hlt := Nat.factorization_lt prime hpos
  rcases Nat.eq_zero_or_pos (Nat.factorization 10 prime) with hzero | hten
  · rw [hzero] at hle ⊢
    omega
  · exact hlt.le.trans (Nat.le_mul_of_pos_right den hten)

theorem den_dvd_of_isDecimal {x : ℚ} (h : IsDecimal x) : x.den ∣ 10 ^ places x := by
  obtain ⟨coefficient, count, hx⟩ := h
  have hdvd : x.den ∣ 10 ^ count := by
    have hden : ((coefficient : ℚ) / ((10 ^ count : ℤ) : ℚ)).den ∣ 10 ^ count := by
      have hdiv := Rat.den_dvd coefficient (10 ^ count)
      rw [Rat.divInt_eq_div] at hdiv
      exact_mod_cast hdiv
    rw [hx]
    exact_mod_cast hden
  have hself := dvd_pow_self_of_dvd_pow x.den_nz hdvd
  unfold places
  cases hfind : (List.range (x.den + 1)).find? fun count => x.den ∣ 10 ^ count with
  | some found => simpa using List.find?_some hfind
  | none =>
    have hnone := List.find?_eq_none.mp hfind x.den (List.mem_range.mpr (Nat.lt_succ_self _))
    exact absurd hself (by simpa using hnone)

theorem shortest_of_isDecimal {x : ℚ} (h : IsDecimal x) :
    x = ((x.num * (10 ^ places x / x.den : ℕ) : ℤ) : ℚ) / 10 ^ places x := by
  obtain ⟨factor, hfactor⟩ := den_dvd_of_isDecimal h
  have hden : (x.den : ℚ) ≠ 0 := Nat.cast_ne_zero.mpr x.den_nz
  have hpow : (10 : ℚ) ^ places x = x.den * factor := by exact_mod_cast hfactor
  have hfactor_ne : (factor : ℚ) ≠ 0 := by
    intro hzero
    rw [hzero, mul_zero] at hpow
    exact absurd hpow (pow_ne_zero _ (by norm_num))
  rw [hfactor, Nat.mul_div_cancel_left _ x.den_pos, hpow, Int.cast_mul, Int.cast_natCast]
  field_simp
  exact Rat.mul_den_eq_num x

end Shortest

end DualSleeve.Library.DecimalNumeral
