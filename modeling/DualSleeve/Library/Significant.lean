import Mathlib.Algebra.Order.Floor.Ring
import Mathlib.Algebra.Ring.Int.Parity
import Mathlib.Data.Int.Log
import Mathlib.Tactic.Linarith
import Mathlib.Tactic.FieldSimp
import Mathlib.Tactic.Ring

namespace DualSleeve.Library.Significant

variable {K : Type*} [Field K] [LinearOrder K] [IsStrictOrderedRing K] [FloorRing K]

-- The nearest integer; of two that are equally near, the even one.
def nearest (x : K) : ℤ :=
  if Int.fract x < 1 / 2 ∨ Int.fract x = 1 / 2 ∧ Even ⌊x⌋ then ⌊x⌋ else ⌊x⌋ + 1

theorem le_nearest_iff {n : ℤ} {x : K} :
    n ≤ nearest x ↔ (n : K) - 1 / 2 < x ∨ (n : K) - 1 / 2 = x ∧ Even n := by
  have hx := Int.floor_add_fract x
  have hlow := Int.fract_nonneg x
  have hhigh := Int.fract_lt_one x
  unfold nearest
  rcases lt_trichotomy n (⌊x⌋ + 1) with hn | rfl | hn
  · have hn' : (n : K) ≤ ⌊x⌋ := by exact_mod_cast Int.lt_add_one_iff.mp hn
    refine iff_of_true ?_ (Or.inl (by linarith))
    split <;> omega
  · push_cast
    split
    · rename_i h
      refine iff_of_false (by omega) ?_
      rintro (hlt | ⟨heq, heven⟩)
      · rcases h with h | h <;> linarith
      · rcases h with h | ⟨-, h⟩
        · linarith
        · exact absurd heven (Int.even_add_one.not.mpr (not_not.mpr h))
    · rename_i h
      rw [not_or, not_and, not_lt] at h
      refine iff_of_true le_rfl ?_
      rcases h.1.lt_or_eq with hlt | heq
      · exact Or.inl (by linarith)
      · exact Or.inr ⟨by linarith, Int.even_add_one.mpr (h.2 heq.symm)⟩
  · have hn' : (⌊x⌋ : K) + 2 ≤ n := by exact_mod_cast (by omega : ⌊x⌋ + 2 ≤ n)
    refine iff_of_false ?_ ?_
    · split <;> omega
    · rintro (hlt | ⟨heq, -⟩) <;> linarith

theorem lt_nearest_iff {n : ℤ} {x : K} :
    n < nearest x ↔ (n : K) + 1 / 2 < x ∨ (n : K) + 1 / 2 = x ∧ Odd n := by
  have hhalf : ((n + 1 : ℤ) : K) - 1 / 2 = n + 1 / 2 := by
    push_cast
    ring
  rw [← Int.add_one_le_iff, le_nearest_iff, hhalf, Int.even_add_one, Int.not_even_iff_odd]

@[simp] theorem nearest_neg (x : K) : nearest (-x) = -nearest x := by
  refine eq_of_forall_le_iff fun n => ?_
  have hhalf : ((-n : ℤ) : K) + 1 / 2 = -((n : K) - 1 / 2) := by
    push_cast
    ring
  rw [le_nearest_iff, le_neg, ← not_lt, lt_nearest_iff, hhalf, odd_neg, ← Int.not_even_iff_odd]
  rcases lt_trichotomy x (-((n : K) - 1 / 2)) with hlt | rfl | hlt
  · refine iff_of_true (Or.inl (lt_neg.mpr hlt)) ?_
    exact fun h => h.elim (fun h => h.not_gt hlt) fun h => h.1.not_gt hlt
  · simp
  · refine iff_of_false ?_ (not_not.mpr (Or.inl hlt))
    have hlt' := neg_lt.mp hlt
    exact fun h => h.elim (fun h => h.not_gt hlt') fun h => h.1.not_gt hlt'

theorem nearest_mono {x y : K} (h : x ≤ y) : nearest x ≤ nearest y := by
  rw [le_nearest_iff]
  rcases le_nearest_iff.mp (le_refl (nearest x)) with hlt | ⟨heq, heven⟩
  · exact Or.inl (hlt.trans_le h)
  · rcases (heq.trans_le h).lt_or_eq with hlt | heq
    · exact Or.inl hlt
    · exact Or.inr ⟨heq, heven⟩

@[simp] theorem nearest_intCast (n : ℤ) : nearest (n : K) = n := by
  simp [nearest]

-- Numbers written to a base with so many significant digits.
structure Format where
  radix : ℕ
  digits : ℕ
  one_lt_radix : 1 < radix
  digits_pos : 0 < digits

namespace Format

variable (format : Format)

-- The place of the last digit that is kept of a number.
def lastPlace (x : K) : K := (format.radix : K) ^ (Int.log format.radix |x| + 1 - format.digits)

-- Rounding half even to the digits of the format.
def round (x : K) : K := (nearest (x / format.lastPlace x) : K) * format.lastPlace x

def Representable (x : K) : Prop :=
  ∃ coefficient exponent : ℤ, |coefficient| < (format.radix : ℤ) ^ format.digits ∧
    x = (coefficient : K) * (format.radix : K) ^ exponent

variable {format} {x y d : K}

omit [FloorRing K] in
theorem radix_pos : (0 : K) < format.radix := by
  exact_mod_cast zero_lt_one.trans format.one_lt_radix

omit [FloorRing K] in
theorem one_lt_radix_cast : (1 : K) < format.radix := by
  exact_mod_cast format.one_lt_radix

theorem lastPlace_pos (x : K) : 0 < format.lastPlace x := zpow_pos radix_pos _

omit [FloorRing K] in
theorem zpow_place_le_one {place : ℤ} (h : place ≤ 0) : (format.radix : K) ^ place ≤ 1 :=
  zpow_le_one_of_nonpos₀ one_lt_radix_cast.le h

theorem lastPlace_zero_le_one : format.lastPlace (0 : K) ≤ 1 := by
  have hdigits := format.digits_pos
  apply zpow_place_le_one
  rw [abs_zero, Int.log_zero_right]
  omega

omit [IsStrictOrderedRing K] in
@[simp] theorem lastPlace_neg (x : K) : format.lastPlace (-x) = format.lastPlace x := by
  rw [lastPlace, abs_neg, lastPlace]

-- A number of the format that is large enough for the place is a multiple of it.
theorem Representable.exists_multiple {place : ℤ} (hd : format.Representable d)
    (h : (format.radix : K) ^ (place + format.digits - 1) ≤ d) :
    ∃ n : ℤ, d = (n : K) * (format.radix : K) ^ place := by
  obtain ⟨c, e, hc, rfl⟩ := hd
  have hradix := format.radix_pos (K := K)
  have hle : place ≤ e := by
    have hc' : (c : K) < (format.radix : K) ^ (format.digits : ℤ) := by
      rw [zpow_natCast]
      exact_mod_cast (le_abs_self c).trans_lt hc
    have hbelow := h.trans_lt (mul_lt_mul_of_pos_right hc' (zpow_pos hradix e))
    rw [← zpow_add₀ hradix.ne', zpow_lt_zpow_iff_right₀ one_lt_radix_cast] at hbelow
    omega
  refine ⟨c * (format.radix : ℤ) ^ (e - place).toNat, ?_⟩
  push_cast
  rw [← zpow_natCast, Int.toNat_of_nonneg (by omega), mul_assoc, ← zpow_add₀ hradix.ne', sub_add_cancel]

theorem zpow_log_eq (hx : 0 ≤ x) :
    (format.radix : K) ^ Int.log format.radix x =
      (format.radix : K) ^ (format.digits - 1) * format.lastPlace x := by
  rw [lastPlace, abs_of_nonneg hx, ← zpow_natCast, ← zpow_add₀ (radix_pos (K := K)).ne', Nat.cast_sub format.digits_pos]
  congr 1
  push_cast
  ring

theorem zpow_succ_log_eq (hx : 0 ≤ x) :
    (format.radix : K) ^ (Int.log format.radix x + 1) =
      (format.radix : K) ^ format.digits * format.lastPlace x := by
  rw [lastPlace, abs_of_nonneg hx, ← zpow_natCast, ← zpow_add₀ (radix_pos (K := K)).ne']
  congr 1
  ring

omit [LinearOrder K] [IsStrictOrderedRing K] [FloorRing K] in
theorem representable_zpow (place : ℤ) : format.Representable ((format.radix : K) ^ place) := by
  refine ⟨1, place, ?_, by simp⟩
  rw [abs_one]
  exact one_lt_pow₀ (by exact_mod_cast format.one_lt_radix) format.digits_pos.ne'

omit [LinearOrder K] [IsStrictOrderedRing K] [FloorRing K] in
theorem Representable.mul_zpow [CharZero K] (hd : format.Representable d) (place : ℤ) :
    format.Representable (d * (format.radix : K) ^ place) := by
  obtain ⟨c, e, hc, rfl⟩ := hd
  have hradix : (format.radix : K) ≠ 0 := by exact_mod_cast (zero_lt_one.trans format.one_lt_radix).ne'
  exact ⟨c, e + place, hc, by rw [mul_assoc, zpow_add₀ hradix]⟩

theorem Representable.exists_multiple_lastPlace (hd : format.Representable d) (hx : 0 < x) (h : x ≤ d) :
    ∃ n : ℤ, d = (n : K) * format.lastPlace x := by
  apply hd.exists_multiple
  refine le_trans (le_of_eq ?_) ((Int.zpow_log_le_self format.one_lt_radix hx).trans h)
  rw [abs_of_pos hx]
  congr 1
  ring

-- A number of the format is reached from below within half a place; from just half a place
-- only where it is even there.
def ReachedFrom (format : Format) (d x : K) : Prop :=
  d - format.lastPlace x / 2 < x ∨
    d - format.lastPlace x / 2 = x ∧ ∃ n : ℤ, Even n ∧ d = (n : K) * format.lastPlace x

-- A number is rounded up past one of the format from beyond half a place above it; from
-- just half a place only where that one is odd.
def LeftBehind (format : Format) (d y : K) : Prop :=
  d + format.lastPlace d / 2 < y ∨
    d + format.lastPlace d / 2 = y ∧ ∃ n : ℤ, Odd n ∧ d = (n : K) * format.lastPlace d

omit [FloorRing K] in
-- A number is one multiple of a place only.
theorem multiple_iff {P : ℤ → Prop} {n : ℤ} {place : K} (hplace : 0 < place) (hn : d = (n : K) * place) :
    (∃ m : ℤ, P m ∧ d = (m : K) * place) ↔ P n := by
  constructor
  · rintro ⟨m, hm, he⟩
    rw [hn] at he
    rwa [Int.cast_injective (mul_right_cancel₀ hplace.ne' he)]
  · exact fun hn' => ⟨n, hn', hn⟩

theorem le_round_iff (hd : format.Representable d) (hx : 0 < x) (h : x ≤ d) :
    d ≤ format.round x ↔ format.ReachedFrom d x := by
  obtain ⟨n, hn⟩ := hd.exists_multiple_lastPlace hx h
  have hplace := format.lastPlace_pos x
  have hhalf : d - format.lastPlace x / 2 = ((n : K) - 1 / 2) * format.lastPlace x := by
    rw [hn]
    ring
  rw [ReachedFrom, hhalf, multiple_iff hplace hn, round, ← lt_div_iff₀ hplace, ← eq_div_iff hplace.ne',
    ← le_nearest_iff]
  conv_lhs => rw [hn]
  rw [mul_le_mul_iff_left₀ hplace, Int.cast_le]

theorem round_of_multiple {n : ℤ} (h : x = (n : K) * format.lastPlace x) : format.round x = x := by
  have hdiv : x / format.lastPlace x = n := (div_eq_iff (format.lastPlace_pos x).ne').mpr h
  rw [round, hdiv, nearest_intCast, ← h]

@[simp] theorem round_zero : format.round (0 : K) = 0 := round_of_multiple (n := 0) (by simp)

theorem round_eq_self (hd : format.Representable d) (h : 0 ≤ d) : format.round d = d := by
  rcases h.eq_or_lt with rfl | hpos
  · exact round_zero
  · obtain ⟨n, hn⟩ := hd.exists_multiple_lastPlace hpos le_rfl
    exact round_of_multiple hn

theorem round_le (hd : format.Representable d) (hx : 0 < x) (h : x ≤ d) : format.round x ≤ d := by
  obtain ⟨n, hn⟩ := hd.exists_multiple_lastPlace hx h
  have hplace := format.lastPlace_pos x
  have hle : nearest (x / format.lastPlace x) ≤ nearest (n : K) :=
    nearest_mono ((div_le_iff₀ hplace).mpr (hn ▸ h))
  rw [nearest_intCast] at hle
  calc format.round x ≤ (n : K) * format.lastPlace x :=
        mul_le_mul_of_nonneg_right (by exact_mod_cast hle) hplace.le
    _ = d := hn.symm

theorem zpow_log_le_round (hx : 0 < x) : (format.radix : K) ^ Int.log format.radix x ≤ format.round x := by
  have hplace := format.lastPlace_pos x
  have hlow := Int.zpow_log_le_self format.one_lt_radix hx
  rw [zpow_log_eq hx.le, ← le_div_iff₀ hplace] at hlow
  have hle := nearest_mono (x := (((format.radix : ℤ) ^ (format.digits - 1) : ℤ) : K)) (by exact_mod_cast hlow)
  rw [nearest_intCast] at hle
  rw [zpow_log_eq hx.le]
  exact mul_le_mul_of_nonneg_right (by exact_mod_cast hle) hplace.le

-- Within one power of the base the places agree; between two, the power lies in between.
theorem round_mono_of_nonneg (hx : 0 ≤ x) (h : x ≤ y) : format.round x ≤ format.round y := by
  rcases hx.eq_or_lt with rfl | hpos
  · rw [round_zero]
    rcases h.eq_or_lt with rfl | hpos
    · rw [round_zero]
    · exact (zpow_pos radix_pos _).le.trans (zpow_log_le_round hpos)
  rcases (Int.log_mono_right (b := format.radix) hpos h).eq_or_lt with heq | hlt
  · have hplace : format.lastPlace x = format.lastPlace y := by
      rw [lastPlace, lastPlace, abs_of_pos hpos, abs_of_pos (hpos.trans_le h), heq]
    have hpos := format.lastPlace_pos y
    rw [round, round, hplace]
    have hle := nearest_mono (div_le_div_of_nonneg_right h hpos.le)
    exact mul_le_mul_of_nonneg_right (by exact_mod_cast hle) hpos.le
  · calc format.round x ≤ (format.radix : K) ^ (Int.log format.radix x + 1) :=
          round_le (representable_zpow _) hpos (Int.lt_zpow_succ_log_self format.one_lt_radix x).le
      _ ≤ (format.radix : K) ^ Int.log format.radix y :=
          zpow_le_zpow_right₀ one_lt_radix_cast.le (Int.add_one_le_iff.mpr hlt)
      _ ≤ format.round y := zpow_log_le_round (hpos.trans_le h)

theorem round_nonneg (hx : 0 ≤ x) : 0 ≤ format.round x := by
  rw [← format.round_zero]
  exact round_mono_of_nonneg le_rfl hx

@[simp] theorem round_neg (x : K) : format.round (-x) = -format.round x := by
  rw [round, lastPlace_neg, neg_div, nearest_neg, Int.cast_neg, neg_mul, round]

theorem round_mono (h : x ≤ y) : format.round x ≤ format.round y := by
  rcases le_total 0 x with hx | hx
  · exact round_mono_of_nonneg hx h
  have hx' : 0 ≤ format.round (-x) := round_nonneg (neg_nonneg.mpr hx)
  rw [round_neg] at hx'
  rcases le_total 0 y with hy | hy
  · exact (neg_nonneg.mp hx').trans (round_nonneg hy)
  · have hle := format.round_mono_of_nonneg (neg_nonneg.mpr hy) (neg_le_neg h)
    rwa [round_neg, round_neg, neg_le_neg_iff] at hle

omit [FloorRing K] in
-- The power of the base that ends the digits is a number of the format too.
theorem representable_multiple {n place : ℤ} (hn : 0 ≤ n) (h : n ≤ (format.radix : ℤ) ^ format.digits) :
    format.Representable ((n : K) * (format.radix : K) ^ place) := by
  rcases h.eq_or_lt with heq | hlt
  · have hsame : (n : K) * (format.radix : K) ^ place = (format.radix : K) ^ (format.digits + place) := by
      rw [heq, zpow_add₀ (radix_pos (K := K)).ne', zpow_natCast]
      push_cast
      rfl
    rw [hsame]
    exact representable_zpow _
  · exact ⟨n, place, by rwa [abs_of_nonneg hn], rfl⟩

theorem representable_round (hx : 0 ≤ x) : format.Representable (format.round x) := by
  have hplace := format.lastPlace_pos x
  have hhigh := Int.lt_zpow_succ_log_self format.one_lt_radix x
  rw [zpow_succ_log_eq hx, ← div_lt_iff₀ hplace] at hhigh
  have hlow := nearest_mono (x := ((0 : ℤ) : K)) (by simpa using div_nonneg hx hplace.le)
  have hle := nearest_mono (y := (((format.radix : ℤ) ^ format.digits : ℤ) : K)) (by exact_mod_cast hhigh.le)
  rw [nearest_intCast] at hlow hle
  exact representable_multiple hlow hle

theorem Representable.floor (hd : format.Representable d) (h : 0 ≤ d) : format.Representable (⌊d⌋ : K) := by
  obtain ⟨c, e, hc, hd'⟩ := hd
  rcases le_or_gt 0 e with he | he
  · have hint : d = ((c * (format.radix : ℤ) ^ e.toNat : ℤ) : K) := by
      rw [hd']
      push_cast
      rw [← zpow_natCast, Int.toNat_of_nonneg he]
    rw [hint, Int.floor_intCast, ← hint]
    exact ⟨c, e, hc, hd'⟩
  · have hpow : (format.radix : K) ^ e ≤ 1 := zpow_place_le_one he.le
    have hcoefficient : (0 : K) ≤ c := nonneg_of_mul_nonneg_left (hd' ▸ h) (zpow_pos radix_pos e)
    have hfloor : ⌊d⌋ ≤ c := by
      have hle := (Int.floor_le d).trans (hd'.le.trans (mul_le_of_le_one_right hcoefficient hpow))
      exact_mod_cast hle
    refine ⟨⌊d⌋, 0, ?_, by simp⟩
    rw [abs_of_nonneg (Int.floor_nonneg.mpr h)]
    exact (hfloor.trans (le_abs_self c)).trans_lt hc

-- The next number of the format lies one place further, and up to there the places agree.
theorem lt_round_iff (hd : format.Representable d) (hpos : 0 < d) (h : d < y) :
    d < format.round y ↔ format.LeftBehind d y := by
  obtain ⟨n, hn⟩ := hd.exists_multiple_lastPlace hpos le_rfl
  have hplace := format.lastPlace_pos d
  have hnpos : 0 < n := by
    rw [hn] at hpos
    exact_mod_cast pos_of_mul_pos_left hpos hplace.le
  have hnext : n + 1 ≤ (format.radix : ℤ) ^ format.digits := by
    have hhigh := Int.lt_zpow_succ_log_self format.one_lt_radix d
    rw [zpow_succ_log_eq hpos.le] at hhigh
    conv_lhs at hhigh => rw [hn]
    rw [mul_lt_mul_iff_left₀ hplace] at hhigh
    exact_mod_cast hhigh
  have hsucc : d + format.lastPlace d = ((n + 1 : ℤ) : K) * format.lastPlace d := by
    push_cast
    rw [add_one_mul, ← hn]
  rcases lt_or_ge y (d + format.lastPlace d) with hlt | hge
  · have hsame : format.lastPlace y = format.lastPlace d := by
      have hbelow : y < (format.radix : K) ^ (Int.log format.radix d + 1) := by
        rw [zpow_succ_log_eq hpos.le]
        refine (hlt.trans_eq hsucc).trans_le (mul_le_mul_of_nonneg_right ?_ hplace.le)
        exact_mod_cast hnext
      have hlog := Int.log_mono_right (b := format.radix) hpos h.le
      rw [Int.lt_zpow_iff_log_lt format.one_lt_radix (hpos.trans h)] at hbelow
      rw [lastPlace, lastPlace, abs_of_pos (hpos.trans h), abs_of_pos hpos,
        (by omega : Int.log format.radix y = Int.log format.radix d)]
    have hhalf : d + format.lastPlace d / 2 = ((n : K) + 1 / 2) * format.lastPlace d := by
      rw [add_mul, ← hn]
      ring
    have hcount : d < (nearest (y / format.lastPlace d) : K) * format.lastPlace d ↔
        n < nearest (y / format.lastPlace d) := by
      conv_lhs => lhs; rw [hn]
      rw [mul_lt_mul_iff_left₀ hplace, Int.cast_lt]
    rw [LeftBehind, hhalf, multiple_iff hplace hn, round, hsame, hcount, lt_nearest_iff,
      lt_div_iff₀ hplace, eq_div_iff hplace.ne']
  · have hround := format.round_mono hge
    have hrepresentable : format.Representable (d + format.lastPlace d) := by
      rw [hsucc]
      exact representable_multiple (by omega) hnext
    rw [round_eq_self hrepresentable (add_pos hpos hplace).le] at hround
    refine iff_of_true ?_ (Or.inl ?_)
    · exact (lt_add_of_pos_right d hplace).trans_le hround
    · linarith

end Format

end DualSleeve.Library.Significant
