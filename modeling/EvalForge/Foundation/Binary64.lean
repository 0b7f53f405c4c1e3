import EvalForge.Foundation.Rounding
import Mathlib.Data.Int.Log

/-! # Binary64 numbers

The double that is nearest to a rational number, with ties going to the even
significand: 53 significant bits above the smallest unit. How large a double can
be is stated by `overflows`.
-/

namespace EvalForge.Foundation.Binary64

/-- The exponent of the unit in the last place. -/
def unitExponent (value : Rat) : Int := max (-1074) (Int.log 2 |value| - 52)

def nearest (value : Rat) : Rat :=
  roundHalfEven (value / 2 ^ unitExponent value) * 2 ^ unitExponent value

def overflows (value : Rat) : Bool := decide (2 ^ 1024 ≤ |nearest value|)

example : nearest (1 / 10) = 3602879701896397 / 2 ^ 55 := by decide +kernel

variable {value other lower upper : Rat} {exponent : Int}

theorem unit_pos (exponent : Int) : (0 : Rat) < 2 ^ exponent := zpow_pos two_pos exponent

theorem nearest_le_of_units (units : Int) (bound : value ≤ units * 2 ^ unitExponent value) :
    nearest value ≤ units * 2 ^ unitExponent value := by
  have scaled : value / 2 ^ unitExponent value ≤ (units : Rat) :=
    (div_le_iff₀ (unit_pos _)).mpr bound
  have rounded := roundHalfEven_monotone scaled
  rw [roundHalfEven_intCast] at rounded
  exact mul_le_mul_of_nonneg_right (by exact_mod_cast rounded) (unit_pos _).le

theorem le_nearest_of_units (units : Int) (bound : units * 2 ^ unitExponent value ≤ value) :
    units * 2 ^ unitExponent value ≤ nearest value := by
  have scaled : (units : Rat) ≤ value / 2 ^ unitExponent value :=
    (le_div_iff₀ (unit_pos _)).mpr bound
  have rounded := roundHalfEven_monotone scaled
  rw [roundHalfEven_intCast] at rounded
  exact mul_le_mul_of_nonneg_right (by exact_mod_cast rounded) (unit_pos _).le

theorem nearest_of_units (units : Int) (same : value = units * 2 ^ unitExponent value) :
    nearest value = value :=
  le_antisymm ((nearest_le_of_units units same.le).trans same.ge)
    (same.le.trans (le_nearest_of_units units same.ge))

theorem zpow_eq_units (large : unitExponent value ≤ exponent) :
    ∃ units : Int, (2 : Rat) ^ exponent = units * 2 ^ unitExponent value := by
  refine ⟨2 ^ (exponent - unitExponent value).toNat, ?_⟩
  have difference : ((exponent - unitExponent value).toNat : Int) =
      exponent - unitExponent value := Int.toNat_of_nonneg (by omega)
  push_cast
  rw [← zpow_natCast, difference, ← zpow_add₀ two_ne_zero]
  congr 1
  omega

theorem nearest_le_zpow (large : unitExponent value ≤ exponent) (bound : value ≤ 2 ^ exponent) :
    nearest value ≤ 2 ^ exponent := by
  rcases zpow_eq_units large with ⟨units, same⟩
  rw [same] at bound ⊢
  exact nearest_le_of_units units bound

theorem zpow_le_nearest (large : unitExponent value ≤ exponent) (bound : 2 ^ exponent ≤ value) :
    2 ^ exponent ≤ nearest value := by
  rcases zpow_eq_units large with ⟨units, same⟩
  rw [same] at bound ⊢
  exact le_nearest_of_units units bound

@[simp] theorem nearest_zero : nearest 0 = 0 :=
  nearest_of_units 0 (by simp)

@[simp] theorem nearest_neg (value : Rat) : nearest (-value) = -nearest value := by
  have sameUnit : unitExponent (-value) = unitExponent value := by
    rw [unitExponent, abs_neg, unitExponent]
  rw [nearest, sameUnit, neg_div, roundHalfEven_neg, nearest]
  push_cast
  ring

theorem nearest_nonneg (nonnegative : 0 ≤ value) : 0 ≤ nearest value := by
  have bound := @le_nearest_of_units value 0 (by simpa using nonnegative)
  simpa using bound

/-! ## Order -/

theorem nearest_mono_of_nonneg (nonnegative : 0 ≤ lower) (order : lower ≤ upper) :
    nearest lower ≤ nearest upper := by
  rcases nonnegative.eq_or_lt with zero | positive
  · rw [← zero, nearest_zero]
    exact nearest_nonneg (zero ▸ order)
  have logs : Int.log 2 |lower| ≤ Int.log 2 |upper| := by
    rw [abs_of_pos positive, abs_of_pos (positive.trans_le order)]
    exact Int.log_mono_right positive order
  rcases (max_le_max_left (-1074) (sub_le_sub_right logs 52)).lt_or_eq with finer | sameUnit
  · -- A power of two lies between the two values.
    have coarse : unitExponent upper = Int.log 2 |upper| - 52 := by
      have floor : (-1074 : Int) ≤ max (-1074) (Int.log 2 |lower| - 52) := le_max_left _ _
      rw [unitExponent]
      omega
    have apart : Int.log 2 |lower| < Int.log 2 |upper| := by omega
    have below : lower ≤ 2 ^ Int.log 2 |upper| := by
      rw [abs_of_pos positive] at apart
      calc lower ≤ 2 ^ (Int.log 2 lower + 1) := (Int.lt_zpow_succ_log_self one_lt_two lower).le
        _ ≤ 2 ^ Int.log 2 |upper| := zpow_le_zpow_right₀ one_le_two (by omega)
    have above : (2 : Rat) ^ Int.log 2 |upper| ≤ upper := by
      rw [abs_of_pos (positive.trans_le order)]
      exact Int.zpow_log_le_self one_lt_two (positive.trans_le order)
    have finerUnit : unitExponent lower ≤ unitExponent upper := finer.le
    exact (nearest_le_zpow (by omega) below).trans (zpow_le_nearest (by omega) above)
  · have same : unitExponent lower = unitExponent upper := sameUnit
    rw [nearest, nearest, same]
    have scaled : lower / 2 ^ unitExponent upper ≤ upper / 2 ^ unitExponent upper :=
      div_le_div_of_nonneg_right order (unit_pos _).le
    exact mul_le_mul_of_nonneg_right (by exact_mod_cast roundHalfEven_monotone scaled)
      (unit_pos _).le

theorem nearest_monotone : Monotone nearest := by
  intro lower upper order
  rcases le_total 0 lower with nonnegative | negative
  · exact nearest_mono_of_nonneg nonnegative order
  · rcases le_total 0 upper with upperNonnegative | upperNegative
    · have below := nearest_nonneg (neg_nonneg.mpr negative)
      rw [nearest_neg] at below
      exact (neg_nonneg.mp below).trans (nearest_nonneg upperNonnegative)
    · have reflected := nearest_mono_of_nonneg (neg_nonneg.mpr upperNegative)
        (neg_le_neg order)
      rw [nearest_neg, nearest_neg] at reflected
      exact neg_le_neg_iff.mp reflected

@[simp] theorem nearest_one : nearest 1 = 1 := by decide +kernel

theorem nearest_le_one (atMostOne : value ≤ 1) : nearest value ≤ 1 := by
  calc nearest value ≤ nearest 1 := nearest_monotone atMostOne
    _ = 1 := nearest_one

/-! ## Errors -/

theorem abs_nearest_sub_le (value : Rat) :
    |nearest value - value| ≤ 2 ^ unitExponent value / 2 := by
  have unit := unit_pos (unitExponent value)
  have moved : nearest value - value =
      (roundHalfEven (value / 2 ^ unitExponent value) - value / 2 ^ unitExponent value) *
        2 ^ unitExponent value := by
    rw [nearest, sub_mul, div_mul_cancel₀ _ unit.ne']
  rw [moved, abs_mul, abs_of_pos unit]
  have half := mul_le_mul_of_nonneg_right
    (abs_roundHalfEven_sub_le (value / 2 ^ unitExponent value)) unit.le
  linarith

/-- The relative error is at most `2 ^ (-53)`, above the smallest unit. -/
theorem abs_nearest_sub_le_relative (value : Rat) :
    |nearest value - value| ≤ |value| / 2 ^ 53 + 1 / 2 ^ 1075 := by
  have least : (2 : Rat) ^ (-1074 : Int) / 2 = 1 / 2 ^ 1075 := by
    rw [zpow_neg, zpow_ofNat, pow_succ 2 1074, one_div, mul_inv]
    rfl
  rcases (abs_nonneg value).eq_or_lt with zero | positive
  · rw [abs_eq_zero.mp zero.symm, nearest_zero]
    norm_num
  have significant : (2 : Rat) ^ (Int.log 2 |value| - 52) / 2 ≤ |value| / 2 ^ 53 := by
    have leading := Int.zpow_log_le_self one_lt_two positive
    have shifted : (2 : Rat) ^ (Int.log 2 |value| - 52) = 2 ^ Int.log 2 |value| / 2 ^ 52 := by
      rw [zpow_sub₀ two_ne_zero, zpow_ofNat]
    rw [shifted, div_div, ← pow_succ]
    exact div_le_div_of_nonneg_right (by exact_mod_cast leading) (by positivity)
  calc |nearest value - value| ≤ 2 ^ unitExponent value / 2 := abs_nearest_sub_le value
    _ ≤ |value| / 2 ^ 53 + 1 / 2 ^ 1075 := by
        rcases le_total (-1074) (Int.log 2 |value| - 52) with normal | subnormal
        · rw [unitExponent, max_eq_right normal]
          exact significant.trans (le_add_of_nonneg_right (by positivity))
        · rw [unitExponent, max_eq_left subnormal, least]
          exact le_add_of_nonneg_left (by positivity)

/-! ## Close to one -/

theorem log_eq_of_bounds (leading : (2 : Rat) ^ exponent ≤ value)
    (bound : value < 2 ^ (exponent + 1)) : Int.log 2 value = exponent := by
  have positive : 0 < value := (unit_pos exponent).trans_le leading
  have atLeast := (Int.zpow_le_iff_le_log one_lt_two positive).mp leading
  have below := (Int.lt_zpow_iff_log_lt one_lt_two positive).mp bound
  omega

theorem nearest_one_sub_eq_one_iff (nonnegative : 0 ≤ value) :
    nearest (1 - value) = 1 ↔ value ≤ 1 / 2 ^ 54 := by
  constructor
  · intro one
    by_contra above
    rw [not_le] at above
    rcases le_or_gt value (1 / 2) with small | large
    · have error := abs_nearest_sub_le (1 - value)
      have unit : unitExponent (1 - value) = -53 := by
        have log : Int.log 2 |1 - value| = -1 := by
          rw [abs_of_pos (by linarith)]
          refine log_eq_of_bounds ?_ ?_
          · norm_num
            linarith
          · norm_num at above ⊢
            linarith
        rw [unitExponent, log]
        rfl
      rw [one, unit, sub_sub_cancel, abs_of_nonneg nonnegative] at error
      norm_num at error above
      linarith
    · have half := nearest_monotone (show 1 - value ≤ 1 / 2 by linarith)
      rw [one, show nearest (1 / 2) = 1 / 2 by decide +kernel] at half
      norm_num at half
  · intro small
    refine le_antisymm (nearest_le_one (by linarith)) ?_
    calc (1 : Rat) = nearest (1 - 1 / 2 ^ 54) := by decide +kernel
      _ ≤ nearest (1 - value) := nearest_monotone (by linarith)

theorem nearest_small_iff (positive : 0 < value) :
    nearest value ≤ 1 / 2 ^ 54 ↔ value ≤ 1 / 2 ^ 54 + 1 / 2 ^ 107 := by
  constructor
  · intro rounded
    by_contra above
    rw [not_le] at above
    rcases lt_or_ge value (1 / 2 ^ 53) with small | large
    · have error := abs_nearest_sub_le value
      have unit : unitExponent value = -106 := by
        have log : Int.log 2 |value| = -54 := by
          rw [abs_of_pos positive]
          refine log_eq_of_bounds ?_ ?_
          · norm_num at above ⊢
            linarith
          · norm_num at small ⊢
            linarith
        rw [unitExponent, log]
        rfl
      rw [unit, abs_le] at error
      norm_num at error above rounded
      linarith [error.1]
    · have least := nearest_monotone large
      rw [show nearest (1 / 2 ^ 53) = 1 / 2 ^ 53 by decide +kernel] at least
      norm_num at least rounded
      linarith
  · intro small
    calc nearest value ≤ nearest (1 / 2 ^ 54 + 1 / 2 ^ 107) := nearest_monotone small
      _ ≤ 1 / 2 ^ 54 := by decide +kernel

/-! ## The distance of two doubles -/

theorem lt_zpow_unit (positive : 0 < value) : value < 2 ^ (unitExponent value + 53) := by
  have leading := Int.lt_zpow_succ_log_self one_lt_two value
  rw [unitExponent, abs_of_pos positive]
  calc value < 2 ^ (Int.log 2 value + 1) := leading
    _ ≤ 2 ^ (max (-1074) (Int.log 2 value - 52) + 53) := zpow_le_zpow_right₀ one_le_two (by omega)

theorem nearest_zpow (normal : -1074 ≤ exponent) : nearest (2 ^ exponent) = 2 ^ exponent := by
  have leading : Int.log 2 ((2 : Rat) ^ exponent) = exponent :=
    log_eq_of_bounds le_rfl (zpow_lt_zpow_right₀ one_lt_two (by omega))
  have unit : unitExponent (2 ^ exponent) ≤ exponent := by
    rw [unitExponent, abs_of_pos (unit_pos exponent), leading]
    omega
  rcases zpow_eq_units unit with ⟨units, same⟩
  exact nearest_of_units units same

theorem nearest_nearest_of_pos (positive : 0 < value) : nearest (nearest value) = nearest value := by
  have unit : (-1074 : Int) ≤ unitExponent value := le_max_left _ _
  have rounded : nearest value ≤ 2 ^ (unitExponent value + 53) :=
    nearest_le_zpow (by omega) (lt_zpow_unit positive).le
  rcases rounded.eq_or_lt with power | below
  · rw [power, nearest_zpow (by omega)]
  · rcases (nearest_nonneg positive.le).eq_or_lt with zero | nonzero
    · rw [← zero, nearest_zero]
    · have finer : unitExponent (nearest value) ≤ unitExponent value := by
        have leading := (Int.lt_zpow_iff_log_lt one_lt_two nonzero).mp below
        rw [unitExponent, abs_of_pos nonzero]
        exact max_le unit (by omega)
      rcases zpow_eq_units finer with ⟨factor, coarse⟩
      refine nearest_of_units (roundHalfEven (value / 2 ^ unitExponent value) * factor) ?_
      push_cast
      rw [mul_assoc, ← coarse]
      rfl

@[simp] theorem nearest_nearest (value : Rat) : nearest (nearest value) = nearest value := by
  rcases lt_trichotomy value 0 with negative | rfl | positive
  · have reflected := nearest_nearest_of_pos (neg_pos.mpr negative)
    rw [nearest_neg, nearest_neg] at reflected
    exact neg_injective reflected
  · rw [nearest_zero, nearest_zero]
  · exact nearest_nearest_of_pos positive

theorem unit_le_sub_of_doubles (lowerDouble : nearest lower = lower)
    (upperDouble : nearest upper = upper) (positive : 0 < lower) (order : lower < upper) :
    2 ^ unitExponent lower ≤ upper - lower := by
  have finer : unitExponent lower ≤ unitExponent upper := by
    rw [unitExponent, unitExponent, abs_of_pos positive, abs_of_pos (positive.trans order)]
    exact max_le_max_left _ (sub_le_sub_right (Int.log_mono_right positive order.le) 52)
  rcases zpow_eq_units finer with ⟨factor, coarse⟩
  have lowerUnits : lower = roundHalfEven (lower / 2 ^ unitExponent lower) *
      2 ^ unitExponent lower := lowerDouble.symm
  have upperUnits : upper = roundHalfEven (upper / 2 ^ unitExponent upper) *
      (factor * 2 ^ unitExponent lower) := coarse ▸ upperDouble.symm
  generalize roundHalfEven (lower / 2 ^ unitExponent lower) = first at lowerUnits
  generalize roundHalfEven (upper / 2 ^ unitExponent upper) = second at upperUnits
  generalize hunit : (2 : Rat) ^ unitExponent lower = unit at *
  have unitPos : 0 < unit := hunit ▸ unit_pos _
  have apart : (first : Rat) < second * factor := by
    have scaled : first * unit < second * factor * unit := by
      rw [mul_assoc, ← lowerUnits, ← upperUnits]
      exact order
    exact lt_of_mul_lt_mul_right scaled unitPos.le
  have next : (first : Rat) + 1 ≤ second * factor := by
    exact_mod_cast (by exact_mod_cast apart : first < second * factor)
  calc unit = (first + 1) * unit - first * unit := by ring
    _ ≤ second * factor * unit - first * unit :=
        sub_le_sub_right (mul_le_mul_of_nonneg_right next unitPos.le) _
    _ = upper - lower := by rw [mul_assoc, ← lowerUnits, ← upperUnits]

theorem apart_of_doubles (lowerDouble : nearest lower = lower)
    (upperDouble : nearest upper = upper) (positive : 0 < lower) (order : lower < upper) :
    1 / 2 ^ 53 < nearest (upper - lower) / lower := by
  have distance := nearest_monotone
    (unit_le_sub_of_doubles lowerDouble upperDouble positive order)
  rw [nearest_zpow (show -1074 ≤ unitExponent lower from le_max_left _ _)] at distance
  rw [lt_div_iff₀ positive]
  calc 1 / 2 ^ 53 * lower < 1 / 2 ^ 53 * 2 ^ (unitExponent lower + 53) :=
        mul_lt_mul_of_pos_left (lt_zpow_unit positive) (by positivity)
    _ = 2 ^ unitExponent lower := by
        rw [zpow_add₀ two_ne_zero, zpow_ofNat]
        field_simp
    _ ≤ nearest (upper - lower) := distance

end EvalForge.Foundation.Binary64
