import Mathlib.Algebra.Order.Floor.Ring
import Mathlib.Algebra.Order.Round
import Mathlib.Data.Int.ConditionallyCompleteOrder
import Mathlib.Data.Rat.Floor
import Mathlib.Tactic.Linarith

/-! # Rounding to decimals

The nearest integer, with ties going to the even one or away from zero, and the
rounding to a number of decimals that it gives.
-/

namespace EvalForge.Foundation

section Integer

variable {K : Type u} [Field K] [LinearOrder K] [FloorRing K]

def roundHalfEven (value : K) : Int :=
  let whole := ⌊value⌋
  let rest := value - whole
  if rest < 1 / 2 then whole
  else if 1 / 2 < rest then whole + 1
  else if whole % 2 = 0 then whole
  else whole + 1

theorem roundHalfEven_of_lt_half {value : K} (below : value - ⌊value⌋ < 1 / 2) :
    roundHalfEven value = ⌊value⌋ :=
  if_pos below

theorem roundHalfEven_of_half_lt {value : K} (above : 1 / 2 < value - ⌊value⌋) :
    roundHalfEven value = ⌊value⌋ + 1 := by
  have notBelow : ¬value - ⌊value⌋ < 1 / 2 := above.asymm
  simp only [roundHalfEven, if_neg notBelow, if_pos above]

theorem roundHalfEven_cases (value : K) :
    roundHalfEven value = ⌊value⌋ ∨ roundHalfEven value = ⌊value⌋ + 1 := by
  rcases lt_trichotomy (value - ⌊value⌋) (1 / 2) with below | half | above
  · exact .inl (roundHalfEven_of_lt_half below)
  · simp only [roundHalfEven, half, lt_irrefl, if_false]
    split
    · exact .inl rfl
    · exact .inr rfl
  · exact .inr (roundHalfEven_of_half_lt above)

theorem floor_le_roundHalfEven (value : K) : ⌊value⌋ ≤ roundHalfEven value := by
  rcases roundHalfEven_cases value with rounded | rounded <;> omega

theorem roundHalfEven_le_floor_add_one (value : K) : roundHalfEven value ≤ ⌊value⌋ + 1 := by
  rcases roundHalfEven_cases value with rounded | rounded <;> omega

variable [IsStrictOrderedRing K]

@[simp] theorem roundHalfEven_intCast (value : Int) : roundHalfEven (value : K) = value := by
  simp [roundHalfEven]

theorem roundHalfEven_monotone : Monotone (roundHalfEven : K → Int) := by
  intro lower upper below
  rcases (Int.floor_mono below).lt_or_eq with apart | same
  · -- A whole number lies between the two values.
    calc roundHalfEven lower ≤ ⌊lower⌋ + 1 := roundHalfEven_le_floor_add_one lower
      _ ≤ ⌊upper⌋ := apart
      _ ≤ roundHalfEven upper := floor_le_roundHalfEven upper
  · rcases lt_or_ge (lower - ⌊lower⌋) (1 / 2) with down | notDown
    · rw [roundHalfEven_of_lt_half down, same]
      exact floor_le_roundHalfEven upper
    · have rests : lower - ⌊lower⌋ ≤ upper - ⌊upper⌋ := by
        rw [same]
        exact sub_le_sub_right below _
      rcases (notDown.trans rests).lt_or_eq with up | half
      · rw [roundHalfEven_of_half_lt up, ← same]
        exact roundHalfEven_le_floor_add_one lower
      · -- Both are halfway, so they are the same value.
        have equal : lower - ⌊lower⌋ = upper - ⌊upper⌋ := rests.antisymm (half ▸ notDown)
        rw [same] at equal
        rw [sub_left_injective equal]

theorem roundHalfEven_neg (value : K) : roundHalfEven (-value) = -roundHalfEven value := by
  rcases (Int.floor_le value).eq_or_lt with whole | fractional
  · rw [← whole, ← Int.cast_neg, roundHalfEven_intCast, roundHalfEven_intCast]
  · have floor : ⌊-value⌋ = -⌊value⌋ - 1 := by
      rw [Int.floor_eq_iff]
      have above := Int.lt_floor_add_one value
      constructor <;> push_cast <;> linarith
    have rest : -value - ⌊-value⌋ = 1 - (value - ⌊value⌋) := by
      rw [floor]
      push_cast
      ring
    rcases lt_trichotomy (value - ⌊value⌋) (1 / 2) with below | half | above
    · rw [roundHalfEven_of_lt_half below, roundHalfEven_of_half_lt (by linarith), floor]
      omega
    · have negHalf : -value - ⌊-value⌋ = 1 / 2 := by linarith
      simp only [roundHalfEven, half, negHalf, lt_irrefl, if_false]
      split <;> split <;> omega
    · rw [roundHalfEven_of_half_lt above, roundHalfEven_of_lt_half (by linarith), floor]
      omega

theorem abs_roundHalfEven_sub_le (value : K) : |roundHalfEven value - value| ≤ 1 / 2 := by
  have below := Int.floor_le value
  have above := Int.lt_floor_add_one value
  rw [abs_le]
  rcases lt_trichotomy (value - ⌊value⌋) (1 / 2) with down | half | up
  · rw [roundHalfEven_of_lt_half down]
    constructor <;> linarith
  · rcases roundHalfEven_cases value with rounded | rounded <;> rw [rounded] <;> push_cast <;>
      constructor <;> linarith
  · rw [roundHalfEven_of_half_lt up]
    push_cast
    constructor <;> linarith

/-- The nearest integer, with ties going away from zero. -/
def roundHalfAway (value : K) : Int :=
  if 0 ≤ value then ⌊value + 1 / 2⌋ else -⌊-value + 1 / 2⌋

theorem roundHalfAway_nonneg {value : K} (nonnegative : 0 ≤ value) : 0 ≤ roundHalfAway value := by
  rw [roundHalfAway, if_pos nonnegative, Int.floor_nonneg]
  linarith

theorem roundHalfAway_le {value : K} {bound : Int} (nonnegative : 0 ≤ value)
    (below : value ≤ bound) : roundHalfAway value ≤ bound := by
  rw [roundHalfAway, if_pos nonnegative, ← Int.lt_add_one_iff, Int.floor_lt]
  push_cast
  linarith

end Integer

/-! ## Decimals -/

section Decimal

variable {K : Type u} [Field K] {digits : Nat}

/-- The values that have no further decimals. -/
def HasDecimals (digits : Nat) (value : K) : Prop :=
  ∃ units : Int, value = units / 10 ^ digits

theorem hasDecimals_zero : HasDecimals digits (0 : K) :=
  ⟨0, by simp⟩

theorem HasDecimals.neg {value : K} (decimal : HasDecimals digits value) :
    HasDecimals digits (-value) := by
  rcases decimal with ⟨units, rfl⟩
  exact ⟨-units, by push_cast; ring⟩

theorem HasDecimals.sub {left right : K} (leftDecimal : HasDecimals digits left)
    (rightDecimal : HasDecimals digits right) : HasDecimals digits (left - right) := by
  rcases leftDecimal with ⟨leftUnits, rfl⟩
  rcases rightDecimal with ⟨rightUnits, rfl⟩
  exact ⟨leftUnits - rightUnits, by push_cast; ring⟩

variable [LinearOrder K] [FloorRing K]

/-- `round(value, digits)`. -/
def roundTo (digits : Nat) (value : K) : K :=
  roundHalfEven (value * 10 ^ digits) / 10 ^ digits

variable [IsStrictOrderedRing K]

theorem roundTo_monotone : Monotone (roundTo digits : K → K) := by
  intro lower upper below
  have scale : (0 : K) < 10 ^ digits := by positivity
  have rounded : roundHalfEven (lower * 10 ^ digits) ≤ roundHalfEven (upper * 10 ^ digits) :=
    roundHalfEven_monotone (mul_le_mul_of_nonneg_right below scale.le)
  exact div_le_div_of_nonneg_right (by exact_mod_cast rounded) scale.le

theorem HasDecimals.roundTo_eq {value : K} (decimal : HasDecimals digits value) :
    roundTo digits value = value := by
  rcases decimal with ⟨units, rfl⟩
  have scale : (10 : K) ^ digits ≠ 0 := by positivity
  rw [roundTo, div_mul_cancel₀ _ scale, roundHalfEven_intCast]

@[simp] theorem roundTo_zero : roundTo digits (0 : K) = 0 :=
  hasDecimals_zero.roundTo_eq

theorem hasDecimals_one : HasDecimals digits (1 : K) :=
  ⟨10 ^ digits, by simp⟩

theorem roundTo_le_one {value : K} (atMostOne : value ≤ 1) : roundTo digits value ≤ 1 := by
  calc roundTo digits value ≤ roundTo digits 1 := roundTo_monotone atMostOne
    _ = 1 := hasDecimals_one.roundTo_eq

theorem roundTo_nonneg {value : K} (nonnegative : 0 ≤ value) : 0 ≤ roundTo digits value := by
  calc (0 : K) = roundTo digits 0 := roundTo_zero.symm
    _ ≤ roundTo digits value := roundTo_monotone nonnegative

theorem roundTo_nonpos {value : K} (nonpositive : value ≤ 0) : roundTo digits value ≤ 0 := by
  calc roundTo digits value ≤ roundTo digits 0 := roundTo_monotone nonpositive
    _ = 0 := roundTo_zero

theorem roundTo_neg (value : K) : roundTo digits (-value) = -roundTo digits value := by
  rw [roundTo, roundTo, neg_mul, roundHalfEven_neg]
  push_cast
  ring

theorem abs_roundTo_sub_le (value : K) :
    |roundTo digits value - value| ≤ 1 / (2 * 10 ^ digits) := by
  have scale : (0 : K) < 10 ^ digits := by positivity
  have moved : roundTo digits value - value =
      (roundHalfEven (value * 10 ^ digits) - value * 10 ^ digits) / 10 ^ digits := by
    rw [roundTo, sub_div, mul_div_cancel_right₀ _ scale.ne']
  rw [moved, abs_div, abs_of_pos scale, ← div_div]
  exact div_le_div_of_nonneg_right (abs_roundHalfEven_sub_le _) scale.le

theorem exists_hasDecimals_gt (digits : Nat) (bound : K) :
    ∃ least : K, HasDecimals digits least ∧ bound < least ∧
      ∀ value, HasDecimals digits value → bound < value → least ≤ value := by
  have scale : (0 : K) < 10 ^ digits := by positivity
  refine ⟨((⌊bound * 10 ^ digits⌋ + 1 : Int) : K) / 10 ^ digits, ⟨_, rfl⟩, ?_, ?_⟩
  · rw [lt_div_iff₀ scale]
    push_cast
    exact Int.lt_floor_add_one _
  · rintro value ⟨units, rfl⟩ above
    rw [lt_div_iff₀ scale] at above
    have next : ⌊bound * 10 ^ digits⌋ + 1 ≤ units := Int.floor_lt.mpr above
    exact div_le_div_of_nonneg_right (by exact_mod_cast next) scale.le

end Decimal

/-- `format(value, f".{digits}f")`: the digits of the rounded value, with the sign
of the value itself. -/
def formatFixed (digits : Nat) (value : Rat) : String :=
  let units := (roundHalfEven (|value| * 10 ^ digits)).toNat
  let fraction := toString (units % 10 ^ digits)
  let zeros := String.ofList (List.replicate (digits - fraction.length) '0')
  let sign := if value < 0 then "-" else ""
  sign ++ toString (units / 10 ^ digits) ++ "." ++ zeros ++ fraction

example : formatFixed 6 (-1 / 8) = "-0.125000" := by decide +kernel

end EvalForge.Foundation
