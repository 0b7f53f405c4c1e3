import EvalForge.Foundation.Interpolation
import EvalForge.Services.Statistics

/-! # The percentile as an interpolation

A percentile is the value of the sorted samples at a rank between their first
and their last position.
-/

namespace EvalForge

open Foundation

/-- The order statistics, the last of them repeated. -/
def orderStatistic (values : List Rat) (position : Nat) : Rat :=
  (sorted values).getD (min position (values.length - 1)) 0

def percentileLower (values : List Rat) (percentileValue : Rat) : Nat :=
  ⌊((values.length - 1 : Nat) * percentileValue : Rat)⌋.toNat

def percentileUpper (values : List Rat) (percentileValue : Rat) : Nat :=
  min (percentileLower values percentileValue + 1) (values.length - 1)

def percentileWeight (values : List Rat) (percentileValue : Rat) : Rat :=
  (values.length - 1 : Nat) * percentileValue - percentileLower values percentileValue

/-- Linear interpolation between two order statistics, for every percentile of
some values. -/
structure InterpolatesOrderStatistics (values : List Rat) : Prop where
  indexed : ∀ percentileValue ∈ Set.Icc (0 : Rat) 1,
    ∃ (lower : percentileLower values percentileValue < (sorted values).length)
      (upper : percentileUpper values percentileValue < (sorted values).length),
      percentile values percentileValue =
        (sorted values)[percentileLower values percentileValue] *
            (1 - percentileWeight values percentileValue) +
          (sorted values)[percentileUpper values percentileValue] *
            percentileWeight values percentileValue
  between : ∀ percentileValue ∈ Set.Icc (0 : Rat) 1,
    percentile values percentileValue ∈ Set.Icc (percentile values 0) (percentile values 1)
  minimum : values.min? = some (percentile values 0)
  maximum : values.max? = some (percentile values 1)
  permuted : ∀ others, values.Perm others → ∀ percentileValue,
    percentile values percentileValue = percentile others percentileValue
  monotone : MonotoneOn (percentile values) (Set.Icc 0 1)
  pointwise : ∀ others, List.Forall₂ (· ≤ ·) values others →
    ∀ percentileValue ∈ Set.Icc (0 : Rat) 1,
      percentile values percentileValue ≤ percentile others percentileValue
  shifted : ∀ offset, ∀ percentileValue ∈ Set.Icc (0 : Rat) 1,
    percentile (values.map (· + offset)) percentileValue =
      percentile values percentileValue + offset

section

variable {values : List Rat} {percentileValue : Rat}

theorem length_sorted (values : List Rat) : (sorted values).length = values.length :=
  List.length_insertionSort _ _

theorem orderStatistic_monotone (values : List Rat) : Monotone (orderStatistic values) := by
  intro position later order
  by_cases empty : values = []
  · rw [empty]
    rfl
  · have positive : 0 < values.length := List.length_pos_iff.mpr empty
    exact getD_insertionSort_mono (min_le_min_right _ order) (by omega) 0

theorem rank_mem (range : percentileValue ∈ Set.Icc (0 : Rat) 1) (values : List Rat) :
    0 ≤ ((values.length - 1 : Nat) * percentileValue : Rat) ∧
      ((values.length - 1 : Nat) * percentileValue : Rat) ≤ (values.length - 1 : Nat) :=
  ⟨mul_nonneg (Nat.cast_nonneg _) range.1, mul_le_of_le_one_right (Nat.cast_nonneg _) range.2⟩

theorem percentileLower_le (range : percentileValue ∈ Set.Icc (0 : Rat) 1) (values : List Rat) :
    percentileLower values percentileValue ≤ values.length - 1 := by
  have floor := (Int.floor_mono (rank_mem range values).2).trans_eq (Int.floor_natCast _)
  unfold percentileLower
  omega

theorem percentileWeight_eq (range : percentileValue ∈ Set.Icc (0 : Rat) 1) (values : List Rat) :
    percentileWeight values percentileValue =
      Int.fract ((values.length - 1 : Nat) * percentileValue : Rat) := by
  have whole : ((percentileLower values percentileValue : Nat) : Rat) =
      ⌊((values.length - 1 : Nat) * percentileValue : Rat)⌋ := by
    exact_mod_cast Int.toNat_of_nonneg (Int.floor_nonneg.mpr (rank_mem range values).1)
  rw [percentileWeight, whole]
  rfl

theorem percentile_eq_interpolated (nonempty : values ≠ [])
    (range : percentileValue ∈ Set.Icc (0 : Rat) 1) :
    percentile values percentileValue =
      interpolated (orderStatistic values) ((values.length - 1 : Nat) * percentileValue) := by
  have bound : ⌊((values.length - 1 : Nat) * percentileValue : Rat)⌋.toNat ≤ values.length - 1 :=
    percentileLower_le range values
  rw [percentile_eq_interpolate nonempty range.1, interpolated, orderStatistic, orderStatistic,
    min_eq_left bound]

theorem percentile_zero (nonempty : values ≠ []) :
    percentile values 0 = orderStatistic values 0 := by
  rw [percentile_eq_interpolated nonempty ⟨le_refl 0, zero_le_one⟩, mul_zero, ← Nat.cast_zero,
    interpolated_natCast]

theorem percentile_one (nonempty : values ≠ []) :
    percentile values 1 = orderStatistic values (values.length - 1) := by
  rw [percentile_eq_interpolated nonempty ⟨zero_le_one, le_refl 1⟩, mul_one,
    interpolated_natCast]

theorem percentile_monotoneOn (nonempty : values ≠ []) :
    MonotoneOn (percentile values) (Set.Icc 0 1) := by
  intro lower lowerRange upper upperRange order
  rw [percentile_eq_interpolated nonempty lowerRange,
    percentile_eq_interpolated nonempty upperRange]
  apply interpolated_mono (orderStatistic_monotone values) (rank_mem lowerRange values).1
  exact mul_le_mul_of_nonneg_left order (Nat.cast_nonneg _)

theorem orderStatistic_mem (nonempty : values ≠ []) (position : Nat) :
    orderStatistic values position ∈ values := by
  have positive : 0 < values.length := List.length_pos_iff.mpr nonempty
  have own : ∀ value ∈ values, value ∈ values := fun _ member => member
  exact getD_insertionSort_of_forall own (by omega) 0

theorem exists_orderStatistic {value : Rat} (member : value ∈ values) :
    ∃ position, position ≤ values.length - 1 ∧ orderStatistic values position = value := by
  have sortedMember : value ∈ sorted values := (List.mem_insertionSort _).mpr member
  rcases List.getElem_of_mem sortedMember with ⟨position, bound, found⟩
  have length := length_sorted values
  refine ⟨position, by omega, ?_⟩
  rw [orderStatistic, min_eq_left (by omega), List.getD_eq_getElem _ _ bound, found]

theorem min?_eq_percentile (nonempty : values ≠ []) :
    values.min? = some (percentile values 0) := by
  rw [percentile_zero nonempty, List.min?_eq_some_iff]
  constructor
  · exact orderStatistic_mem nonempty 0
  · intro value member
    rcases exists_orderStatistic member with ⟨position, -, rfl⟩
    exact orderStatistic_monotone values (Nat.zero_le position)

theorem max?_eq_percentile (nonempty : values ≠ []) :
    values.max? = some (percentile values 1) := by
  rw [percentile_one nonempty, List.max?_eq_some_iff]
  constructor
  · exact orderStatistic_mem nonempty _
  · intro value member
    rcases exists_orderStatistic member with ⟨position, bound, rfl⟩
    exact orderStatistic_monotone values bound

theorem percentile_eq_getElem (nonempty : values ≠ [])
    (range : percentileValue ∈ Set.Icc (0 : Rat) 1) :
    ∃ (lower : percentileLower values percentileValue < (sorted values).length)
      (upper : percentileUpper values percentileValue < (sorted values).length),
      percentile values percentileValue =
        (sorted values)[percentileLower values percentileValue] *
            (1 - percentileWeight values percentileValue) +
          (sorted values)[percentileUpper values percentileValue] *
            percentileWeight values percentileValue := by
  have positive : 0 < values.length := List.length_pos_iff.mpr nonempty
  have length := length_sorted values
  have bound := percentileLower_le range values
  have lower : percentileLower values percentileValue < (sorted values).length := by omega
  have upper : percentileUpper values percentileValue < (sorted values).length := by
    unfold percentileUpper
    omega
  refine ⟨lower, upper, ?_⟩
  rw [percentile_eq_interpolate nonempty range.1, percentileWeight_eq range values, interpolate,
    ← List.getD_eq_getElem _ 0 lower, ← List.getD_eq_getElem _ 0 upper]
  rfl

end

/-- The percentiles of at least one value interpolate between its order
statistics. -/
theorem percentile_interpolates {values : List Rat} (nonempty : values ≠ []) :
    InterpolatesOrderStatistics values where
  indexed _ range := percentile_eq_getElem nonempty range
  between percentileValue range := by
    have monotone := percentile_monotoneOn nonempty
    constructor
    · exact monotone ⟨le_refl 0, zero_le_one⟩ range range.1
    · exact monotone range ⟨zero_le_one, le_refl 1⟩ range.2
  minimum := min?_eq_percentile nonempty
  maximum := max?_eq_percentile nonempty
  permuted _ permuted percentileValue := percentile_perm permuted percentileValue
  monotone := percentile_monotoneOn nonempty
  pointwise _ related _ range := percentile_monotone range.1 related
  shifted offset _ range := percentile_shift range.1 range.2 offset nonempty

theorem percentile_interpolates_three_values : InterpolatesOrderStatistics [5, 1, 3] :=
  percentile_interpolates (List.cons_ne_nil _ _)

end EvalForge
