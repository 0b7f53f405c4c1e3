import EvalForge.Foundation.OrderStatistics
import Mathlib.Data.Rat.Floor

/-! # Statistics

The mean, the interpolated percentile and the bootstrap intervals, in exact
arithmetic. A fresh generator with the same seed is made for every interval, so
the indices it draws are a function of the number of samples.
-/

namespace EvalForge

open Foundation

/-- `sorted(values)`. -/
def sorted (values : List Rat) : List Rat :=
  values.insertionSort (· ≤ ·)

def average (values : List Rat) : Rat :=
  if values.isEmpty then 0 else values.sum / values.length

def percentile (values : List Rat) (percentileValue : Rat) : Rat :=
  if values.isEmpty then 0
  else
    let ordered := sorted values
    if ordered.length = 1 then ordered.getD 0 0
    else
      let rank := (ordered.length - 1 : Nat) * percentileValue
      let lower := ⌊rank⌋.toNat
      let upper := min (lower + 1) (ordered.length - 1)
      let weight := rank - lower
      ordered.getD lower 0 * (1 - weight) + ordered.getD upper 0 * weight

theorem average_nonneg {values : List Rat} (nonnegative : ∀ value ∈ values, 0 ≤ value) :
    0 ≤ average values := by
  unfold average
  split
  · exact le_refl 0
  · exact div_nonneg (List.sum_nonneg nonnegative) (Nat.cast_nonneg _)

/-! Neither depends on the order of the values. -/

theorem average_perm {values others : List Rat} (permuted : values.Perm others) :
    average values = average others := by
  rw [average, average, permuted.sum_eq, permuted.length_eq, permuted.isEmpty_eq]

theorem sorted_perm {values others : List Rat} (permuted : values.Perm others) :
    sorted values = sorted others := by
  apply List.Perm.eq_of_sortedLE List.sortedLE_insertionSort List.sortedLE_insertionSort
  exact ((List.perm_insertionSort _ _).trans permuted).trans (List.perm_insertionSort _ _).symm

theorem percentile_perm {values others : List Rat} (permuted : values.Perm others)
    (percentileValue : Rat) :
    percentile values percentileValue = percentile others percentileValue := by
  rw [percentile, percentile, permuted.isEmpty_eq, sorted_perm permuted]

/-! ## The bootstrap -/

/-- The indices that `random.Random(42)` draws below a count, by resample and
position. -/
structure Draws where
  index : Nat → Nat → Nat → Nat
  index_lt : ∀ count resample position, 0 < count → index count resample position < count

namespace Draws

variable (draws : Draws)

def indices (count resample : Nat) : List Nat :=
  (List.range count).map (draws.index count resample)

def resample (values : List Rat) (count resample : Nat) : List Rat :=
  (draws.indices count resample).map fun index => values.getD index 0

end Draws

/-- The default of `n_resamples`. -/
def defaultResamples : Nat := 1000

def intervalBounds (nResamples : Nat) (estimates : List Rat) : Rat × Rat :=
  ((sorted estimates).getD (25 * (nResamples - 1) / 1000) 0,
    (sorted estimates).getD (975 * (nResamples - 1) / 1000) 0)

def bootstrapCi (draws : Draws) (nResamples : Nat) (values : List Rat)
    (statistic : List Rat → Rat) : Rat × Rat :=
  if values.length < 3 then (0, 0)
  else
    intervalBounds nResamples <| (List.range nResamples).map fun resample =>
      statistic (draws.resample values values.length resample)

def bootstrapDeltaCi (draws : Draws) (nResamples : Nat)
    (baselineValues candidateValues : List Rat) (statistic : List Rat → Rat) : Rat × Rat :=
  if baselineValues.isEmpty || candidateValues.isEmpty then (0, 0)
  else
    let count := min baselineValues.length candidateValues.length
    intervalBounds nResamples <| (List.range nResamples).map fun resample =>
      statistic (draws.resample candidateValues count resample) -
        statistic (draws.resample baselineValues count resample)

/-! ## Both statistics are statistics of location -/

theorem average_monotone {lefts rights : List Rat}
    (related : List.Forall₂ (· ≤ ·) lefts rights) : average lefts ≤ average rights := by
  have length := related.length_eq
  cases related with
  | nil => exact le_refl _
  | @cons left right lefts rights below related =>
      have sums : (left :: lefts).sum ≤ (right :: rights).sum :=
        List.Forall₂.sum_le_sum (.cons below related)
      simp only [average, List.isEmpty_cons, Bool.false_eq_true, if_false, length]
      exact div_le_div_of_nonneg_right sums (Nat.cast_nonneg _)

theorem average_shift {values : List Rat} (offset : Rat) (nonempty : values ≠ []) :
    average (values.map (· + offset)) = average values + offset := by
  have count : (values.length : Rat) ≠ 0 := by simpa using nonempty
  have mapped : (values.map (· + offset)).isEmpty = false := by simpa using nonempty
  have notEmpty : values.isEmpty = false := by simpa using nonempty
  rw [average, average, mapped, notEmpty, sum_map_add, List.length_map]
  simp only [Bool.false_eq_true, if_false]
  field_simp

theorem percentile_eq_interpolate {values : List Rat} (nonempty : values ≠ [])
    {percentileValue : Rat} (nonnegative : 0 ≤ percentileValue) :
    percentile values percentileValue =
      interpolate (Int.fract ((values.length - 1 : Nat) * percentileValue))
        ((sorted values).getD ⌊((values.length - 1 : Nat) * percentileValue : Rat)⌋.toNat 0)
        ((sorted values).getD (min (⌊((values.length - 1 : Nat) * percentileValue : Rat)⌋.toNat + 1)
          (values.length - 1)) 0) := by
  have length : (sorted values).length = values.length := List.length_insertionSort _ _
  have notEmpty : values.isEmpty = false := by simpa using nonempty
  rw [percentile, notEmpty]
  simp only [Bool.false_eq_true, if_false, length]
  split
  · next one => simp [one, interpolate]
  · have rank : 0 ≤ ((values.length - 1 : Nat) * percentileValue : Rat) :=
      mul_nonneg (Nat.cast_nonneg _) nonnegative
    have whole : ((⌊((values.length - 1 : Nat) * percentileValue : Rat)⌋.toNat : Nat) : Rat) =
        ⌊((values.length - 1 : Nat) * percentileValue : Rat)⌋ := by
      exact_mod_cast Int.toNat_of_nonneg (Int.floor_nonneg.mpr rank)
    rw [whole]
    rfl

theorem percentile_monotone {percentileValue : Rat} (nonnegative : 0 ≤ percentileValue)
    {lefts rights : List Rat} (related : List.Forall₂ (· ≤ ·) lefts rights) :
    percentile lefts percentileValue ≤ percentile rights percentileValue := by
  by_cases empty : lefts = []
  · subst empty
    rw [List.forall₂_nil_left_iff.mp related]
  · have length := related.length_eq
    have rightsNonempty : rights ≠ [] := by
      intro rightsEmpty
      rw [rightsEmpty] at length
      exact empty (List.length_eq_zero_iff.mp length)
    have order := forall₂_insertionSort related
    rw [percentile_eq_interpolate empty nonnegative,
      percentile_eq_interpolate rightsNonempty nonnegative, length]
    apply interpolate_le (Int.fract_nonneg _) (Int.fract_lt_one _).le
    · exact forall₂_getD order _ (le_refl _)
    · exact forall₂_getD order _ (le_refl _)

theorem percentile_shift {percentileValue : Rat} (nonnegative : 0 ≤ percentileValue)
    (atMostOne : percentileValue ≤ 1) {values : List Rat} (offset : Rat)
    (nonempty : values ≠ []) :
    percentile (values.map (· + offset)) percentileValue =
      percentile values percentileValue + offset := by
  have mapped : values.map (· + offset) ≠ [] := by simpa using nonempty
  have length : (sorted values).length = values.length := List.length_insertionSort _ _
  have positive : 0 < values.length := List.length_pos_iff.mpr nonempty
  have rank : ⌊((values.length - 1 : Nat) * percentileValue : Rat)⌋.toNat < values.length := by
    have below : ((values.length - 1 : Nat) * percentileValue : Rat) ≤ (values.length - 1 : Nat) :=
      mul_le_of_le_one_right (Nat.cast_nonneg _) atMostOne
    have floor : ⌊((values.length - 1 : Nat) * percentileValue : Rat)⌋ ≤ (values.length - 1 : Nat) :=
      (Int.floor_mono below).trans_eq (Int.floor_natCast _)
    omega
  have shifted : sorted (values.map (· + offset)) = (sorted values).map (· + offset) :=
    insertionSort_map_add values offset
  rw [percentile_eq_interpolate mapped nonnegative,
    percentile_eq_interpolate nonempty nonnegative, shifted, List.length_map,
    getD_map_add (by omega), getD_map_add (by omega), interpolate_add]

def averageLocation : LocationStatistic Rat where
  value := average
  monotone := average_monotone
  shift := average_shift

def percentileLocation (percentileValue : Rat) (nonnegative : 0 ≤ percentileValue)
    (atMostOne : percentileValue ≤ 1) : LocationStatistic Rat where
  value values := percentile values percentileValue
  monotone := percentile_monotone nonnegative
  shift := percentile_shift nonnegative atMostOne

/-! ## Estimates of paired samples -/

theorem intervalBounds_of_forall {Property : Rat → Prop} {nResamples : Nat}
    {estimates : List Rat} (length : estimates.length = nResamples) (positive : 0 < nResamples)
    (holds : ∀ estimate ∈ estimates, Property estimate) :
    Property (intervalBounds nResamples estimates).1 ∧
      Property (intervalBounds nResamples estimates).2 := by
  constructor
  · exact getD_insertionSort_of_forall holds (by omega) 0
  · exact getD_insertionSort_of_forall holds (by omega) 0

section Paired

variable {Related : Rat → Rat → Prop}
variable {baselineValues candidateValues : List Rat} {statistic : List Rat → Rat}

theorem Draws.forall₂_resample (draws : Draws)
    (related : List.Forall₂ Related baselineValues candidateValues)
    (nonempty : baselineValues ≠ []) (resample : Nat) :
    List.Forall₂ Related (draws.resample baselineValues baselineValues.length resample)
      (draws.resample candidateValues baselineValues.length resample) := by
  apply forall₂_map_of_forall
  intro index member
  rcases List.mem_map.mp member with ⟨position, _, rfl⟩
  have bound := draws.index_lt baselineValues.length resample position
    (List.length_pos_iff.mpr nonempty)
  exact forall₂_getD_of_lt related bound 0

theorem Draws.resample_ne_nil (draws : Draws) {values : List Rat} (nonempty : values ≠ [])
    (resample : Nat) : draws.resample values values.length resample ≠ [] := by
  simpa [Draws.resample, Draws.indices] using nonempty

/-- What the statistic of every paired sample satisfies, the interval does. -/
theorem bootstrapDeltaCi_of_related (Property : Rat → Prop) (draws : Draws) {nResamples : Nat}
    (positive : 0 < nResamples) (related : List.Forall₂ Related baselineValues candidateValues)
    (nonempty : baselineValues ≠ [])
    (estimates : ∀ baselineSample candidateSample, baselineSample ≠ [] →
      List.Forall₂ Related baselineSample candidateSample →
      Property (statistic candidateSample - statistic baselineSample)) :
    Property (bootstrapDeltaCi draws nResamples baselineValues candidateValues statistic).1 ∧
      Property (bootstrapDeltaCi draws nResamples baselineValues candidateValues statistic).2 := by
  have length := related.length_eq
  have baselineSome : baselineValues.isEmpty = false := by simpa using nonempty
  have candidateSome : candidateValues.isEmpty = false := by
    cases related with
    | nil => exact absurd rfl nonempty
    | cons => rfl
  rw [bootstrapDeltaCi, baselineSome, candidateSome]
  simp only [Bool.or_self, Bool.false_eq_true, if_false, ← length, min_self]
  apply intervalBounds_of_forall (by simp) positive
  intro estimate member
  rcases List.mem_map.mp member with ⟨resample, _, rfl⟩
  apply estimates
  · exact draws.resample_ne_nil nonempty resample
  · exact draws.forall₂_resample related nonempty resample

theorem intervalBounds_le (nResamples : Nat) {lefts rights : List Rat}
    (related : List.Forall₂ (· ≤ ·) lefts rights) :
    (intervalBounds nResamples lefts).1 ≤ (intervalBounds nResamples rights).1 ∧
      (intervalBounds nResamples lefts).2 ≤ (intervalBounds nResamples rights).2 := by
  have order := forall₂_insertionSort related
  exact ⟨forall₂_getD order _ (le_refl _), forall₂_getD order _ (le_refl _)⟩

variable {statistic : LocationStatistic Rat} {offset : Rat}

/-- A lower candidate has a lower interval against the same baseline. -/
theorem bootstrapDeltaCi_le (draws : Draws) (nResamples : Nat) (baselineValues : List Rat)
    {lower upper : List Rat} (related : List.Forall₂ (· ≤ ·) lower upper) :
    (bootstrapDeltaCi draws nResamples baselineValues lower statistic.value).1 ≤
        (bootstrapDeltaCi draws nResamples baselineValues upper statistic.value).1 ∧
      (bootstrapDeltaCi draws nResamples baselineValues lower statistic.value).2 ≤
        (bootstrapDeltaCi draws nResamples baselineValues upper statistic.value).2 := by
  have length := related.length_eq
  have sameEmpty : lower.isEmpty = upper.isEmpty := by
    cases related <;> rfl
  unfold bootstrapDeltaCi
  rw [sameEmpty, length]
  split
  · exact ⟨le_rfl, le_rfl⟩
  · apply intervalBounds_le
    apply forall₂_map_of_forall
    intro resample _
    apply sub_le_sub_right
    apply statistic.monotone
    exact forall₂_map_of_forall fun index _ => forall₂_getD related index (le_refl _)

theorem bootstrapDeltaCi_eq_offset (draws : Draws) {nResamples : Nat} (positive : 0 < nResamples)
    (nonempty : baselineValues ≠ [])
    (related : List.Forall₂ (fun baseline candidate => candidate = baseline + offset)
      baselineValues candidateValues) :
    bootstrapDeltaCi draws nResamples baselineValues candidateValues statistic.value =
      (offset, offset) := by
  have bounds := bootstrapDeltaCi_of_related (fun estimate => estimate = offset) draws positive
    related nonempty fun _ _ sampled pairs => statistic.eq_offset sampled pairs
  exact Prod.ext bounds.1 bounds.2

end Paired

end EvalForge
