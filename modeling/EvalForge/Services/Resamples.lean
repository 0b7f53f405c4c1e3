import EvalForge.Services.RegressionDeciders

/-! # Resamples that regress

The bounds of a bootstrap interval are two of the sorted differences of the
resamples, so whether a bound is a regression is a matter of how many resamples
are.
-/

namespace EvalForge

open Foundation

namespace Direction

/-- A metric that should rise fails from 975 regressed resamples on, one that
should fall from 976 on. -/
def failingResamples : Direction → Nat
  | higherBetter => 975
  | lowerBetter => 976

def noticedResamples : Direction → Nat
  | higherBetter => 25
  | lowerBetter => 26

end Direction

section Resamples

variable (draws : Draws) (statistic : List Rat → Rat) (direction : Direction) (tolerance : Rat)
variable (baselineValues candidateValues : List Rat)

def resampleDelta (resample : Nat) : Rat :=
  let count := min baselineValues.length candidateValues.length
  statistic (draws.resample candidateValues count resample) -
    statistic (draws.resample baselineValues count resample)

def regressedResamples : Nat :=
  (List.range defaultResamples).countP fun resample =>
    direction.Regressed tolerance
      (roundTo 6 (resampleDelta draws statistic baselineValues candidateValues resample))

def sortedDelta (index : Nat) : Rat :=
  (sorted ((List.range defaultResamples).map
    (resampleDelta draws statistic baselineValues candidateValues))).getD index 0

theorem regressed_sortedDelta_higherBetter {index : Nat} (inside : index < defaultResamples) :
    Direction.higherBetter.Regressed tolerance
        (roundTo 6 (sortedDelta draws statistic baselineValues candidateValues index)) ↔
      index < regressedResamples draws statistic .higherBetter tolerance baselineValues
        candidateValues := by
  unfold sortedDelta sorted regressedResamples
  rw [getD_insertionSort_iff_lt_countP
    (fun delta => Direction.higherBetter.Regressed tolerance (roundTo 6 delta))
    (fun _ _ order below => (roundTo_monotone order).trans_lt below) _ (by simpa using inside),
    List.countP_map]
  rfl

theorem regressed_sortedDelta_lowerBetter {index : Nat} (inside : index < defaultResamples) :
    Direction.lowerBetter.Regressed tolerance
        (roundTo 6 (sortedDelta draws statistic baselineValues candidateValues index)) ↔
      defaultResamples ≤ index + regressedResamples draws statistic .lowerBetter tolerance
        baselineValues candidateValues := by
  unfold sortedDelta sorted regressedResamples
  rw [getD_insertionSort_iff_le_countP
    (fun delta => Direction.lowerBetter.Regressed tolerance (roundTo 6 delta))
    (fun _ _ order above => lt_of_lt_of_le above (roundTo_monotone order)) _
    (by simpa using inside), List.countP_map, List.length_map, List.length_range]
  rfl

variable {baselineValues candidateValues}

theorem bootstrapDeltaCi_sorted (baselineSome : baselineValues ≠ [])
    (candidateSome : candidateValues ≠ []) :
    bootstrapDeltaCi draws defaultResamples baselineValues candidateValues statistic =
      (sortedDelta draws statistic baselineValues candidateValues 24,
        sortedDelta draws statistic baselineValues candidateValues 974) := by
  rw [bootstrapDeltaCi, List.isEmpty_eq_false_iff.mpr baselineSome,
    List.isEmpty_eq_false_iff.mpr candidateSome]
  rfl

theorem regressed_decisiveBound_iff (baselineSome : baselineValues ≠ [])
    (candidateSome : candidateValues ≠ []) :
    direction.Regressed tolerance (roundTo 6 (direction.decisiveBound
        (bootstrapDeltaCi draws defaultResamples baselineValues candidateValues statistic))) ↔
      direction.failingResamples ≤
        regressedResamples draws statistic direction tolerance baselineValues candidateValues := by
  rw [bootstrapDeltaCi_sorted draws statistic baselineSome candidateSome]
  cases direction with
  | higherBetter =>
      have inside : 974 < defaultResamples := by decide
      rw [Direction.decisiveBound, regressed_sortedDelta_higherBetter _ _ _ _ _ inside,
        Direction.failingResamples, Nat.lt_iff_add_one_le]
  | lowerBetter =>
      have inside : 24 < defaultResamples := by decide
      rw [Direction.decisiveBound, regressed_sortedDelta_lowerBetter _ _ _ _ _ inside,
        Direction.failingResamples, defaultResamples]
      omega

theorem regressed_worseBound_iff (baselineSome : baselineValues ≠ [])
    (candidateSome : candidateValues ≠ []) :
    direction.Regressed tolerance (roundTo 6 (direction.worseBound
        (bootstrapDeltaCi draws defaultResamples baselineValues candidateValues statistic))) ↔
      direction.noticedResamples ≤
        regressedResamples draws statistic direction tolerance baselineValues candidateValues := by
  rw [bootstrapDeltaCi_sorted draws statistic baselineSome candidateSome]
  cases direction with
  | higherBetter =>
      have inside : 24 < defaultResamples := by decide
      rw [Direction.worseBound, regressed_sortedDelta_higherBetter _ _ _ _ _ inside,
        Direction.noticedResamples, Nat.lt_iff_add_one_le]
  | lowerBetter =>
      have inside : 974 < defaultResamples := by decide
      rw [Direction.worseBound, regressed_sortedDelta_lowerBetter _ _ _ _ _ inside,
        Direction.noticedResamples, defaultResamples]
      omega

end Resamples

end EvalForge
