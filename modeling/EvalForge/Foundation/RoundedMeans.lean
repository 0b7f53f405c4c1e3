import EvalForge.Foundation.Binary64
import Mathlib.Data.List.Induction

/-! # Sums and means of rounded numbers

Two ways to add a list with a rounding after every operation: from the left, and
with Neumaier's compensation, which collects what the additions lose. The errors
are bounded for any rounding with a relative error.
-/

namespace EvalForge.Foundation

section

variable {K : Type u} [Field K] [LinearOrder K]

/-- A rounding moves a value by at most a share of its bound. The bound is at least
one, so that nothing is asked of tiny values. -/
def RoundsWithin (share : K) (round : K → K) : Prop :=
  ∀ value bound, |value| ≤ bound → 1 ≤ bound → |round value - value| ≤ bound * share

variable (round : K → K)

def roundedSum (values : List K) : K :=
  values.foldl (fun total value => round (total + value)) 0

structure Compensated (K : Type u) where
  total : K
  lost : K

/-- What the addition of a smaller value loses. -/
def lostDigits (larger smaller : K) : K :=
  round (round (larger - round (larger + smaller)) + smaller)

def Compensated.add (sum : Compensated K) (value : K) : Compensated K where
  total := round (sum.total + value)
  lost := round (sum.lost +
    if |value| ≤ |sum.total| then lostDigits round sum.total value
    else lostDigits round value sum.total)

def compensatedSum (values : List K) : K :=
  let sum := values.foldl (Compensated.add round) ⟨0, 0⟩
  if sum.lost = 0 then sum.total else round (sum.total + sum.lost)

variable [IsStrictOrderedRing K] {round} {share bound : K}

theorem abs_sum_le_length_mul {values : List K} (bounded : ∀ value ∈ values, |value| ≤ bound) :
    |values.sum| ≤ values.length * bound := by
  induction values with
  | nil => simp
  | cons value values induction =>
      rcases List.forall_mem_cons.mp bounded with ⟨first, rest⟩
      rw [List.sum_cons, List.length_cons]
      push_cast
      calc |value + values.sum| ≤ |value| + |values.sum| := abs_add_le _ _
        _ ≤ bound + values.length * bound := add_le_add first (induction rest)
        _ = (values.length + 1) * bound := by ring

theorem abs_sum_map_sub_le {values : List K} {error : K}
    (moved : ∀ value ∈ values, |round value - value| ≤ error) :
    |(values.map round).sum - values.sum| ≤ values.length * error := by
  induction values with
  | nil => simp
  | cons value values induction =>
      rcases List.forall_mem_cons.mp moved with ⟨first, rest⟩
      rw [List.map_cons, List.sum_cons, List.sum_cons, List.length_cons, add_sub_add_comm]
      push_cast
      calc |round value - value + ((values.map round).sum - values.sum)|
          ≤ |round value - value| + |(values.map round).sum - values.sum| := abs_add_le _ _
        _ ≤ error + values.length * error := add_le_add first (induction rest)
        _ = (values.length + 1) * error := by ring

section

variable (within : RoundsWithin share round) (natural : 0 ≤ share) (large : 1 ≤ bound)

include natural in
theorem one_le_growth (count : Nat) : 1 ≤ (1 + share) ^ count :=
  one_le_pow₀ (by linarith)

include within natural large

/-! ## The running sum -/

omit within natural in
theorem abs_total_add_le {values : List K} {total value growth : K} (grows : 1 ≤ growth)
    (bounded : ∀ other ∈ values, |other| ≤ bound) (last : |value| ≤ bound)
    (error : |total - values.sum| ≤ values.length * (bound * (growth - 1))) :
    |total + value| ≤ (values.length + 1) * (bound * growth) := by
  have exact := abs_sum_le_length_mul bounded
  have scaled : bound ≤ bound * growth := le_mul_of_one_le_right (by linarith) grows
  have split : total + value = (total - values.sum) + values.sum + value := by ring
  calc |total + value| ≤ |total - values.sum| + |values.sum| + |value| := by
        rw [split]
        exact abs_add_three _ _ _
    _ ≤ values.length * (bound * (growth - 1)) + values.length * bound + bound * growth := by
        linarith
    _ = (values.length + 1) * (bound * growth) := by ring

omit within natural in
theorem one_le_bound {growth : K} (grows : 1 ≤ growth) (count : Nat) :
    1 ≤ (count + 1) * (bound * growth) := by
  have first : (1 : K) ≤ count + 1 := by
    have nonneg : (0 : K) ≤ count := Nat.cast_nonneg _
    linarith
  have scaled : 1 ≤ bound * growth := one_le_mul_of_one_le_of_one_le large grows
  exact one_le_mul_of_one_le_of_one_le first scaled

theorem abs_roundedSum_sub_le {values : List K} (bounded : ∀ value ∈ values, |value| ≤ bound) :
    |roundedSum round values - values.sum| ≤
      values.length * (bound * ((1 + share) ^ values.length - 1)) := by
  induction values using List.reverseRecOn with
  | nil => simp [roundedSum]
  | append_singleton values value induction =>
      have earlier := fun other member => bounded other (List.mem_append_left [value] member)
      have last : |value| ≤ bound := bounded value (by simp)
      have grows := one_le_growth natural values.length
      have error := induction earlier
      have total := abs_total_add_le large grows earlier last error
      have rounded := within _ _ total (one_le_bound large grows _)
      have next : roundedSum round (values ++ [value]) =
          round (roundedSum round values + value) := by
        rw [roundedSum, List.foldl_append]
        rfl
      rw [next, List.sum_append, List.sum_singleton, List.length_append, List.length_singleton,
        pow_succ]
      push_cast
      generalize roundedSum round values = sum at error total rounded
      generalize (1 + share) ^ values.length = growth at grows error total rounded
      have excess : 0 ≤ bound * (growth - 1) := mul_nonneg (by linarith) (by linarith)
      calc |round (sum + value) - (values.sum + value)|
          ≤ |round (sum + value) - (sum + value)| + |sum - values.sum| := by
            have split : round (sum + value) - (values.sum + value) =
                round (sum + value) - (sum + value) + (sum - values.sum) := by ring
            rw [split]
            exact abs_add_le _ _
        _ ≤ (values.length + 1) * (bound * growth) * share +
              (values.length + 1) * (bound * (growth - 1)) := by linarith
        _ = (values.length + 1) * (bound * (growth * (1 + share) - 1)) := by ring

/-! ## The compensated sum -/

omit large in
theorem abs_lostDigits_add_le {larger smaller size : K} (sum : |larger + smaller| ≤ size)
    (small : |smaller| ≤ size) (one : 1 ≤ size) :
    |lostDigits round larger smaller + (round (larger + smaller) - (larger + smaller))| ≤
      size * ((1 + share + (1 + share) ^ 2) * share) := by
  have first := within _ _ sum one
  have grows : size ≤ size * (1 + share) := le_mul_of_one_le_right (by linarith) (by linarith)
  have rest : |larger - round (larger + smaller)| ≤ size * (1 + share) := by
    have split : larger - round (larger + smaller) =
        -smaller - (round (larger + smaller) - (larger + smaller)) := by ring
    rw [split]
    calc |-smaller - (round (larger + smaller) - (larger + smaller))|
        ≤ |-smaller| + |round (larger + smaller) - (larger + smaller)| := abs_sub _ _
      _ ≤ size + size * share := by
          rw [abs_neg]
          exact add_le_add small first
      _ = size * (1 + share) := by ring
  have second := within _ _ rest (one.trans grows)
  rw [lostDigits]
  generalize round (larger + smaller) = total at *
  generalize round (larger - total) = difference at *
  have digits : |difference + smaller| ≤ size * (1 + share) ^ 2 := by
    have split : difference + smaller = (difference - (larger - total)) -
        (total - (larger + smaller)) := by ring
    rw [split]
    calc |(difference - (larger - total)) - (total - (larger + smaller))|
        ≤ |difference - (larger - total)| + |total - (larger + smaller)| := abs_sub _ _
      _ ≤ size * (1 + share) * share + size * share := add_le_add second first
      _ ≤ size * (1 + share) ^ 2 := by linarith
  have third := within _ _ digits (one_le_mul_of_one_le_of_one_le one (one_le_growth natural 2))
  have split : round (difference + smaller) + (total - (larger + smaller)) =
      (round (difference + smaller) - (difference + smaller)) + (difference - (larger - total)) := by
    ring
  rw [split]
  calc |(round (difference + smaller) - (difference + smaller)) + (difference - (larger - total))|
      ≤ _ := abs_add_le _ _
    _ ≤ size * (1 + share) ^ 2 * share + size * (1 + share) * share := add_le_add third second
    _ = size * ((1 + share + (1 + share) ^ 2) * share) := by ring
omit large in
theorem Compensated.abs_add_sub_le {sum : Compensated K} {value size lost : K}
    (total : |sum.total + value| ≤ size) (small : |value| ≤ size) (one : 1 ≤ size)
    (kept : |sum.lost| ≤ lost) :
    |(sum.add round value).total + (sum.add round value).lost -
        (sum.total + sum.lost + value)| ≤
      size * ((1 + share + (1 + share) ^ 2) * share) +
        (lost + size * (1 + share) ^ 3) * share := by
  have first := within _ _ total one
  have digits : |(if |value| ≤ |sum.total| then lostDigits round sum.total value
        else lostDigits round value sum.total) +
      (round (sum.total + value) - (sum.total + value))| ≤
        size * ((1 + share + (1 + share) ^ 2) * share) := by
    split
    · exact abs_lostDigits_add_le within natural total small one
    · next above =>
      rw [add_comm sum.total value] at total ⊢
      exact abs_lostDigits_add_le within natural total ((not_le.mp above).le.trans small) one
  simp only [Compensated.add]
  generalize (if |value| ≤ |sum.total| then lostDigits round sum.total value
    else lostDigits round value sum.total) = found at digits ⊢
  generalize round (sum.total + value) = next at first digits ⊢
  have collected : |sum.lost + found| ≤ lost + size * (1 + share) ^ 3 := by
    have split : sum.lost + found = sum.lost + (found + (next - (sum.total + value))) -
        (next - (sum.total + value)) := by ring
    rw [split]
    calc |sum.lost + (found + (next - (sum.total + value))) - (next - (sum.total + value))|
        ≤ |sum.lost| + |found + (next - (sum.total + value))| + |next - (sum.total + value)| :=
          (abs_sub _ _).trans (add_le_add_left (abs_add_le _ _) _)
      _ ≤ lost + size * ((1 + share + (1 + share) ^ 2) * share) + size * share := by linarith
      _ = lost + size * ((1 + share) ^ 3 - 1) := by ring
      _ ≤ lost + size * (1 + share) ^ 3 := by linarith
  have atLeastOne : 1 ≤ lost + size * (1 + share) ^ 3 := by
    have scaled := one_le_mul_of_one_le_of_one_le one (one_le_growth natural 3)
    linarith [(abs_nonneg sum.lost).trans kept]
  have last := within _ _ collected atLeastOne
  have split : next + round (sum.lost + found) - (sum.total + sum.lost + value) =
      (found + (next - (sum.total + value))) +
        (round (sum.lost + found) - (sum.lost + found)) := by ring
  rw [split]
  exact (abs_add_le _ _).trans (add_le_add digits last)

omit within large in
theorem growth_step {size growth : K} (positive : 0 ≤ size) (grows : 1 ≤ growth) :
    size * (growth - 1) + size * growth * ((1 + share + (1 + share) ^ 2) * share) +
        size * growth * ((2 + (1 + share) ^ 3) * share) ≤
      size * (growth * (1 + share) ^ 5 - 1) := by
  have rest : 0 ≤ size * growth * (4 * share ^ 2 + 6 * share ^ 3 + 4 * share ^ 4 + share ^ 5) :=
    mul_nonneg (mul_nonneg positive (by linarith)) (by positivity)
  calc _ ≤ size * (growth - 1) + size * growth * ((1 + share + (1 + share) ^ 2) * share) +
        size * growth * ((2 + (1 + share) ^ 3) * share) +
        size * growth * (4 * share ^ 2 + 6 * share ^ 3 + 4 * share ^ 4 + share ^ 5) :=
          le_add_of_nonneg_right rest
    _ = size * (growth * (1 + share) ^ 5 - 1) := by ring

theorem abs_compensated_sub_le {values : List K} (bounded : ∀ value ∈ values, |value| ≤ bound) :
    (values.foldl (Compensated.add round) ⟨0, 0⟩).total = roundedSum round values ∧
      |(values.foldl (Compensated.add round) ⟨0, 0⟩).total +
          (values.foldl (Compensated.add round) ⟨0, 0⟩).lost - values.sum| ≤
        values.length * (bound * (((1 + share) ^ 5) ^ values.length - 1)) := by
  induction values using List.reverseRecOn with
  | nil => simp [roundedSum]
  | append_singleton values value induction =>
      have earlier := fun other member => bounded other (List.mem_append_left [value] member)
      have last : |value| ≤ bound := bounded value (by simp)
      rcases induction earlier with ⟨same, error⟩
      have grows := one_le_growth natural values.length
      have below : (1 + share) ^ values.length ≤ ((1 + share) ^ 5) ^ values.length :=
        pow_le_pow_left₀ (by linarith) (le_self_pow₀ (by linarith) (by decide)) _
      have running := abs_roundedSum_sub_le within natural large earlier
      have total := abs_total_add_le large grows earlier last running
      have one := one_le_bound large grows values.length
      rw [List.foldl_append, List.foldl_cons, List.foldl_nil, roundedSum, List.foldl_append,
        List.sum_append, List.sum_singleton, List.length_append, List.length_singleton, pow_succ]
      rw [← same] at running total
      generalize values.foldl (Compensated.add round) ⟨0, 0⟩ = sum at *
      refine ⟨congrArg (fun total => round (total + value)) same, ?_⟩
      have small : |value| ≤ (values.length + 1) * (bound * (1 + share) ^ values.length) := by
        have scaled : bound ≤ bound * (1 + share) ^ values.length :=
          le_mul_of_one_le_right (by linarith) grows
        have positive : 0 ≤ values.length * (bound * (1 + share) ^ values.length) :=
          mul_nonneg (Nat.cast_nonneg _) (by linarith)
        linarith
      have kept : |sum.lost| ≤ values.length * (bound * (((1 + share) ^ 5) ^ values.length - 1)) +
          values.length * (bound * ((1 + share) ^ values.length - 1)) := by
        have split : sum.lost = (sum.total + sum.lost - values.sum) - (sum.total - values.sum) := by
          ring
        rw [split]
        exact (abs_sub _ _).trans (add_le_add error running)
      have step := Compensated.abs_add_sub_le within natural total small one kept
      push_cast
      generalize sum.add round value = next at step ⊢
      generalize ((1 + share) ^ 5) ^ values.length = growth at *
      generalize (1 + share) ^ values.length = slow at *
      have countNatural : (0 : K) ≤ values.length := Nat.cast_nonneg _
      generalize (values.length : K) = count at *
      have size : 0 ≤ (count + 1) * bound := by positivity
      have fast := growth_step natural size (grows.trans below)
      have slower : (count + 1) * (bound * slow) ≤ (count + 1) * bound * growth := by
        rw [← mul_assoc]
        exact mul_le_mul_of_nonneg_left below size
      have excess : count * (bound * (growth - 1)) ≤ (count + 1) * bound * (growth - 1) := by
        have one : 0 ≤ bound * (growth - 1) := mul_nonneg (by linarith) (by linarith)
        linarith
      have slowExcess : count * (bound * (slow - 1)) ≤ (count + 1) * bound * (growth - 1) := by
        have less : bound * (slow - 1) ≤ bound * (growth - 1) :=
          mul_le_mul_of_nonneg_left (by linarith) (by linarith)
        exact (mul_le_mul_of_nonneg_left less countNatural).trans excess
      have split : next.total + next.lost - (values.sum + value) =
          (next.total + next.lost - (sum.total + sum.lost + value)) +
            (sum.total + sum.lost - values.sum) := by ring
      have cube : 0 ≤ (1 + share) ^ 3 := by positivity
      calc |next.total + next.lost - (values.sum + value)|
          ≤ |next.total + next.lost - (sum.total + sum.lost + value)| +
              |sum.total + sum.lost - values.sum| := by
            rw [split]
            exact abs_add_le _ _
        _ ≤ ((count + 1) * (bound * slow) * ((1 + share + (1 + share) ^ 2) * share) +
              (count * (bound * (growth - 1)) + count * (bound * (slow - 1)) +
                (count + 1) * (bound * slow) * (1 + share) ^ 3) * share) +
              count * (bound * (growth - 1)) := add_le_add step error
        _ ≤ ((count + 1) * bound * growth * ((1 + share + (1 + share) ^ 2) * share) +
              ((count + 1) * bound * growth * (2 + (1 + share) ^ 3)) * share) +
              (count + 1) * bound * (growth - 1) := by
            gcongr ?_ * _ + ?_ * _ + ?_
            have cubed := mul_le_mul_of_nonneg_right slower cube
            linarith
        _ ≤ (count + 1) * (bound * (growth * (1 + share) ^ 5 - 1)) := by linarith
theorem abs_compensatedSum_sub_le {values : List K} (bounded : ∀ value ∈ values, |value| ≤ bound) :
    |compensatedSum round values - values.sum| ≤
      values.length * (bound * (((1 + share) ^ 5) ^ values.length * (1 + share) - 1)) := by
  have error := (abs_compensated_sub_le within natural large bounded).2
  have exact := abs_sum_le_length_mul bounded
  have grows : 1 ≤ ((1 + share) ^ 5) ^ values.length := by
    rw [← pow_mul]
    exact one_le_growth natural _
  simp only [compensatedSum]
  by_cases empty : values = []
  · subst empty
    simp
  have count : (1 : K) ≤ values.length := by
    exact_mod_cast List.length_pos_iff.mpr empty
  generalize values.foldl (Compensated.add round) ⟨0, 0⟩ = sum at error ⊢
  generalize ((1 + share) ^ 5) ^ values.length = growth at error grows ⊢
  have more : values.length * (bound * (growth - 1)) ≤
      values.length * (bound * (growth * (1 + share) - 1)) := by
    have grown : growth ≤ growth * (1 + share) :=
      le_mul_of_one_le_right (by linarith) (by linarith)
    gcongr
  split
  · next nothing =>
    rw [nothing, add_zero] at error
    exact error.trans more
  · have total : |sum.total + sum.lost| ≤ values.length * (bound * growth) := by
      have split : sum.total + sum.lost = (sum.total + sum.lost - values.sum) + values.sum := by
        ring
      rw [split]
      calc |(sum.total + sum.lost - values.sum) + values.sum| ≤ _ := abs_add_le _ _
        _ ≤ values.length * (bound * (growth - 1)) + values.length * bound := add_le_add error exact
        _ = values.length * (bound * growth) := by ring
    have rounded := within _ _ total
      (one_le_mul_of_one_le_of_one_le count (one_le_mul_of_one_le_of_one_le large grows))
    calc |round (sum.total + sum.lost) - values.sum|
        ≤ |round (sum.total + sum.lost) - (sum.total + sum.lost)| +
            |sum.total + sum.lost - values.sum| := abs_sub_le _ _ _
      _ ≤ values.length * (bound * growth) * share + values.length * (bound * (growth - 1)) :=
          add_le_add rounded error
      _ = values.length * (bound * (growth * (1 + share) - 1)) := by ring

/-! ## Means -/

omit natural in
theorem abs_mean_sub_le {values : List K} {total growth : K} (nonempty : values ≠ [])
    (bounded : ∀ value ∈ values, |value| ≤ bound) (grows : 1 ≤ growth)
    (error : |total - values.sum| ≤ values.length * (bound * (growth - 1))) :
    |round (total / values.length) - values.sum / values.length| ≤
      bound * (growth * (1 + share) - 1) := by
  have count : (0 : K) < values.length := by
    exact_mod_cast List.length_pos_iff.mpr nonempty
  have mean : |values.sum / values.length| ≤ bound := by
    rw [abs_div, abs_of_pos count, div_le_iff₀ count, mul_comm]
    exact abs_sum_le_length_mul bounded
  have quotientError : |total / values.length - values.sum / values.length| ≤
      bound * (growth - 1) := by
    rw [← sub_div, abs_div, abs_of_pos count, div_le_iff₀ count, mul_comm]
    exact error
  have quotient : |total / values.length| ≤ bound * growth := by
    have split : total / values.length =
        (total / values.length - values.sum / values.length) + values.sum / values.length := by
      ring
    rw [split]
    calc |total / values.length - values.sum / values.length + values.sum / values.length| ≤ _ :=
          abs_add_le _ _
      _ ≤ bound * (growth - 1) + bound := add_le_add quotientError mean
      _ = bound * growth := by ring
  have rounded := within _ _ quotient (one_le_mul_of_one_le_of_one_le large grows)
  calc |round (total / values.length) - values.sum / values.length|
      ≤ |round (total / values.length) - total / values.length| +
          |total / values.length - values.sum / values.length| := abs_sub_le _ _ _
    _ ≤ bound * growth * share + bound * (growth - 1) := add_le_add rounded quotientError
    _ = bound * (growth * (1 + share) - 1) := by ring

theorem abs_mean_map_sub_le {values : List K} {total : K} (nonempty : values ≠ [])
    (bounded : ∀ value ∈ values, |value| ≤ bound)
    (added : total = roundedSum round (values.map round) ∨
      total = compensatedSum round (values.map round)) :
    |round (total / values.length) - values.sum / values.length| ≤
      bound * ((1 + share) ^ (5 * values.length + 3) - 1) := by
  have count : (0 : K) < values.length := by
    exact_mod_cast List.length_pos_iff.mpr nonempty
  have moved : ∀ value ∈ values, |round value - value| ≤ bound * share :=
    fun value member => within value bound (bounded value member) large
  have roundedLarge : 1 ≤ bound * (1 + share) :=
    one_le_mul_of_one_le_of_one_le large (by linarith)
  have roundedBounded : ∀ value ∈ values.map round, |value| ≤ bound * (1 + share) := by
    intro value member
    rcases List.mem_map.mp member with ⟨original, originalMember, rfl⟩
    have split : round original = (round original - original) + original := by ring
    rw [split]
    calc |round original - original + original| ≤ |round original - original| + |original| :=
          abs_add_le _ _
      _ ≤ bound * share + bound :=
          add_le_add (moved original originalMember) (bounded original originalMember)
      _ = bound * (1 + share) := by ring
  have grows : 1 ≤ ((1 + share) ^ 5) ^ values.length * (1 + share) := by
    rw [← pow_mul, ← pow_succ]
    exact one_le_growth natural _
  have error : |total - (values.map round).sum| ≤ (values.map round).length *
      (bound * (1 + share) * (((1 + share) ^ 5) ^ values.length * (1 + share) - 1)) := by
    rcases added with running | compensated
    · have power : (1 + share) ^ values.length ≤
          ((1 + share) ^ 5) ^ values.length * (1 + share) := by
        rw [← pow_mul, ← pow_succ]
        exact pow_le_pow_right₀ (by linarith) (by omega)
      have first := abs_roundedSum_sub_le within natural roundedLarge roundedBounded
      rw [List.length_map] at first ⊢
      rw [running]
      refine first.trans ?_
      gcongr
    · have first := abs_compensatedSum_sub_le within natural roundedLarge roundedBounded
      rw [List.length_map] at first ⊢
      rw [compensated]
      exact first
  have mapped : values.map round ≠ [] := List.map_eq_nil_iff.not.mpr nonempty
  have mean := abs_mean_sub_le within roundedLarge mapped roundedBounded grows error
  have shift : |(values.map round).sum / values.length - values.sum / values.length| ≤
      bound * share := by
    rw [← sub_div, abs_div, abs_of_pos count, div_le_iff₀ count, mul_comm]
    exact abs_sum_map_sub_le moved
  rw [List.length_map] at mean
  calc |round (total / values.length) - values.sum / values.length|
      ≤ |round (total / values.length) - (values.map round).sum / values.length| +
          |(values.map round).sum / values.length - values.sum / values.length| :=
        abs_sub_le _ _ _
    _ ≤ bound * (1 + share) *
          (((1 + share) ^ 5) ^ values.length * (1 + share) * (1 + share) - 1) + bound * share :=
        add_le_add mean shift
    _ = bound * ((1 + share) ^ (5 * values.length + 3) - 1) := by
        rw [pow_add, pow_mul]
        ring

end

end

/-! ## Doubles -/

theorem Binary64.nearest_roundsWithin : RoundsWithin (1 / 2 ^ 52) Binary64.nearest := by
  intro value bound bounded large
  have tiny : (1 : Rat) / 2 ^ 1075 ≤ 1 / 2 ^ 53 :=
    one_div_pow_le_one_div_pow_of_le (by norm_num) (by decide)
  calc |Binary64.nearest value - value| ≤ |value| / 2 ^ 53 + 1 / 2 ^ 1075 :=
        Binary64.abs_nearest_sub_le_relative value
    _ ≤ bound / 2 ^ 53 + bound / 2 ^ 53 := by
        refine add_le_add (div_le_div_of_nonneg_right bounded (by positivity)) (tiny.trans ?_)
        exact div_le_div_of_nonneg_right large (by positivity)
    _ = bound * (1 / 2 ^ 52) := by ring

/-- The running sum of these doubles is not their exact sum, the compensated one is. -/
example :
    let costs : List Rat := [1 / 10 ^ 6, 1 / 10 ^ 6, 3 / 10 ^ 6, 5 / 10 ^ 6]
    roundedSum Binary64.nearest (costs.map Binary64.nearest) < Binary64.nearest (1 / 10 ^ 5) ∧
      compensatedSum Binary64.nearest (costs.map Binary64.nearest) =
        Binary64.nearest (1 / 10 ^ 5) := by
  decide +kernel

end EvalForge.Foundation
