import EvalForge.Foundation.OrderStatistics
import Mathlib.Algebra.Order.Floor.Ring

/-! # Interpolated sequences

A sequence is extended to the ranks between its positions. The extension of an
ascending sequence is ascending, also where the whole part of the rank jumps.
-/

namespace EvalForge.Foundation

section

variable {K : Type u} [Field K] [LinearOrder K] [IsStrictOrderedRing K]
variable {weight heavier lower upper : K}

theorem le_interpolate (nonnegative : 0 ≤ weight)
    (order : lower ≤ upper) : lower ≤ interpolate weight lower upper := by
  have raised := mul_nonneg nonnegative (sub_nonneg.mpr order)
  unfold interpolate
  linarith

theorem interpolate_le_upper (atMostOne : weight ≤ 1)
    (order : lower ≤ upper) : interpolate weight lower upper ≤ upper := by
  have lowered := mul_nonneg (sub_nonneg.mpr atMostOne) (sub_nonneg.mpr order)
  unfold interpolate
  linarith

theorem interpolate_mono_weight (heavy : weight ≤ heavier) (order : lower ≤ upper) :
    interpolate weight lower upper ≤ interpolate heavier lower upper := by
  have raised := mul_nonneg (sub_nonneg.mpr heavy) (sub_nonneg.mpr order)
  unfold interpolate
  linarith

variable [FloorRing K] {sequence : Nat → K} {rank later : K}

def interpolated (sequence : Nat → K) (rank : K) : K :=
  interpolate (Int.fract rank) (sequence ⌊rank⌋.toNat) (sequence (⌊rank⌋.toNat + 1))

@[simp] theorem interpolated_natCast (sequence : Nat → K) (position : Nat) :
    interpolated sequence (position : K) = sequence position := by
  simp [interpolated, interpolate]

theorem le_interpolated (ascending : Monotone sequence) (rank : K) :
    sequence ⌊rank⌋.toNat ≤ interpolated sequence rank :=
  le_interpolate (Int.fract_nonneg rank) (ascending (Nat.le_succ _))

theorem interpolated_le (ascending : Monotone sequence) (rank : K) :
    interpolated sequence rank ≤ sequence (⌊rank⌋.toNat + 1) :=
  interpolate_le_upper (Int.fract_lt_one rank).le (ascending (Nat.le_succ _))

theorem interpolated_mono (ascending : Monotone sequence) (nonnegative : 0 ≤ rank)
    (order : rank ≤ later) : interpolated sequence rank ≤ interpolated sequence later := by
  have floors : ⌊rank⌋ ≤ ⌊later⌋ := Int.floor_mono order
  have floorNonneg : 0 ≤ ⌊rank⌋ := Int.floor_nonneg.mpr nonnegative
  rcases floors.eq_or_lt with same | jumps
  · have fractions : Int.fract rank ≤ Int.fract later := by
      rw [Int.fract, Int.fract, same]
      exact sub_le_sub_right order _
    unfold interpolated
    rw [same]
    exact interpolate_mono_weight fractions (ascending (Nat.le_succ _))
  · calc interpolated sequence rank ≤ sequence (⌊rank⌋.toNat + 1) := interpolated_le ascending rank
      _ ≤ sequence ⌊later⌋.toNat := ascending (by omega)
      _ ≤ interpolated sequence later := le_interpolated ascending later

end

end EvalForge.Foundation
