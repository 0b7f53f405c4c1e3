import EvalForge.Foundation.Rounding

/-! # Column types

What the columns of the run tables keep of a value. PostgreSQL refuses integers
and numerics that are out of range, texts that are too long and the character
NUL, and it rounds numerics to their scale, with ties going away from zero.
-/

namespace EvalForge.Column

open Foundation

/-- `Integer`. -/
def HoldsInteger (value : Int) : Prop := -2 ^ 31 ≤ value ∧ value < 2 ^ 31

instance : DecidablePred HoldsInteger := fun value =>
  inferInstanceAs (Decidable (-2 ^ 31 ≤ value ∧ value < 2 ^ 31))

/-- What `Numeric(10, 6)` keeps of a value that it holds. -/
def numeric (value : Rat) : Rat := roundHalfAway (value * 10 ^ 6) / 10 ^ 6

/-- `Numeric(10, 6)` has four digits before the point. -/
def HoldsNumeric (value : Rat) : Prop := |numeric value| < 10 ^ 4

instance : DecidablePred HoldsNumeric := fun value =>
  inferInstanceAs (Decidable (|numeric value| < 10 ^ 4))

/-- The values of a `Numeric(10, 6)`. -/
structure IsNumeric (value : Rat) : Prop where
  decimal : HasDecimals 6 value
  bounded : |value| < 10 ^ 4

/-- `Text`. -/
def HoldsText (text : String) : Prop := ∀ char ∈ text.toList, char.toNat ≠ 0

instance : DecidablePred HoldsText := fun text =>
  List.decidableBAll (fun char : Char => char.toNat ≠ 0) text.toList

/-- `String(limit)`. -/
def HoldsString (limit : Nat) (text : String) : Prop := HoldsText text ∧ text.length ≤ limit

instance (limit : Nat) : DecidablePred (HoldsString limit) := fun text =>
  inferInstanceAs (Decidable (HoldsText text ∧ text.length ≤ limit))

/-! ## NULL -/

theorem holdsInteger_of_none : ∀ value ∈ (none : Option Int), HoldsInteger value := by simp

theorem isNumeric_of_none : ∀ value ∈ (none : Option Rat), IsNumeric value := by simp

theorem holdsText_of_none : ∀ text ∈ (none : Option String), HoldsText text := by simp

/-! ## Numerics -/

section Numeric

variable {value : Rat}

theorem hasDecimals_numeric (value : Rat) : HasDecimals 6 (numeric value) := ⟨_, rfl⟩

theorem isNumeric_numeric (holds : HoldsNumeric value) : IsNumeric (numeric value) :=
  ⟨hasDecimals_numeric value, holds⟩

@[simp] theorem isNumeric_zero : IsNumeric 0 := ⟨hasDecimals_zero, by norm_num⟩

@[simp] theorem isNumeric_one : IsNumeric 1 := ⟨hasDecimals_one, by norm_num⟩

theorem numeric_nonneg (nonnegative : 0 ≤ value) : 0 ≤ numeric value := by
  have units : 0 ≤ roundHalfAway (value * 10 ^ 6) := roundHalfAway_nonneg (by positivity)
  have scaled : (0 : Rat) ≤ roundHalfAway (value * 10 ^ 6) := by exact_mod_cast units
  exact div_nonneg scaled (by positivity)

theorem holdsNumeric_of_le_one (nonnegative : 0 ≤ value) (atMostOne : value ≤ 1) :
    HoldsNumeric value := by
  have units : roundHalfAway (value * 10 ^ 6) ≤ 10 ^ 6 :=
    roundHalfAway_le (by positivity) (by push_cast; linarith)
  have scaled : (roundHalfAway (value * 10 ^ 6) : Rat) ≤ 10 ^ 6 := by exact_mod_cast units
  have kept : numeric value ≤ 1 := (div_le_one (by positivity)).mpr scaled
  rw [HoldsNumeric, abs_of_nonneg (numeric_nonneg nonnegative)]
  linarith

end Numeric

/-- Two thirds, a tie and a value that is too large. -/
example : numeric (2 / 3) = 666667 / 10 ^ 6 ∧ numeric (1 / (2 * 10 ^ 6)) = 1 / 10 ^ 6 ∧
    ¬HoldsNumeric 20002 := by
  decide +kernel

end EvalForge.Column
