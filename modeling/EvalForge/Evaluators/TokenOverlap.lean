import EvalForge.Evaluators.Text
import EvalForge.Foundation.Words
import Mathlib.Tactic.FieldSimp
import Mathlib.Tactic.Linarith
import Mathlib.Tactic.Ring

/-! # The token overlap

`token_f1` is the Dice coefficient of the two token sets, and the normal form of
a text has the tokens of the text.
-/

namespace EvalForge

open Foundation

def isNormalChar (char : Char) : Bool := isTokenChar char || char == ' '

/-- `str.lower` keeps texts of lower-case letters, digits and blanks. -/
def FixesNormalText (lower : String → String) : Prop :=
  ∀ text : String, (∀ char ∈ text.toList, isNormalChar char = true) → lower text = text

section

variable (lower : String → String)

def tokenSet (value : String) : Finset String := (tokenize lower value).toFinset

/-! ## Tokens -/

theorem tokenize_eq_runs (value : String) :
    tokenize lower value = (runs isTokenChar (lower value).toList).map String.ofList := rfl

theorem toList_normalizeText (value : String) :
    (normalizeText lower value).toList =
      [' '].intercalate (runs isTokenChar (lower value).toList) := by
  rw [normalizeText, String.toList_intercalate, tokenize_eq_runs, List.map_map]
  congr 1
  exact List.map_id'' (fun run => String.toList_ofList) _

theorem normalizeText_isNormal (value : String) :
    ∀ char ∈ (normalizeText lower value).toList, isNormalChar char = true := by
  intro char member
  rw [toList_normalizeText] at member
  rcases mem_intercalate member with blank | ⟨run, runMember, charMember⟩
  · subst blank
    rfl
  · rw [isNormalChar, runs_kept runMember char charMember, Bool.true_or]

variable {lower}

theorem tokenize_normalizeText (fixes : FixesNormalText lower) (value : String) :
    tokenize lower (normalizeText lower value) = tokenize lower value := by
  rw [tokenize_eq_runs, fixes _ (normalizeText_isNormal lower value), toList_normalizeText,
    runs_intercalate_runs (by decide), tokenize_eq_runs]

theorem normalizeText_idempotent (fixes : FixesNormalText lower) (value : String) :
    normalizeText lower (normalizeText lower value) = normalizeText lower value := by
  rw [normalizeText, tokenize_normalizeText fixes, normalizeText]

theorem tokenF1_congr {left right otherLeft otherRight : String}
    (sameLeft : tokenize lower left = tokenize lower otherLeft)
    (sameRight : tokenize lower right = tokenize lower otherRight) :
    tokenF1 lower left right = tokenF1 lower otherLeft otherRight := by
  simp only [tokenF1, sameLeft, sameRight]

variable (lower)

/-! ## The Dice coefficient -/

theorem tokenSet_eq_empty_iff (value : String) :
    tokenSet lower value = ∅ ↔ (tokenize lower value).isEmpty = true := by
  rw [tokenSet, List.toFinset_eq_empty_iff, List.isEmpty_iff]

theorem harmonic_eq {overlap left right : Rat} (someOverlap : overlap ≠ 0) (someLeft : left ≠ 0)
    (someRight : right ≠ 0) (sum : left + right ≠ 0) :
    2 * (overlap / left) * (overlap / right) / (overlap / left + overlap / right) =
      2 * overlap / (left + right) := by
  have common : overlap / left + overlap / right = overlap * (left + right) / (left * right) := by
    field_simp
    ring
  rw [common]
  field_simp

theorem tokenF1_eq_dice {left right : String} (someLeft : tokenSet lower left ≠ ∅)
    (someRight : tokenSet lower right ≠ ∅) :
    tokenF1 lower left right =
      2 * ((tokenSet lower left ∩ tokenSet lower right).card : Rat) /
        ((tokenSet lower left).card + (tokenSet lower right).card) := by
  have leftTokens : (tokenize lower left).isEmpty = false := by
    simpa [tokenSet_eq_empty_iff] using someLeft
  have rightTokens : (tokenize lower right).isEmpty = false := by
    simpa [tokenSet_eq_empty_iff] using someRight
  have leftPos : (0 : Rat) < (tokenSet lower left).card := by
    exact_mod_cast Finset.card_pos.mpr (Finset.nonempty_iff_ne_empty.mpr someLeft)
  have rightPos : (0 : Rat) < (tokenSet lower right).card := by
    exact_mod_cast Finset.card_pos.mpr (Finset.nonempty_iff_ne_empty.mpr someRight)
  simp only [tokenF1, leftTokens, rightTokens, Bool.or_self, Bool.false_or, decide_eq_true_eq]
  change (if (tokenSet lower left ∩ tokenSet lower right).card = 0 then (0 : Rat) else _) = _
  split
  · next disjoint => simp [disjoint]
  · next overlapping =>
    have someOverlap : ((tokenSet lower left ∩ tokenSet lower right).card : Rat) ≠ 0 := by
      exact_mod_cast overlapping
    exact harmonic_eq someOverlap leftPos.ne' rightPos.ne' (add_pos leftPos rightPos).ne'

theorem tokenF1_of_empty {left right : String}
    (empty : tokenSet lower left = ∅ ∨ tokenSet lower right = ∅) :
    tokenF1 lower left right = 0 := by
  rw [tokenSet_eq_empty_iff, tokenSet_eq_empty_iff] at empty
  have guarded : ((tokenize lower left).isEmpty || (tokenize lower right).isEmpty) = true := by
    simpa using empty
  simp only [tokenF1, guarded, Bool.true_or, if_true]

theorem tokenF1_comm (left right : String) :
    tokenF1 lower left right = tokenF1 lower right left := by
  by_cases empty : tokenSet lower left = ∅ ∨ tokenSet lower right = ∅
  · rw [tokenF1_of_empty lower empty, tokenF1_of_empty lower empty.symm]
  · rw [not_or] at empty
    rw [tokenF1_eq_dice lower empty.1 empty.2, tokenF1_eq_dice lower empty.2 empty.1,
      Finset.inter_comm, add_comm]

theorem two_mul_card_inter_le (left right : Finset String) :
    2 * (left ∩ right).card ≤ left.card + right.card := by
  have first : (left ∩ right).card ≤ left.card := Finset.card_le_card Finset.inter_subset_left
  have second : (left ∩ right).card ≤ right.card := Finset.card_le_card Finset.inter_subset_right
  omega

theorem two_mul_card_inter_eq_iff (left right : Finset String) :
    2 * (left ∩ right).card = left.card + right.card ↔ left = right := by
  constructor
  · intro equal
    have first : (left ∩ right).card ≤ left.card := Finset.card_le_card Finset.inter_subset_left
    have second : (left ∩ right).card ≤ right.card :=
      Finset.card_le_card Finset.inter_subset_right
    have isLeft : left ∩ right = left :=
      Finset.eq_of_subset_of_card_le Finset.inter_subset_left (by omega)
    have isRight : left ∩ right = right :=
      Finset.eq_of_subset_of_card_le Finset.inter_subset_right (by omega)
    exact isLeft.symm.trans isRight
  · rintro rfl
    rw [Finset.inter_self, two_mul]

theorem tokenF1_le_one (left right : String) : tokenF1 lower left right ≤ 1 := by
  by_cases empty : tokenSet lower left = ∅ ∨ tokenSet lower right = ∅
  · rw [tokenF1_of_empty lower empty]
    exact zero_le_one
  · rw [not_or] at empty
    have bound : 2 * ((tokenSet lower left ∩ tokenSet lower right).card : Rat) ≤
        (tokenSet lower left).card + (tokenSet lower right).card := by
      exact_mod_cast two_mul_card_inter_le (tokenSet lower left) (tokenSet lower right)
    rw [tokenF1_eq_dice lower empty.1 empty.2]
    exact div_le_one_of_le₀ bound (by positivity)

theorem tokenF1_eq_one_iff (left right : String) :
    tokenF1 lower left right = 1 ↔
      tokenSet lower left = tokenSet lower right ∧ tokenSet lower left ≠ ∅ := by
  by_cases empty : tokenSet lower left = ∅ ∨ tokenSet lower right = ∅
  · rw [tokenF1_of_empty lower empty]
    constructor
    · intro impossible
      cases impossible
    · rintro ⟨same, nonempty⟩
      rcases empty with leftEmpty | rightEmpty
      · exact absurd leftEmpty nonempty
      · exact absurd (same.trans rightEmpty) nonempty
  · rw [not_or] at empty
    have leftPos : (0 : Rat) < (tokenSet lower left).card := by
      exact_mod_cast Finset.card_pos.mpr (Finset.nonempty_iff_ne_empty.mpr empty.1)
    have sum : ((tokenSet lower left).card + (tokenSet lower right).card : Rat) ≠ 0 := by
      positivity
    rw [tokenF1_eq_dice lower empty.1 empty.2, div_eq_one_iff_eq sum,
      ← two_mul_card_inter_eq_iff]
    constructor
    · exact fun equal => ⟨by exact_mod_cast equal, empty.1⟩
    · exact fun equal => by exact_mod_cast equal.1

end

/-- The token overlap is the Dice coefficient of the token sets, and normal forms
keep the tokens. -/
theorem token_f1_is_dice (lower : String → String) (fixes : FixesNormalText lower) :
    (∀ left right, tokenF1 lower left right =
      if tokenSet lower left ≠ ∅ ∧ tokenSet lower right ≠ ∅ then
        2 * ((tokenSet lower left ∩ tokenSet lower right).card : Rat) /
          ((tokenSet lower left).card + (tokenSet lower right).card)
      else 0) ∧
    (∀ left right, tokenF1 lower left right = tokenF1 lower right left) ∧
    (∀ left right, 0 ≤ tokenF1 lower left right ∧ tokenF1 lower left right ≤ 1) ∧
    (∀ left right, tokenF1 lower left right = 1 ↔
      tokenSet lower left = tokenSet lower right ∧ tokenSet lower left ≠ ∅) ∧
    (∀ left right,
      tokenF1 lower (normalizeText lower left) right = tokenF1 lower left right ∧
        tokenF1 lower left (normalizeText lower right) = tokenF1 lower left right) ∧
    ∀ value, normalizeText lower (normalizeText lower value) = normalizeText lower value := by
  refine ⟨?_, tokenF1_comm lower, ?_, tokenF1_eq_one_iff lower, ?_, normalizeText_idempotent fixes⟩
  · intro left right
    split
    · next nonempty => exact tokenF1_eq_dice lower nonempty.1 nonempty.2
    · next empty =>
      apply tokenF1_of_empty
      by_contra nonempty
      rw [not_or] at nonempty
      exact empty nonempty
  · exact fun left right => ⟨tokenF1_nonneg lower left right, tokenF1_le_one lower left right⟩
  · intro left right
    exact ⟨tokenF1_congr (tokenize_normalizeText fixes left) rfl,
      tokenF1_congr rfl (tokenize_normalizeText fixes right)⟩

namespace Scenario

def lowerText (text : String) : String := String.ofList (PythonText.lower text)

theorem lowerChar_of_normal {char : Char} (normal : isNormalChar char = true) :
    PythonText.lowerChar char = [char] := by
  have noUpper : ¬('A'.val ≤ char.val ∧ char.val ≤ 'Z'.val) := by
    rintro ⟨atLeast, atMost⟩
    simp only [isNormalChar, isTokenChar, Bool.or_eq_true, Bool.and_eq_true, decide_eq_true_eq,
      beq_iff_eq] at normal
    rcases normal with (⟨letter, _⟩ | ⟨_, digit⟩) | blank
    · exact absurd (UInt32.le_trans letter atMost) (by decide)
    · exact absurd (UInt32.le_trans atLeast digit) (by decide)
    · subst blank
      exact absurd atLeast (by decide)
  have notKelvin : char ≠ Char.ofNat 0x212A := by
    rintro rfl
    exact absurd normal (by decide)
  have notDotted : char ≠ Char.ofNat 0x130 := by
    rintro rfl
    exact absurd normal (by decide)
  rw [PythonText.lowerChar, if_neg notKelvin, if_neg notDotted]
  exact congrArg (fun lowered => [lowered]) (dif_neg noUpper)

theorem lowerText_fixes : FixesNormalText lowerText := by
  intro text normal
  have kept : text.toList.flatMap PythonText.lowerChar = text.toList.flatMap fun char => [char] :=
    List.flatMap_congr fun char member => lowerChar_of_normal (normal char member)
  rw [lowerText, PythonText.lower, kept, List.flatMap_singleton', String.ofList_toList]

end Scenario

theorem token_f1_is_dice_scenario :
    tokenF1 Scenario.lowerText "Hello, world!" "Hello there" = 1 / 2 ∧
      tokenF1 Scenario.lowerText (normalizeText Scenario.lowerText "Hello, world!") "Hello there" =
        1 / 2 := by
  rcases token_f1_is_dice Scenario.lowerText Scenario.lowerText_fixes with
    ⟨dice, _, _, _, kept, _⟩
  have value : tokenF1 Scenario.lowerText "Hello, world!" "Hello there" = 1 / 2 := by
    rw [dice]
    decide +kernel
  exact ⟨value, (kept _ _).1.trans value⟩

end EvalForge
