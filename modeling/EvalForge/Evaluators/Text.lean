import EvalForge.Foundation.Json
import Mathlib.Data.Finset.Lattice.Basic
import Mathlib.Data.Finset.Card
import Mathlib.Data.Rat.Defs
import Mathlib.Tactic.Positivity

/-! # Tokens of a text

`str.lower` is a parameter: it is exact on all of Unicode only in Python. -/

namespace EvalForge

/-- A character of `TOKEN_PATTERN`. -/
def isTokenChar (char : Char) : Bool :=
  (decide ('a' ≤ char) && decide (char ≤ 'z')) || (decide ('0' ≤ char) && decide (char ≤ '9'))

section

variable (lower : String → String)

/-- The longest runs of token characters. -/
def tokenize (value : String) : List String :=
  (((lower value).toList.splitOnP fun char => !isTokenChar char).filter
    fun token => !token.isEmpty).map String.ofList

def normalizeText (value : String) : String := " ".intercalate (tokenize lower value)

def tokenF1 (left right : String) : Rat :=
  let leftSet := (tokenize lower left).toFinset
  let rightSet := (tokenize lower right).toFinset
  let overlap := (leftSet ∩ rightSet).card
  if (tokenize lower left).isEmpty || (tokenize lower right).isEmpty || overlap = 0 then 0
  else
    let precision : Rat := overlap / leftSet.card
    let «recall» : Rat := overlap / rightSet.card
    2 * precision * «recall» / (precision + «recall»)

theorem tokenF1_nonneg (left right : String) : 0 ≤ tokenF1 lower left right := by
  simp only [tokenF1]
  split
  · exact le_refl 0
  · positivity

end

example : tokenize id "python, venv-3!" = ["python", "venv", "3"] := by decide +kernel

end EvalForge
