import EvalForge.Evaluators.Acceptance
import EvalForge.Evaluators.TokenOverlap

/-! # What an exact match compares

Answers are compared by their normal forms, which keep the ASCII letters and
digits of the lower-cased text and nothing else.
-/

namespace EvalForge

open Foundation

section

variable {lower : String → String}

theorem filter_normalizeText (value : String) :
    (normalizeText lower value).toList.filter isTokenChar =
      (lower value).toList.filter isTokenChar := by
  rw [toList_normalizeText, filter_intercalate_runs (by decide)]

theorem filter_eq_of_normalizeText_eq {left right : String}
    (same : normalizeText lower left = normalizeText lower right) :
    (lower left).toList.filter isTokenChar = (lower right).toList.filter isTokenChar := by
  rw [← filter_normalizeText left, same, filter_normalizeText]

theorem filter_isAlnum_eq {isAlnum : Char → Bool}
    (ascii : ∀ char, isTokenChar char = true → isAlnum char = true) {chars : List Char}
    (only : ∀ char ∈ chars, isAlnum char = true → isTokenChar char = true) :
    chars.filter isAlnum = chars.filter isTokenChar := by
  apply List.filter_congr
  intro char member
  rw [Bool.eq_iff_iff]
  exact ⟨only char member, ascii char⟩

variable {context : EvaluatorContext} {payload spec : Json} {output : AdapterOutput}

theorem normalizeText_eq_of_exactMatch {expected : Json} (present : expected ≠ .null)
    (held : payload.getAttribute "expected_output" .null = .ok expected)
    {result : EvaluationResult} (ran : context.exactMatch payload output spec = .ok result)
    (one : result.score = some 1) :
    normalizeText context.lower output.answer =
      normalizeText context.lower (context.text expected) := by
  by_contra different
  rw [EvaluatorContext.exactMatch, held] at ran
  cases expected with
  | null => exact present rfl
  | _ =>
      simp only [bind, Except.bind, different, decide_false] at ran
      cases ran
      cases one

end

/-- An answer that matches has the ASCII letters and digits of the expected
output, and its alphanumeric characters if these are ASCII in both texts. -/
theorem exact_match_keeps_ascii (context : EvaluatorContext)
    (textOfString : ∀ text, context.text (.str text) = text) (isAlnum : Char → Bool)
    (ascii : ∀ char, isTokenChar char = true → isAlnum char = true) (payload spec : Json)
    (output : AdapterOutput) (expected : String)
    (held : payload.getAttribute "expected_output" .null = .ok (.str expected))
    (result : EvaluationResult) (ran : context.exactMatch payload output spec = .ok result)
    (one : result.score = some 1) :
    (context.lower output.answer).toList.filter isTokenChar =
        (context.lower expected).toList.filter isTokenChar ∧
      ((∀ char ∈ (context.lower output.answer).toList ++ (context.lower expected).toList,
          isAlnum char = true → isTokenChar char = true) →
        (context.lower output.answer).toList.filter isAlnum =
          (context.lower expected).toList.filter isAlnum) := by
  have normal := normalizeText_eq_of_exactMatch (by simp) held ran one
  rw [textOfString] at normal
  have same := filter_eq_of_normalizeText_eq normal
  refine ⟨same, fun only => ?_⟩
  rw [filter_isAlnum_eq ascii fun char member => only char (List.mem_append_left _ member),
    filter_isAlnum_eq ascii fun char member => only char (List.mem_append_right _ member), same]

namespace Scenario

def answering (answer : String) : AdapterOutput := { plainOutput with answer }

def expecting (expected : String) : Json := .dict [("expected_output", .str expected)]

/-- `str.isalnum` on ASCII letters, digits and ideographs. -/
def isAlnum (char : Char) : Bool :=
  isTokenChar char || (decide ('A' ≤ char) && decide (char ≤ 'Z')) ||
    (decide (0x4E00 ≤ char.toNat) && decide (char.toNat ≤ 0x9FFF))

theorem isAlnum_of_tokenChar (char : Char) (token : isTokenChar char = true) :
    isAlnum char = true := by
  rw [isAlnum, token, Bool.true_or, Bool.true_or]

theorem exactMatch_expecting (answer expected : String) :
    plainContext.exactMatch (expecting expected) (answering answer) (.dict []) =
      .ok (scored "exact_match"
        (if decide (normalizeText plainContext.lower answer =
          normalizeText plainContext.lower expected) then 1 else 0)
        (decide (normalizeText plainContext.lower answer =
          normalizeText plainContext.lower expected)) [("expected", .str expected)]) := rfl

end Scenario

theorem exact_match_keeps_ascii_scenario :
    (Scenario.plainContext.lower "Use venv!").toList.filter Scenario.isAlnum =
      (Scenario.plainContext.lower "use VENV").toList.filter Scenario.isAlnum := by
  have normal : normalizeText Scenario.plainContext.lower "Use venv!" =
      normalizeText Scenario.plainContext.lower "use VENV" := by decide +kernel
  have matched := Scenario.exactMatch_expecting "Use venv!" "use VENV"
  rw [decide_eq_true normal] at matched
  have ascii : ((Scenario.plainContext.lower "Use venv!").toList ++
      (Scenario.plainContext.lower "use VENV").toList).all (fun char =>
        !Scenario.isAlnum char || isTokenChar char) = true := by decide +kernel
  refine (exact_match_keeps_ascii Scenario.plainContext (fun _ => rfl) Scenario.isAlnum
    Scenario.isAlnum_of_tokenChar (Scenario.expecting "use VENV") (.dict [])
    (Scenario.answering "Use venv!") "use VENV" rfl _ matched rfl).2 ?_
  intro char member alphanumeric
  have kept := List.all_eq_true.mp ascii char member
  rw [alphanumeric] at kept
  exact kept

/-- Two words of two ideographs each match, as nothing of them is compared. -/
theorem exact_match_ignores_ideographs :
    ∃ result, Scenario.plainContext.exactMatch (Scenario.expecting "再见")
        (Scenario.answering "你好") (.dict []) = .ok result ∧ result.score = some 1 ∧
      (Scenario.plainContext.lower "你好").toList.filter Scenario.isAlnum ≠
        (Scenario.plainContext.lower "再见").toList.filter Scenario.isAlnum := by
  have normal : normalizeText Scenario.plainContext.lower "你好" =
      normalizeText Scenario.plainContext.lower "再见" := by decide +kernel
  have matched := Scenario.exactMatch_expecting "你好" "再见"
  rw [decide_eq_true normal] at matched
  exact ⟨_, matched, rfl, by decide +kernel⟩

end EvalForge
