import EvalForge.Services.Comparison

/-! # Validation of gate rules

`validate_gate_rules` on stored and on supplied JSON. What `float` makes of a
text or an integer is a parameter.
-/

namespace EvalForge

inductive FloatResult
  | notConvertible
  | overflows
  | notFinite
  | finite (value : Rat)

/-- `float` on texts and on integers. From Python 3.12 on `sum` compensates for what
the additions of floats lose. -/
structure FloatConversion where
  ofText : String → FloatResult
  ofInt : Int → FloatResult
  compensates : Bool := false

def FloatConversion.convert (floats : FloatConversion) : Json → FloatResult
  | .bool value => .finite (if value then 1 else 0)
  | .int value => floats.ofInt value
  | .float value => .finite value
  | .str text => floats.ofText text
  | .null | .list _ | .dict _ => .notConvertible

/-- A `ValueError` with its message, or an exception that no caller catches. -/
inductive ValidationError
  | valueError (message : String)
  | uncaught

namespace Metric

def all : List Metric := [passRate, semanticSimilarity, p95LatencyMs, costMeanUsd]

def named (name : String) : Option Metric := all.find? fun metric => metric.text == name

end Metric

def Direction.text : Direction → String
  | higherBetter => "higher_better"
  | lowerBetter => "lower_better"

/-- `direction in VALID_GATE_DIRECTIONS`; a list or a dictionary has no hash. -/
def validateDirection (text : Json → String) (metric : String) (direction : Json) :
    Except ValidationError Direction :=
  match direction with
  | .list _ | .dict _ => .error .uncaught
  | .str "higher_better" => .ok .higherBetter
  | .str "lower_better" => .ok .lowerBetter
  | other =>
      let shown := text other
      .error (.valueError s!"Invalid direction for {metric}: {shown}")

def validateTolerance (floats : FloatConversion) (metric : String) (tolerance : Json) :
    Except ValidationError { value : Rat // 0 ≤ value } :=
  match floats.convert tolerance with
  | .notConvertible => .error (.valueError s!"Invalid tolerance for {metric}")
  | .overflows => .error .uncaught
  | .notFinite =>
      .error (.valueError s!"Tolerance for {metric} must be a finite non-negative number")
  | .finite value =>
      if nonneg : 0 ≤ value then .ok ⟨value, nonneg⟩
      else .error (.valueError s!"Tolerance for {metric} must be a finite non-negative number")

/-- The body of the loop of `validate_gate_rules`. -/
def validateGateRule (floats : FloatConversion) (text : Json → String) (name : String)
    (rule : Json) : Except ValidationError GateRule :=
  match Metric.named name with
  | none => .error (.valueError s!"Unsupported gate metric: {name}")
  | some metric =>
      if !rule.isDict then .error (.valueError s!"Gate rule for {name} must be an object")
      else do
        let direction ← validateDirection text name (rule.get "direction" .null)
        let tolerance ← validateTolerance floats name (rule.get "tolerance" .null)
        return {
          metric, direction, tolerance := tolerance.val, tolerance_nonneg := tolerance.property }

/-! ## Dictionaries of rules -/

/-- `validated[metric] = rule`. -/
def setGateRule (rule : GateRule) : List GateRule → List GateRule
  | [] => [rule]
  | other :: rules =>
      if other.metric = rule.metric then rule :: rules else other :: setGateRule rule rules

theorem mem_setGateRule_metric {rule : GateRule} {rules : List GateRule} {metric : Metric} :
    metric ∈ (setGateRule rule rules).map (·.metric) ↔
      metric = rule.metric ∨ metric ∈ rules.map (·.metric) := by
  induction rules with
  | nil => simp [setGateRule]
  | cons other rules induction =>
      unfold setGateRule
      split
      · next same => simp [same]
      · rw [List.map_cons, List.mem_cons, induction, List.map_cons, List.mem_cons]
        exact or_left_comm

theorem nodup_setGateRule {rule : GateRule} {rules : List GateRule}
    (nodup : (rules.map (·.metric)).Nodup) :
    ((setGateRule rule rules).map (·.metric)).Nodup := by
  induction rules with
  | nil => simp [setGateRule]
  | cons other rules induction =>
      rcases List.nodup_cons.mp nodup with ⟨fresh, restNodup⟩
      unfold setGateRule
      split
      · next same =>
          rw [List.map_cons, ← same]
          exact List.nodup_cons.mpr ⟨fresh, restNodup⟩
      · next different =>
          rw [List.map_cons]
          refine List.nodup_cons.mpr ⟨?_, induction restNodup⟩
          intro member
          rcases mem_setGateRule_metric.mp member with equal | listed
          · exact different equal
          · exact fresh listed

theorem setGateRule_ne_nil (rule : GateRule) (rules : List GateRule) :
    setGateRule rule rules ≠ [] := by
  cases rules with
  | nil => simp [setGateRule]
  | cons other rules =>
      unfold setGateRule
      split <;> simp

namespace GateRules

def set (rules : GateRules) (rule : GateRule) : GateRules where
  entries := setGateRule rule rules.entries
  nonempty := setGateRule_ne_nil rule rules.entries
  nodup := nodup_setGateRule rules.nodup

def toJson (rules : GateRules) : Json :=
  .dict (rules.entries.map fun rule =>
    (rule.metric.text, .dict [
      ("direction", .str rule.direction.text), ("tolerance", .float rule.tolerance)]))

end GateRules

def validateFurtherRules (floats : FloatConversion) (text : Json → String) (rules : GateRules) :
    List (String × Json) → Except ValidationError GateRules
  | [] => .ok rules
  | (name, value) :: fields => do
      let rule ← validateGateRule floats text name value
      validateFurtherRules floats text (rules.set rule) fields

def validateGateRules (floats : FloatConversion) (text : Json → String) :
    Json → Except ValidationError GateRules
  | .dict ((name, value) :: fields) => do
      let rule ← validateGateRule floats text name value
      validateFurtherRules floats text (.only rule) fields
  | _ => .error (.valueError "Gate rules must contain at least one metric")

/-! ## Stored rules -/

theorem Metric.named_text (metric : Metric) : Metric.named metric.text = some metric := by
  cases metric <;> decide

theorem validateDirection_text (text : Json → String) (metric : String) (direction : Direction) :
    validateDirection text metric (.str direction.text) = .ok direction := by
  cases direction <;> rfl

theorem validateGateRule_stored (floats : FloatConversion) (text : Json → String)
    (rule : GateRule) :
    validateGateRule floats text rule.metric.text (.dict [
      ("direction", .str rule.direction.text), ("tolerance", .float rule.tolerance)]) =
      .ok rule := by
  unfold validateGateRule
  rw [Metric.named_text]
  have direction : Json.get (.dict [("direction", .str rule.direction.text),
      ("tolerance", .float rule.tolerance)]) "direction" .null = .str rule.direction.text := rfl
  have tolerance : Json.get (.dict [("direction", .str rule.direction.text),
      ("tolerance", .float rule.tolerance)]) "tolerance" .null = .float rule.tolerance := rfl
  simp only [Json.isDict, Bool.not_true, Bool.false_eq_true, if_false, direction, tolerance,
    validateDirection_text, validateTolerance, FloatConversion.convert]
  rw [dif_pos rule.tolerance_nonneg]
  rfl

theorem setGateRule_append {rule : GateRule} {rules : List GateRule}
    (fresh : rule.metric ∉ rules.map (·.metric)) : setGateRule rule rules = rules ++ [rule] := by
  induction rules with
  | nil => rfl
  | cons other rules induction =>
      simp only [List.map_cons, List.mem_cons, not_or] at fresh
      rw [setGateRule, if_neg (Ne.symm fresh.1), induction fresh.2, List.cons_append]

theorem validateGateRules_toJson (floats : FloatConversion) (text : Json → String)
    (rules : GateRules) : validateGateRules floats text rules.toJson = .ok rules := by
  have further : ∀ (rest : List GateRule) (seen : GateRules),
      ((seen.entries ++ rest).map (·.metric)).Nodup →
      ∃ result, validateFurtherRules floats text seen (rest.map fun rule =>
        (rule.metric.text, Json.dict [("direction", .str rule.direction.text),
          ("tolerance", .float rule.tolerance)])) = .ok result ∧
        result.entries = seen.entries ++ rest := by
    intro rest
    induction rest with
    | nil => exact fun seen _ => ⟨seen, rfl, by simp⟩
    | cons rule rest induction =>
        intro seen nodup
        have fresh : rule.metric ∉ seen.entries.map (·.metric) := by
          intro member
          rw [List.map_append, List.map_cons] at nodup
          exact (List.nodup_append.mp nodup).2.2 _ member _ List.mem_cons_self rfl
        have entries : (seen.set rule).entries = seen.entries ++ [rule] :=
          setGateRule_append fresh
        rcases induction (seen.set rule) (by simpa [entries] using nodup) with
          ⟨result, validated, all⟩
        refine ⟨result, ?_, by simp [all, entries]⟩
        simp only [List.map_cons, validateFurtherRules, validateGateRule_stored]
        exact validated
  rcases rules with ⟨entries, nonempty, nodup⟩
  cases entries with
  | nil => exact absurd rfl nonempty
  | cons rule rest =>
      rcases further rest (.only rule) (by simpa [GateRules.only] using nodup) with
        ⟨result, validated, all⟩
      simp only [GateRules.toJson, List.map_cons, validateGateRules, validateGateRule_stored]
      refine validated.trans ?_
      cases result with
      | mk resultEntries resultNonempty resultNodup =>
          simp only [GateRules.only, List.singleton_append] at all
          cases all
          rfl

end EvalForge
