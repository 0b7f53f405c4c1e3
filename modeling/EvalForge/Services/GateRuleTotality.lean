import EvalForge.Services.GateRuleValidation

/-! # How the validation of gate rules ends

Rules are validated in order. A list or a dictionary as a direction, and an
integer that no float holds as a tolerance, end the validation with an
exception that is no `ValueError`.
-/

namespace EvalForge

structure GateRuleValid (floats : FloatConversion) (name : String) (rule : Json) : Prop where
  metric : (Metric.named name).isSome = true
  isDict : rule.isDict = true
  direction : ∃ direction : Direction, rule.get "direction" .null = .str direction.text
  tolerance : ∃ value, floats.convert (rule.get "tolerance" .null) = .finite value ∧ 0 ≤ value

inductive Json.Unhashable : Json → Prop
  | list (items : List Json) : Unhashable (.list items)
  | dict (fields : List (String × Json)) : Unhashable (.dict fields)

/-- The rule of a metric with a direction that has no hash, or with a valid
direction and an integer that is no float. -/
structure GateRuleEscapes (floats : FloatConversion) (name : String) (rule : Json) : Prop where
  metric : (Metric.named name).isSome = true
  isDict : rule.isDict = true
  fault : (rule.get "direction" .null).Unhashable ∨
    (∃ direction : Direction, rule.get "direction" .null = .str direction.text) ∧
      floats.convert (rule.get "tolerance" .null) = .overflows

/-- The first rule that is not accepted is one that escapes. -/
def RulesEscape (floats : FloatConversion) (fields : List (String × Json)) : Prop :=
  ∃ before field after, fields = before ++ field :: after ∧
    (∀ other ∈ before, GateRuleValid floats other.1 other.2) ∧
    GateRuleEscapes floats field.1 field.2

inductive RuleOutcome (floats : FloatConversion) (name : String) (rule : Json) :
    Except ValidationError GateRule → Prop
  | accepted (validated : GateRule) (named : validated.metric.text = name)
      (valid : GateRuleValid floats name rule) (kept : ¬GateRuleEscapes floats name rule) :
      RuleOutcome floats name rule (.ok validated)
  | refused (message : String) (invalid : ¬GateRuleValid floats name rule)
      (kept : ¬GateRuleEscapes floats name rule) :
      RuleOutcome floats name rule (.error (.valueError message))
  | escaped (escapes : GateRuleEscapes floats name rule) :
      RuleOutcome floats name rule (.error .uncaught)

structure NormalizesRules (floats : FloatConversion) (text : Json → String)
    (fields : List (String × Json)) (validated : GateRules) : Prop where
  metrics : validated.entries.map (·.metric.text) = fields.map (·.1)
  each : List.Forall₂ (fun field rule => validateGateRule floats text field.1 field.2 = .ok rule)
    fields validated.entries
  again : validateGateRules floats text validated.toJson = .ok validated

/-- The validation raises `ValueError`, or returns normal rules that are accepted
again and unchanged. -/
def ValidatesTotally (floats : FloatConversion) (text : Json → String)
    (fields : List (String × Json)) : Prop :=
  (∃ message, validateGateRules floats text (.dict fields) = .error (.valueError message)) ∨
    ∃ validated, validateGateRules floats text (.dict fields) = .ok validated ∧
      NormalizesRules floats text fields validated

section

variable {floats : FloatConversion} {text : Json → String} {name : String} {rule : Json}

/-! ## One rule -/

theorem Metric.text_of_named {metric : Metric} (found : Metric.named name = some metric) :
    metric.text = name := by
  have matched := List.find?_some found
  simpa using matched

theorem validateDirection_cases (text : Json → String) (metric : String) (direction : Json) :
    (∃ valid : Direction, direction = .str valid.text ∧
        validateDirection text metric direction = .ok valid) ∨
      (direction.Unhashable ∧ validateDirection text metric direction = .error .uncaught) ∨
      (¬direction.Unhashable ∧ (∀ valid : Direction, direction ≠ .str valid.text) ∧
        ∃ message, validateDirection text metric direction = .error (.valueError message)) := by
  unfold validateDirection
  split
  · exact .inr (.inl ⟨.list _, rfl⟩)
  · exact .inr (.inl ⟨.dict _, rfl⟩)
  · exact .inl ⟨.higherBetter, rfl, rfl⟩
  · exact .inl ⟨.lowerBetter, rfl, rfl⟩
  · next notList notDict notHigher notLower =>
    refine .inr (.inr ⟨?_, ?_, _, rfl⟩)
    · rintro (items | fields)
      · exact notList items rfl
      · exact notDict fields rfl
    · intro valid same
      cases valid with
      | higherBetter => exact notHigher same
      | lowerBetter => exact notLower same

theorem validateTolerance_cases (floats : FloatConversion) (metric : String) (tolerance : Json) :
    (∃ value, floats.convert tolerance = .finite value.val ∧
        validateTolerance floats metric tolerance = .ok value) ∨
      (floats.convert tolerance = .overflows ∧
        validateTolerance floats metric tolerance = .error .uncaught) ∨
      (floats.convert tolerance ≠ .overflows ∧
        (∀ value, floats.convert tolerance = .finite value → ¬0 ≤ value) ∧
        ∃ message, validateTolerance floats metric tolerance = .error (.valueError message)) := by
  unfold validateTolerance
  cases floats.convert tolerance with
  | notConvertible => exact .inr (.inr ⟨nofun, nofun, _, rfl⟩)
  | overflows => exact .inr (.inl ⟨rfl, rfl⟩)
  | notFinite => exact .inr (.inr ⟨nofun, nofun, _, rfl⟩)
  | finite value =>
      by_cases nonneg : 0 ≤ value
      · exact .inl ⟨⟨value, nonneg⟩, rfl, dif_pos nonneg⟩
      · refine .inr (.inr ⟨nofun, ?_, _, dif_neg nonneg⟩)
        rintro other ⟨⟩
        exact nonneg

theorem GateRuleValid.kept (valid : GateRuleValid floats name rule) :
    ¬GateRuleEscapes floats name rule := by
  rintro ⟨_, _, unhashable | ⟨_, overflows⟩⟩
  · rcases valid.direction with ⟨direction, held⟩
    rw [held] at unhashable
    cases unhashable
  · rcases valid.tolerance with ⟨value, converted, _⟩
    cases converted.symm.trans overflows

theorem validateGateRule_outcome (floats : FloatConversion) (text : Json → String) (name : String)
    (rule : Json) :
    RuleOutcome floats name rule (validateGateRule floats text name rule) := by
  unfold validateGateRule
  cases found : Metric.named name with
  | none =>
      have unknown : ¬(Metric.named name).isSome = true := by simp [found]
      exact .refused _ (fun valid => unknown valid.metric) fun escapes => unknown escapes.metric
  | some metric =>
      have known : (Metric.named name).isSome = true := by rw [found, Option.isSome_some]
      dsimp only
      split
      · next notDict =>
        have noDict : ¬rule.isDict = true := by simpa using notDict
        exact .refused _ (fun valid => noDict valid.isDict) fun escapes => noDict escapes.isDict
      · next isDict =>
        have dict : rule.isDict = true := by simpa using isDict
        rcases validateDirection_cases text name (rule.get "direction" .null) with
          ⟨direction, held, ran⟩ | ⟨unhashable, ran⟩ | ⟨hashable, invalid, message, ran⟩
        · rw [ran]
          have notUnhashable : ¬(rule.get "direction" .null).Unhashable := by
            rw [held]
            nofun
          rcases validateTolerance_cases floats name (rule.get "tolerance" .null) with
            ⟨tolerance, converted, ran⟩ | ⟨overflows, ran⟩ | ⟨noOverflow, negative, message, ran⟩
          · rw [ran]
            have valid : GateRuleValid floats name rule :=
              ⟨known, dict, ⟨direction, held⟩, tolerance, converted, tolerance.property⟩
            exact .accepted _ (Metric.text_of_named found) valid valid.kept
          · rw [ran]
            exact .escaped ⟨known, dict, .inr ⟨⟨direction, held⟩, overflows⟩⟩
          · rw [ran]
            refine .refused message ?_ ?_
            · intro valid
              rcases valid.tolerance with ⟨value, converted, nonneg⟩
              exact negative value converted nonneg
            · intro escapes
              exact escapes.fault.elim notUnhashable fun fault => noOverflow fault.2
        · rw [ran]
          exact .escaped ⟨known, dict, .inl unhashable⟩
        · rw [ran]
          refine .refused message ?_ ?_
          · intro valid
            rcases valid.direction with ⟨direction, held⟩
            exact invalid direction held
          · intro escapes
            refine escapes.fault.elim hashable fun fault => ?_
            rcases fault.1 with ⟨direction, held⟩
            exact invalid direction held

/-! ## All rules -/

variable {field : String × Json} {fields : List (String × Json)}

theorem not_rulesEscape_nil : ¬RulesEscape floats [] := by
  rintro ⟨before, field, after, same, _⟩
  cases before <;> cases same

theorem rulesEscape_cons_iff :
    RulesEscape floats (field :: fields) ↔
      GateRuleEscapes floats field.1 field.2 ∨
        GateRuleValid floats field.1 field.2 ∧ RulesEscape floats fields := by
  constructor
  · rintro ⟨before, escaping, after, same, valid, escapes⟩
    cases before with
    | nil =>
        cases same
        exact .inl escapes
    | cons first before =>
        cases same
        refine .inr ⟨valid field List.mem_cons_self, before, escaping, after, rfl, ?_, escapes⟩
        exact fun other member => valid other (List.mem_cons_of_mem _ member)
  · rintro (escapes | ⟨valid, before, escaping, after, rfl, others, escapes⟩)
    · exact ⟨[], field, fields, rfl, nofun, escapes⟩
    · refine ⟨field :: before, escaping, after, rfl, ?_, escapes⟩
      intro other member
      rcases List.mem_cons.mp member with rfl | member
      · exact valid
      · exact others other member

inductive RulesOutcome (floats : FloatConversion) (text : Json → String) (seen : List GateRule)
    (fields : List (String × Json)) : Except ValidationError GateRules → Prop
  | accepted (validated : GateRules) (kept : ¬RulesEscape floats fields) (rest : List GateRule)
      (entries : validated.entries = seen ++ rest)
      (each : List.Forall₂
        (fun field rule => validateGateRule floats text field.1 field.2 = .ok rule) fields rest) :
      RulesOutcome floats text seen fields (.ok validated)
  | refused (message : String) (kept : ¬RulesEscape floats fields) :
      RulesOutcome floats text seen fields (.error (.valueError message))
  | escaped (escapes : RulesEscape floats fields) :
      RulesOutcome floats text seen fields (.error .uncaught)

theorem metric_text_of_ok {validated : GateRule}
    (ran : validateGateRule floats text name rule = .ok validated) :
    validated.metric.text = name := by
  have outcome := validateGateRule_outcome floats text name rule
  rw [ran] at outcome
  cases outcome with
  | accepted _ named _ _ => exact named

theorem RulesOutcome.cons {seen : List GateRule}
    {next : GateRule → Except ValidationError GateRules}
    (rest : ∀ validated, validateGateRule floats text field.1 field.2 = .ok validated →
      RulesOutcome floats text (seen ++ [validated]) fields (next validated)) :
    RulesOutcome floats text seen (field :: fields)
      (validateGateRule floats text field.1 field.2 >>= next) := by
  have outcome := validateGateRule_outcome floats text field.1 field.2
  cases ran : validateGateRule floats text field.1 field.2 with
  | error error =>
      rw [ran] at outcome
      cases outcome with
      | refused message invalid kept =>
          refine .refused message ?_
          rw [rulesEscape_cons_iff]
          exact fun escapes => escapes.elim kept fun rest => invalid rest.1
      | escaped escapes => exact .escaped (rulesEscape_cons_iff.mpr (.inl escapes))
  | ok validated =>
      rw [ran] at outcome
      cases outcome with
      | accepted _ _ valid kept =>
          have escape_iff : RulesEscape floats (field :: fields) ↔ RulesEscape floats fields := by
            rw [rulesEscape_cons_iff, or_iff_right kept, and_iff_right valid]
          have outcomeOfRest := rest validated ran
          change RulesOutcome floats text seen (field :: fields) (next validated)
          generalize next validated = final at outcomeOfRest ⊢
          cases outcomeOfRest with
          | accepted result noEscape others entries each =>
              refine .accepted result (escape_iff.not.mpr noEscape) (validated :: others) ?_
                (.cons ran each)
              rw [entries, List.append_assoc, List.singleton_append]
          | refused message noEscape => exact .refused message (escape_iff.not.mpr noEscape)
          | escaped escapes => exact .escaped (escape_iff.mpr escapes)

theorem validateFurtherRules_outcome (seen : GateRules)
    (distinct : (seen.entries.map (·.metric.text) ++ fields.map (·.1)).Nodup) :
    RulesOutcome floats text seen.entries fields
      (validateFurtherRules floats text seen fields) := by
  induction fields generalizing seen with
  | nil => exact .accepted seen not_rulesEscape_nil [] (List.append_nil _).symm .nil
  | cons field fields induction =>
      apply RulesOutcome.cons
      intro validated ran
      have named := metric_text_of_ok ran
      have fresh : validated.metric ∉ seen.entries.map (·.metric) := by
        intro member
        rcases List.mem_map.mp member with ⟨other, otherMember, same⟩
        apply (List.nodup_append.mp distinct).2.2 other.metric.text
          (List.mem_map_of_mem otherMember) field.1 List.mem_cons_self
        rw [same, named]
      have entries : (seen.set validated).entries = seen.entries ++ [validated] :=
        setGateRule_append fresh
      rw [← entries]
      apply induction
      rw [entries, List.map_append, List.map_singleton, named, List.append_assoc]
      exact distinct

theorem validateGateRules_outcome (distinct : (fields.map (·.1)).Nodup) :
    RulesOutcome floats text [] fields (validateGateRules floats text (.dict fields)) := by
  cases fields with
  | nil => exact .refused _ not_rulesEscape_nil
  | cons field fields =>
      apply RulesOutcome.cons
      intro validated ran
      apply validateFurtherRules_outcome (.only validated)
      have named := metric_text_of_ok ran
      simp only [GateRules.only, List.map_singleton, named]
      exact distinct

end

/-- The validation of an object of rules raises `ValueError` or normalises exactly
if the first rule that is not accepted does not escape. -/
theorem gate_rules_validate_iff (floats : FloatConversion) (text : Json → String)
    (fields : List (String × Json)) (distinct : (fields.map (·.1)).Nodup) :
    ValidatesTotally floats text fields ↔ ¬RulesEscape floats fields := by
  have outcome := @validateGateRules_outcome floats text fields distinct
  unfold ValidatesTotally
  generalize validateGateRules floats text (.dict fields) = result at outcome ⊢
  cases outcome with
  | accepted validated kept rest entries each =>
      rw [List.nil_append] at entries
      subst entries
      refine iff_of_true (.inr ⟨validated, rfl, ?_, each, validateGateRules_toJson _ _ _⟩) kept
      rw [← List.forall₂_eq_eq_eq, List.forall₂_map_left_iff, List.forall₂_map_right_iff]
      exact each.flip.imp fun _ _ ran => metric_text_of_ok ran
  | refused message kept => exact iff_of_true (.inl ⟨message, rfl⟩) kept
  | escaped escapes =>
      refine iff_of_false ?_ (not_not.mpr escapes)
      rintro (⟨message, same⟩ | ⟨validated, same, _⟩)
      · cases same
      · cases same

namespace Scenario

def noTexts : FloatConversion where
  ofText _ := .notConvertible
  ofInt value := .finite value

def ruleFields (direction tolerance : Json) : List (String × Json) :=
  [("pass_rate", .dict [("direction", direction), ("tolerance", tolerance)])]

end Scenario

theorem gate_rules_validate_iff_scenario :
    ValidatesTotally Scenario.noTexts (fun _ => "")
      (Scenario.ruleFields (.str "higher_better") (.int 0)) := by
  apply (gate_rules_validate_iff _ _ _ (by decide)).mpr
  rintro ⟨before, field, after, same, _, escapes⟩
  cases before with
  | nil =>
      cases same
      rcases escapes.fault with unhashable | ⟨_, overflows⟩
      · cases unhashable
      · cases overflows
  | cons first before =>
      cases before <;> cases same

/-- A list as a direction ends the validation with an exception of its own. -/
theorem list_direction_escapes :
    ¬∀ (floats : FloatConversion) (text : Json → String) (fields : List (String × Json)),
      (fields.map (·.1)).Nodup → ValidatesTotally floats text fields := by
  intro total
  rcases total Scenario.noTexts (fun _ => "") (Scenario.ruleFields (.list []) (.int 0))
    (by decide) with ⟨message, same⟩ | ⟨validated, same, _⟩
  · cases same
  · cases same

end EvalForge
