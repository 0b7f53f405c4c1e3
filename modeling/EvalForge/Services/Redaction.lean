import EvalForge.Services.RunExecutor

/-! # What redaction keeps

The walk cuts every path at its first sensitive key and keeps everything else,
so two values are redacted alike exactly when they differ only below such keys.
-/

namespace EvalForge

inductive JsonStep
  | key (name : String)
  | index (position : Nat)

def JsonStep.isSensitive : JsonStep → Bool
  | key name => isSensitiveKey name
  | index _ => false

namespace Json

def child : Json → JsonStep → Option Json
  | .dict fields, .key name => fields.lookup name
  | .list items, .index position => items[position]?
  | _, _ => none

def at? (value : Json) : List JsonStep → Option Json
  | [] => some value
  | step :: path => (value.child step).bind fun inner => inner.at? path

def isLeaf : Json → Bool
  | .list _ | .dict _ => false
  | _ => true

/-- The same leaf, or a list of the same length, or a dictionary with the same
keys in the same order. -/
inductive SameShape : Json → Json → Prop
  | leaf (value : Json) (isLeaf : value.isLeaf = true) : SameShape value value
  | list (items others : List Json) (sameLength : items.length = others.length) :
      SameShape (.list items) (.list others)
  | dict (fields others : List (String × Json)) (sameKeys : fields.map (·.1) = others.map (·.1)) :
      SameShape (.dict fields) (.dict others)

end Json

/-- The one value that stands for everything under a sensitive key. -/
def redactedMarker : Json := .str "[REDACTED]"

def Insensitive (path : List JsonStep) : Prop := ∀ step ∈ path, step.isSensitive = false

/-- Outside sensitive keys the shape and the leaves are kept, and under a
sensitive key there is the marker. -/
structure RedactsExactly (value redacted : Json) : Prop where
  kept : ∀ path, Insensitive path → Option.Rel Json.SameShape (value.at? path) (redacted.at? path)
  marked : ∀ path step, Insensitive path → step.isSensitive = true →
    redacted.at? (path ++ [step]) = (value.at? (path ++ [step])).map fun _ => redactedMarker

mutual
def SameOutsideSensitive : Json → Json → Prop
  | .dict fields, .dict others => SameFieldsOutsideSensitive fields others
  | .list items, .list others => SameItemsOutsideSensitive items others
  | value, other => value = other

def SameFieldsOutsideSensitive : List (String × Json) → List (String × Json) → Prop
  | [], [] => True
  | (key, value) :: fields, (otherKey, other) :: others =>
      key = otherKey ∧ (isSensitiveKey key = false → SameOutsideSensitive value other) ∧
        SameFieldsOutsideSensitive fields others
  | _, _ => False

def SameItemsOutsideSensitive : List Json → List Json → Prop
  | [], [] => True
  | item :: items, other :: others =>
      SameOutsideSensitive item other ∧ SameItemsOutsideSensitive items others
  | _, _ => False
end

/-! ## Along a path -/

def redactField (field : String × Json) : String × Json :=
  (field.1, if isSensitiveKey field.1 then redactedMarker else redactSensitiveConfig field.2)

theorem redactFields_eq_map (fields : List (String × Json)) :
    redactFields fields = fields.map redactField := by
  induction fields with
  | nil => rfl
  | cons field fields induction =>
      rw [redactFields, induction, List.map_cons, redactField, redactedMarker]

theorem redactItems_eq_map (items : List Json) :
    redactItems items = items.map redactSensitiveConfig := by
  induction items with
  | nil => rfl
  | cons item items induction => rw [redactItems, induction, List.map_cons]

theorem lookup_redactFields (fields : List (String × Json)) (name : String) :
    (redactFields fields).lookup name = (fields.lookup name).map fun value =>
      if isSensitiveKey name then redactedMarker else redactSensitiveConfig value := by
  induction fields with
  | nil => rfl
  | cons field fields induction =>
      rcases field with ⟨key, value⟩
      rw [redactFields, List.lookup_cons, List.lookup_cons]
      cases same : name == key with
      | true =>
          rw [beq_iff_eq.mp same]
          rfl
      | false => exact induction

theorem child_redact (value : Json) (step : JsonStep) :
    (redactSensitiveConfig value).child step = (value.child step).map fun inner =>
      if step.isSensitive then redactedMarker else redactSensitiveConfig inner := by
  cases value with
  | dict fields =>
      cases step with
      | key name => exact lookup_redactFields fields name
      | index position => rfl
  | list items =>
      cases step with
      | key name => rfl
      | index position =>
          rw [redactSensitiveConfig, redactItems_eq_map]
          exact List.getElem?_map
  | _ => rfl

theorem at?_redact {path : List JsonStep} (insensitive : Insensitive path) (value : Json) :
    (redactSensitiveConfig value).at? path = (value.at? path).map redactSensitiveConfig := by
  induction path generalizing value with
  | nil => rfl
  | cons step path induction =>
      have kept := insensitive step List.mem_cons_self
      have rest : Insensitive path :=
        fun other member => insensitive other (List.mem_cons_of_mem _ member)
      rw [Json.at?, Json.at?, child_redact, kept]
      cases value.child step with
      | none => rfl
      | some inner => exact induction rest inner

theorem at?_append (value : Json) (path rest : List JsonStep) :
    value.at? (path ++ rest) = (value.at? path).bind fun inner => inner.at? rest := by
  induction path generalizing value with
  | nil => rfl
  | cons step path induction =>
      rw [List.cons_append, Json.at?, Json.at?, Option.bind_assoc]
      congr 1
      funext inner
      exact induction inner

theorem sameShape_redact (value : Json) : value.SameShape (redactSensitiveConfig value) := by
  cases value with
  | dict fields =>
      rw [redactSensitiveConfig, redactFields_eq_map]
      apply Json.SameShape.dict
      rw [List.map_map]
      rfl
  | list items =>
      rw [redactSensitiveConfig, redactItems_eq_map]
      exact .list _ _ (List.length_map _).symm
  | _ => exact .leaf _ rfl

theorem redactsExactly (value : Json) : RedactsExactly value (redactSensitiveConfig value) := by
  constructor
  · intro path insensitive
    rw [at?_redact insensitive]
    cases value.at? path with
    | none => exact .none
    | some inner => exact .some (sameShape_redact inner)
  · intro path step insensitive sensitive
    rw [at?_append, at?_append, at?_redact insensitive]
    cases value.at? path with
    | none => rfl
    | some inner =>
        have marked := child_redact inner step
        rw [sensitive] at marked
        simp only [Option.map_some, Option.bind_some, Json.at?, marked, if_true]
        cases inner.child step with
        | none => rfl
        | some below => rfl

/-! ## Twice -/

mutual
theorem redact_idempotent : ∀ value,
    redactSensitiveConfig (redactSensitiveConfig value) = redactSensitiveConfig value
  | .dict fields => by
      rw [redactSensitiveConfig, redactSensitiveConfig, redactFields_idempotent fields]
  | .list items => by
      rw [redactSensitiveConfig, redactSensitiveConfig, redactItems_idempotent items]
  | .null | .bool _ | .int _ | .float _ | .str _ => rfl

theorem redactFields_idempotent : ∀ fields, redactFields (redactFields fields) = redactFields fields
  | [] => rfl
  | (key, value) :: fields => by
      rw [redactFields, redactFields, redactFields_idempotent fields]
      cases isSensitiveKey key with
      | true => rfl
      | false =>
          simp only [Bool.false_eq_true, if_false]
          rw [redact_idempotent value]

theorem redactItems_idempotent : ∀ items, redactItems (redactItems items) = redactItems items
  | [] => rfl
  | item :: items => by
      rw [redactItems, redactItems, redact_idempotent item, redactItems_idempotent items]
end

/-! ## Two values -/

mutual
theorem redact_eq_iff : ∀ value other,
    redactSensitiveConfig value = redactSensitiveConfig other ↔ SameOutsideSensitive value other
  | .dict fields, other => by
      cases other with
      | dict others =>
          rw [redactSensitiveConfig, redactSensitiveConfig, SameOutsideSensitive, Json.dict.injEq]
          exact redactFields_eq_iff fields others
      | _ => simp [redactSensitiveConfig, SameOutsideSensitive]
  | .list items, other => by
      cases other with
      | list others =>
          rw [redactSensitiveConfig, redactSensitiveConfig, SameOutsideSensitive, Json.list.injEq]
          exact redactItems_eq_iff items others
      | _ => simp [redactSensitiveConfig, SameOutsideSensitive]
  | .null, other | .bool _, other | .int _, other | .float _, other | .str _, other => by
      cases other <;> simp [redactSensitiveConfig, SameOutsideSensitive]

theorem redactFields_eq_iff : ∀ fields others,
    redactFields fields = redactFields others ↔ SameFieldsOutsideSensitive fields others
  | [], [] => by simp [SameFieldsOutsideSensitive]
  | (key, value) :: fields, (otherKey, other) :: others => by
      rw [redactFields, redactFields, SameFieldsOutsideSensitive, List.cons.injEq, Prod.mk.injEq,
        redactFields_eq_iff fields others, and_assoc]
      apply and_congr_right
      rintro rfl
      apply and_congr_left'
      cases isSensitiveKey key with
      | true => simp
      | false =>
          simp only [Bool.false_eq_true, if_false, forall_const]
          exact redact_eq_iff value other
  | [], (_, _) :: _ => by simp [redactFields, SameFieldsOutsideSensitive]
  | (_, _) :: _, [] => by simp [redactFields, SameFieldsOutsideSensitive]

theorem redactItems_eq_iff : ∀ items others,
    redactItems items = redactItems others ↔ SameItemsOutsideSensitive items others
  | [], [] => by simp [SameItemsOutsideSensitive]
  | item :: items, other :: others => by
      rw [redactItems, redactItems, SameItemsOutsideSensitive, List.cons.injEq,
        redact_eq_iff item other, redactItems_eq_iff items others]
  | [], _ :: _ => by simp [redactItems, SameItemsOutsideSensitive]
  | _ :: _, [] => by simp [redactItems, SameItemsOutsideSensitive]
end

/-- The redaction keeps everything outside sensitive keys and nothing under them,
once and for all, and it tells two values apart exactly if they differ outside
such keys. -/
theorem redact_sensitive_config_projects (value : Json) :
    RedactsExactly value (redactSensitiveConfig value) ∧
      redactSensitiveConfig (redactSensitiveConfig value) = redactSensitiveConfig value ∧
      ∀ other, redactSensitiveConfig value = redactSensitiveConfig other ↔
        SameOutsideSensitive value other :=
  ⟨redactsExactly value, redact_idempotent value, redact_eq_iff value⟩

end EvalForge
