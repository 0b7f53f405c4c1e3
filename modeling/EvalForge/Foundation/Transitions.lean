import Mathlib.Data.List.Basic

/-! # Runs of a labelled step function

A system is a partial step function: an action is disabled in a state, or it
leads to exactly one next state. This file gives its runs, the properties that
hold at every step of a run, and the induction rules that carry an invariant
along. It is independent of what the states and actions are.
-/

namespace EvalForge.Foundation

variable {State : Type u} {Action : Type v}

/-- The actions are enabled one after the other and lead from the first state
to the last. -/
inductive Transitions (step : State → Action → Option State) :
    State → List Action → State → Prop
  | nil (state) : Transitions step state [] state
  | cons {current middle final action actions} :
      step current action = some middle →
      Transitions step middle actions final →
      Transitions step current (action :: actions) final

/-- Execute a list of actions, stopping at the first disabled one. -/
def run (step : State → Action → Option State) : State → List Action → Option State
  | current, [] => some current
  | current, action :: actions =>
      (step current action).bind fun next => run step next actions

theorem run_eq_some_iff {step : State → Action → Option State} {current final : State}
    {actions : List Action} :
    run step current actions = some final ↔ Transitions step current actions final := by
  induction actions generalizing current with
  | nil =>
      constructor
      · intro finished
        cases finished
        exact .nil _
      · intro transitions
        cases transitions
        rfl
  | cons action actions induction =>
      constructor
      · intro finished
        rcases Option.bind_eq_some_iff.mp finished with ⟨next, stepped, rest⟩
        exact .cons stepped (induction.mp rest)
      · intro transitions
        cases transitions with
        | cons stepped rest =>
            exact Option.bind_eq_some_iff.mpr ⟨_, stepped, induction.mpr rest⟩

/-- `Property` holds of every step that the run takes: of the state before the
step, its action and the state after it. -/
def Along (step : State → Action → Option State)
    (Property : State → Action → State → Prop) : State → List Action → Prop
  | _, [] => True
  | current, action :: actions =>
      ∀ next, step current action = some next →
        Property current action next ∧ Along step Property next actions

instance decidableAlong (step : State → Action → Option State)
    (Property : State → Action → State → Prop)
    [∀ current action next, Decidable (Property current action next)] :
    ∀ initial actions, Decidable (Along step Property initial actions)
  | _, [] => isTrue trivial
  | initial, action :: actions =>
      match stepped : step initial action with
      | none => isTrue fun next reached => by simp [stepped] at reached
      | some middle =>
          have := decidableAlong step Property middle actions
          decidable_of_iff (Property initial action middle ∧ Along step Property middle actions)
            ⟨fun holds next reached => by
              cases stepped.symm.trans reached
              exact holds, fun along => along middle stepped⟩

section Rules

variable {step : State → Action → Option State}
variable {Property Consequence : State → Action → State → Prop}
variable (Invariant : State → Prop)

/-- The run rule: what one step gives, and keeps, holds along the whole run. -/
theorem Along.of_invariant
    (preserves : ∀ current action next, Invariant current →
      step current action = some next → Property current action next →
      Invariant next ∧ Consequence current action next)
    {initial : State} {actions : List Action} (holds : Invariant initial)
    (along : Along step Property initial actions) :
    Along step Consequence initial actions := by
  induction actions generalizing initial with
  | nil => trivial
  | cons action actions induction =>
      intro next stepped
      rcases along next stepped with ⟨property, rest⟩
      rcases preserves initial action next holds stepped property with
        ⟨nextHolds, consequence⟩
      exact ⟨consequence, induction nextHolds rest⟩

theorem Along.and {initial : State} {actions : List Action}
    (left : Along step Property initial actions)
    (right : Along step Consequence initial actions) :
    Along step (fun current action next =>
      Property current action next ∧ Consequence current action next) initial actions := by
  induction actions generalizing initial with
  | nil => trivial
  | cons action actions induction =>
      intro next stepped
      rcases left next stepped with ⟨property, leftRest⟩
      rcases right next stepped with ⟨consequence, rightRest⟩
      exact ⟨⟨property, consequence⟩, induction leftRest rightRest⟩

/-- Two step properties that agree wherever the invariant holds, and of which
the first keeps it, hold along the same runs. The steps may be assumed to meet
a background condition. -/
theorem along_iff_of_background {Background : State → Action → State → Prop}
    (preserves : ∀ current action next, Invariant current →
      step current action = some next → Background current action next →
      Property current action next → Invariant next)
    (agree : ∀ current action next, Invariant current →
      step current action = some next → Background current action next →
      (Property current action next ↔ Consequence current action next))
    {initial : State} (holds : Invariant initial) {actions : List Action}
    (background : Along step Background initial actions) :
    Along step Property initial actions ↔ Along step Consequence initial actions := by
  constructor
  · intro along
    refine Along.of_invariant Invariant ?_ holds (background.and along)
    intro current action next invariant stepped both
    exact ⟨preserves current action next invariant stepped both.1 both.2,
      (agree current action next invariant stepped both.1).mp both.2⟩
  · intro along
    refine Along.of_invariant Invariant ?_ holds (background.and along)
    intro current action next invariant stepped both
    have property := (agree current action next invariant stepped both.1).mpr both.2
    exact ⟨preserves current action next invariant stepped both.1 property, property⟩

theorem Along.of_forall
    (always : ∀ current action next, step current action = some next →
      Property current action next) (initial : State) (actions : List Action) :
    Along step Property initial actions := by
  induction actions generalizing initial with
  | nil => trivial
  | cons action actions induction =>
      intro next stepped
      exact ⟨always initial action next stepped, induction next⟩

theorem Along.of_actions {initial : State} {actions : List Action}
    (always : ∀ action ∈ actions, ∀ current next, Property current action next) :
    Along step Property initial actions := by
  induction actions generalizing initial with
  | nil => trivial
  | cons action actions induction =>
      intro next _
      refine ⟨always action List.mem_cons_self initial next, induction ?_⟩
      exact fun other member => always other (List.mem_cons_of_mem _ member)

theorem along_true (initial : State) (actions : List Action) :
    Along step (fun _ _ _ => True) initial actions :=
  Along.of_forall (fun _ _ _ _ => trivial) initial actions

theorem along_iff_of_invariant
    (preserves : ∀ current action next, Invariant current →
      step current action = some next → Property current action next → Invariant next)
    (agree : ∀ current action next, Invariant current →
      step current action = some next →
      (Property current action next ↔ Consequence current action next))
    {initial : State} (holds : Invariant initial) (actions : List Action) :
    Along step Property initial actions ↔ Along step Consequence initial actions :=
  along_iff_of_background Invariant
    (fun current action next invariant stepped _ =>
      preserves current action next invariant stepped)
    (fun current action next invariant stepped _ =>
      agree current action next invariant stepped) holds
    (along_true initial actions)

/-- An invariant of the steps of a run holds in the state the run ends in. -/
theorem Transitions.invariant
    (preserves : ∀ current action next, Invariant current →
      step current action = some next → Property current action next → Invariant next)
    {initial final : State} {actions : List Action}
    (transitions : Transitions step initial actions final) (holds : Invariant initial)
    (along : Along step Property initial actions) : Invariant final := by
  induction transitions with
  | nil => exact holds
  | @cons current middle final action actions stepped _ induction =>
      rcases along middle stepped with ⟨property, rest⟩
      exact induction (preserves current action middle holds stepped property) rest

/-- What every step preserves, a run preserves. -/
theorem run_invariant
    (preserves : ∀ current action next, Invariant current →
      step current action = some next → Invariant next)
    {initial final : State} {actions : List Action}
    (ran : run step initial actions = some final) (holds : Invariant initial) :
    Invariant final :=
  Transitions.invariant Invariant
    (fun current action next invariant stepped _ =>
      preserves current action next invariant stepped)
    (run_eq_some_iff.mp ran) holds (along_true initial actions)

theorem run_trans {initial middle final : State} {first second : List Action}
    (before : run step initial first = some middle) (after : run step middle second = some final) :
    run step initial (first ++ second) = some final := by
  induction first generalizing initial with
  | nil =>
      cases before
      exact after
  | cons action actions induction =>
      rcases Option.bind_eq_some_iff.mp before with ⟨next, stepped, rest⟩
      exact Option.bind_eq_some_iff.mpr ⟨next, stepped, induction rest⟩

theorem run_append (actions : List Action) (action : Action) (initial : State) :
    run step initial (actions ++ [action]) =
      (run step initial actions).bind fun middle => step middle action := by
  induction actions generalizing initial with
  | nil => simp [run]
  | cons first actions induction =>
      simp only [List.cons_append, run]
      cases step initial first with
      | none => rfl
      | some next => exact induction next

theorem along_append_iff {initial middle : State} {first second : List Action}
    (reached : run step initial first = some middle) :
    Along step Property initial (first ++ second) ↔
      Along step Property initial first ∧ Along step Property middle second := by
  induction first generalizing initial with
  | nil =>
      cases reached
      exact ⟨fun along => ⟨trivial, along⟩, And.right⟩
  | cons action actions induction =>
      rcases Option.bind_eq_some_iff.mp reached with ⟨next, stepped, rest⟩
      constructor
      · intro along
        rcases along next stepped with ⟨property, restAlong⟩
        rcases (induction rest).mp restAlong with ⟨before, after⟩
        refine ⟨fun other otherStepped => ?_, after⟩
        cases stepped.symm.trans otherStepped
        exact ⟨property, before⟩
      · rintro ⟨before, after⟩ other otherStepped
        cases stepped.symm.trans otherStepped
        rcases before next stepped with ⟨property, restAlong⟩
        exact ⟨property, (induction rest).mpr ⟨restAlong, after⟩⟩

theorem Along.last {initial next : State} {actions : List Action} {action : Action}
    (along : Along step Property initial (actions ++ [action]))
    (reached : run step initial (actions ++ [action]) = some next) :
    ∃ middle, run step initial actions = some middle ∧
      Property middle action next := by
  rw [run_append] at reached
  rcases Option.bind_eq_some_iff.mp reached with ⟨middle, before, stepped⟩
  refine ⟨middle, before, ?_⟩
  have transitions := run_eq_some_iff.mp before
  clear before reached
  induction transitions with
  | nil => exact (along next stepped).1
  | cons first _ induction => exact induction (along _ first).2 stepped

end Rules

/-! ## The actions before an action -/

theorem exists_split_cons_iff {Before At : Action → Prop} {count limit : Nat}
    {first : Action} {rest : List Action} :
    (∃ before action after, first :: rest = before ++ action :: after ∧
        (∀ other ∈ before, Before other) ∧ count + before.length ≤ limit ∧ At action) ↔
      (count ≤ limit ∧ At first) ∨
        Before first ∧ ∃ before action after, rest = before ++ action :: after ∧
          (∀ other ∈ before, Before other) ∧ count + 1 + before.length ≤ limit ∧
            At action := by
  constructor
  · rintro ⟨before, action, after, split, each, bound, holds⟩
    cases before with
    | nil =>
        rcases List.cons.inj split with ⟨rfl, rfl⟩
        exact .inl ⟨bound, holds⟩
    | cons other before =>
        rcases List.cons.inj split with ⟨rfl, rfl⟩
        rcases List.forall_mem_cons.mp each with ⟨head, tail⟩
        rw [List.length_cons] at bound
        exact .inr ⟨head, before, action, after, rfl, tail, by omega, holds⟩
  · rintro (⟨bound, holds⟩ | ⟨head, before, action, after, rfl, tail, bound, holds⟩)
    · exact ⟨[], first, rest, rfl, by simp, bound, holds⟩
    · refine ⟨first :: before, action, after, rfl, ?_, ?_, holds⟩
      · exact List.forall_mem_cons.mpr ⟨head, tail⟩
      · rw [List.length_cons]
        omega

end EvalForge.Foundation
