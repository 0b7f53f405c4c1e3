import Mathlib.Data.List.Basic

/-! # What a fallible computation returns

Partial correctness of computations that may fail: the results they return, if
they return any. -/

namespace EvalForge.Foundation

variable {ε : Type u} {α : Type v} {β : Type v}

def Returns (Property : α → Prop) (computation : Except ε α) : Prop :=
  ∀ result, computation = .ok result → Property result

namespace Returns

variable {Property : β → Prop}

theorem pure {result : β} (holds : Property result) :
    Returns Property (Pure.pure result : Except ε β) := by
  intro returned same
  cases same
  exact holds

theorem error (exc : ε) : Returns Property (.error exc : Except ε β) := by
  intro returned same
  cases same

theorem bind {first : Except ε α} {next : α → Except ε β}
    (each : ∀ value, Returns Property (next value)) : Returns Property (first >>= next) := by
  intro result returned
  cases first with
  | error exc => cases returned
  | ok value => exact each value result returned

theorem bind_ok {first : Except ε α} {next : α → Except ε β}
    (each : ∀ value, first = .ok value → Returns Property (next value)) :
    Returns Property (first >>= next) := by
  intro result returned
  cases first with
  | error exc => cases returned
  | ok value => exact each value rfl result returned

theorem imp {Weaker : β → Prop} {computation : Except ε β} (returns : Returns Property computation)
    (implies : ∀ result, Property result → Weaker result) : Returns Weaker computation :=
  fun result returned => implies result (returns result returned)

end Returns

section Related

variable {γ : Type w} {Related : α → β → Prop} {lefts : List α} {rights : List β}

theorem forall₂_exists_left (related : List.Forall₂ Related lefts rights) :
    ∀ right ∈ rights, ∃ left ∈ lefts, Related left right := by
  induction related with
  | nil => simp
  | cons head _ induction =>
      intro right member
      rcases List.mem_cons.mp member with rfl | member
      · exact ⟨_, List.mem_cons_self, head⟩
      · rcases induction right member with ⟨left, leftMember, found⟩
        exact ⟨left, List.mem_cons_of_mem _ leftMember, found⟩

theorem forall₂_of_same {Second : α → γ → Prop} {Joined : β → γ → Prop} {seconds : List γ}
    (first : List.Forall₂ Related lefts rights) (second : List.Forall₂ Second lefts seconds)
    (joined : ∀ value ∈ lefts, ∀ left right, Related value left → Second value right →
      Joined left right) : List.Forall₂ Joined rights seconds := by
  induction first generalizing seconds with
  | nil =>
      cases second
      exact .nil
  | cons head _ induction =>
      cases second with
      | cons secondHead rest =>
          refine .cons (joined _ List.mem_cons_self _ _ head secondHead) (induction rest ?_)
          exact fun value member => joined value (List.mem_cons_of_mem _ member)

theorem map_eq_of_forall₂ {leftName : α → γ} {rightName : β → γ}
    (related : List.Forall₂ Related lefts rights)
    (named : ∀ left right, Related left right → rightName right = leftName left) :
    rights.map rightName = lefts.map leftName := by
  induction related with
  | nil => rfl
  | cons first _ induction => rw [List.map_cons, List.map_cons, named _ _ first, induction]

end Related

theorem forall₂_of_mapM {function : α → Except ε β} {values : List α} {results : List β}
    (mapped : values.mapM function = .ok results) :
    List.Forall₂ (fun value result => function value = .ok result) values results := by
  induction values generalizing results with
  | nil =>
      cases mapped
      exact .nil
  | cons value values induction =>
      rw [List.mapM_cons] at mapped
      cases first : function value with
      | error exc => simp [first, Bind.bind, Except.bind] at mapped
      | ok result =>
          cases rest : values.mapM function with
          | error exc => simp [first, rest, Bind.bind, Except.bind] at mapped
          | ok others =>
              simp only [first, rest, Bind.bind, Except.bind, Pure.pure, Except.pure] at mapped
              cases mapped
              exact .cons first (induction rest)

theorem mapM_ok {function : α → Except ε β} {values : List α}
    (each : ∀ value ∈ values, ∃ result, function value = .ok result) :
    ∃ results, values.mapM function = .ok results := by
  induction values with
  | nil => exact ⟨[], rfl⟩
  | cons value values induction =>
      rcases each value List.mem_cons_self with ⟨result, first⟩
      rcases induction fun other member => each other (List.mem_cons_of_mem _ member) with
        ⟨results, rest⟩
      refine ⟨result :: results, ?_⟩
      rw [List.mapM_cons, first, rest]
      rfl

theorem mapM_eq_map {function : α → Except ε β} {result : α → β} {values : List α}
    (each : ∀ value ∈ values, function value = .ok (result value)) :
    values.mapM function = .ok (values.map result) := by
  induction values with
  | nil => rfl
  | cons value values induction =>
      have first := each value List.mem_cons_self
      have rest := induction fun other member => each other (List.mem_cons_of_mem _ member)
      rw [List.mapM_cons, first, rest]
      rfl

section Filter

variable {Element : Type} {predicate : Element → Except ε Bool} {selected : Element → Bool}

theorem filterAuxM_eq_filter {values : List Element}
    (each : ∀ value ∈ values, predicate value = .ok (selected value)) (kept : List Element) :
    values.filterAuxM predicate kept = .ok ((values.filter selected).reverse ++ kept) := by
  induction values generalizing kept with
  | nil => rfl
  | cons value values induction =>
      have rest := induction fun other member => each other (List.mem_cons_of_mem _ member)
      simp only [List.filterAuxM, each value List.mem_cons_self, Bind.bind, Except.bind]
      rw [rest]
      cases chosen : selected value with
      | false => rw [List.filter_cons_of_neg (by simp [chosen]), cond_false]
      | true =>
          rw [List.filter_cons_of_pos chosen, cond_true, List.reverse_cons, List.append_assoc,
            List.singleton_append]

theorem filterM_eq_filter {values : List Element}
    (each : ∀ value ∈ values, predicate value = .ok (selected value)) :
    values.filterM predicate = .ok (values.filter selected) := by
  rw [List.filterM, filterAuxM_eq_filter each []]
  simp [Bind.bind, Except.bind, Pure.pure, Except.pure]

theorem forall_ok_of_filterAuxM {values kept results : List Element}
    (filtered : values.filterAuxM predicate kept = .ok results) :
    ∀ value ∈ values, ∃ chosen, predicate value = .ok chosen := by
  induction values generalizing kept with
  | nil => exact List.forall_mem_nil _
  | cons value values induction =>
      cases first : predicate value with
      | error exc => simp [List.filterAuxM, first, Bind.bind, Except.bind] at filtered
      | ok chosen =>
          simp only [List.filterAuxM, first, Bind.bind, Except.bind] at filtered
          exact List.forall_mem_cons.mpr ⟨⟨chosen, first⟩, induction filtered⟩

theorem forall_ok_of_filterM {values results : List Element}
    (filtered : values.filterM predicate = .ok results) :
    ∀ value ∈ values, ∃ chosen, predicate value = .ok chosen := by
  rw [List.filterM] at filtered
  cases loop : values.filterAuxM predicate [] with
  | error exc => simp [loop, Bind.bind, Except.bind] at filtered
  | ok reversed => exact forall_ok_of_filterAuxM loop

end Filter

end EvalForge.Foundation
