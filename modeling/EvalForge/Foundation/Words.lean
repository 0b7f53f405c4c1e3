import Mathlib.Data.List.Basic

/-! # Runs of kept elements

A list is cut into the longest runs of elements that are kept. Joining the runs
by an element that is not kept, and cutting again, gives the same runs.
-/

namespace EvalForge.Foundation

universe u

variable {α : Type u} {keep : α → Bool}

def runs (keep : α → Bool) (values : List α) : List (List α) :=
  (values.splitOnP fun value => !keep value).filter fun run => !run.isEmpty

@[simp] theorem runs_nil : runs keep [] = [] := rfl

theorem runs_append_cons {separator : α} (dropped : keep separator = false)
    (values others : List α) :
    runs keep (values ++ separator :: others) = runs keep values ++ runs keep others := by
  have isSeparator : (!keep separator) = true := by rw [dropped, Bool.not_false]
  rw [runs, List.splitOnP_append_cons values others isSeparator, List.filter_append]
  rfl

theorem runs_of_kept {values : List α} (nonempty : values ≠ [])
    (kept : ∀ value ∈ values, keep value = true) : runs keep values = [values] := by
  have noSeparator : ∀ value ∈ values, (!keep value) = false := by
    intro value member
    rw [kept value member, Bool.not_true]
  have notEmpty : values.isEmpty = false := List.isEmpty_eq_false_iff.mpr nonempty
  rw [runs, List.splitOnP_eq_singleton noSeparator]
  simp [notEmpty]

theorem flatten_splitOnP (separates : α → Bool) (values : List α) :
    (values.splitOnP separates).flatten = values.filter fun value => !separates value := by
  induction values with
  | nil => rfl
  | cons value values induction =>
      rw [List.splitOnP_cons_eq_if_modifyHead]
      cases separated : separates value with
      | true => simp [separated, induction]
      | false =>
          rcases List.exists_cons_of_ne_nil (List.splitOnP_ne_nil separates values) with
            ⟨first, rest, pieces⟩
          rw [pieces, List.flatten_cons] at induction
          simp [separated, pieces, induction]

theorem flatten_runs (keep : α → Bool) (values : List α) :
    (runs keep values).flatten = values.filter keep := by
  rw [runs, List.flatten_filter_not_isEmpty, flatten_splitOnP]
  simp only [Bool.not_not]

theorem runs_nonempty {values run : List α} (member : run ∈ runs keep values) : run ≠ [] := by
  have kept := (List.mem_filter.mp member).2
  simpa using kept

theorem runs_kept {values run : List α} (member : run ∈ runs keep values) :
    ∀ value ∈ run, keep value = true := by
  intro value valueMember
  have listed : value ∈ values.filter keep := by
    rw [← flatten_runs]
    exact List.mem_flatten_of_mem member valueMember
  exact (List.mem_filter.mp listed).2

theorem length_le_length_flatten {lists : List (List α)}
    (nonempty : ∀ list ∈ lists, list ≠ []) : lists.length ≤ lists.flatten.length := by
  induction lists with
  | nil => exact Nat.zero_le _
  | cons list lists induction =>
      rcases List.forall_mem_cons.mp nonempty with ⟨first, others⟩
      have positive := List.length_pos_iff.mpr first
      have rest := induction others
      rw [List.flatten_cons, List.length_append, List.length_cons]
      omega

theorem length_runs_le (keep : α → Bool) (values : List α) :
    (runs keep values).length ≤ values.length :=
  calc (runs keep values).length
      ≤ (runs keep values).flatten.length := length_le_length_flatten fun _ => runs_nonempty
    _ = (values.filter keep).length := by rw [flatten_runs]
    _ ≤ values.length := List.length_filter_le _ _

theorem runs_intercalate {separator : α} (dropped : keep separator = false)
    {words : List (List α)} (nonempty : ∀ word ∈ words, word ≠ [])
    (kept : ∀ word ∈ words, ∀ value ∈ word, keep value = true) :
    runs keep ([separator].intercalate words) = words := by
  induction words with
  | nil => rfl
  | cons word words induction =>
      have first : runs keep word = [word] :=
        runs_of_kept (nonempty word List.mem_cons_self) (kept word List.mem_cons_self)
      cases words with
      | nil => rw [List.intercalate_singleton, first]
      | cons next words =>
          rw [List.intercalate_cons_cons, List.append_assoc, List.singleton_append,
            runs_append_cons dropped, first, List.singleton_append]
          congr 1
          apply induction
          · exact fun other member => nonempty other (List.mem_cons_of_mem _ member)
          · exact fun other member => kept other (List.mem_cons_of_mem _ member)

theorem runs_intercalate_runs {separator : α} (dropped : keep separator = false)
    (values : List α) :
    runs keep ([separator].intercalate (runs keep values)) = runs keep values :=
  runs_intercalate dropped (fun _ => runs_nonempty) fun _ => runs_kept

theorem filter_intercalate_runs {separator : α} (dropped : keep separator = false)
    (values : List α) :
    ([separator].intercalate (runs keep values)).filter keep = values.filter keep := by
  rw [← flatten_runs, runs_intercalate_runs dropped, flatten_runs]

theorem mem_intercalate {separator : α} {words : List (List α)} {value : α}
    (member : value ∈ [separator].intercalate words) :
    value = separator ∨ ∃ word ∈ words, value ∈ word := by
  induction words with
  | nil => cases member
  | cons word words induction =>
      cases words with
      | nil =>
          rw [List.intercalate_singleton] at member
          exact .inr ⟨word, List.mem_cons_self, member⟩
      | cons next words =>
          rw [List.intercalate_cons_cons, List.append_assoc, List.singleton_append,
            List.mem_append, List.mem_cons] at member
          rcases member with first | equal | rest
          · exact .inr ⟨word, List.mem_cons_self, first⟩
          · exact .inl equal
          · rcases induction rest with equal | ⟨other, otherMember, valueMember⟩
            · exact .inl equal
            · exact .inr ⟨other, List.mem_cons_of_mem _ otherMember, valueMember⟩

end EvalForge.Foundation
