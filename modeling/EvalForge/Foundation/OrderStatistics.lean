import Mathlib.Algebra.Order.BigOperators.Group.List
import Mathlib.Algebra.Order.Field.Basic
import Mathlib.Data.List.GetD
import Mathlib.Data.List.Sort
import Mathlib.Tactic.Linarith
import Mathlib.Tactic.Ring

/-! # Sorted samples and statistics of location

Sorting respects pointwise order, and a statistic of location is monotone and
follows a shift of its samples. Comparisons of two samples, element by element,
then become comparisons of their statistics. Nothing here depends on what is
measured.
-/

namespace EvalForge.Foundation

/-! ## Sorting related lists -/

section Sorted

variable {α : Type u} [LinearOrder α]

theorem forall₂_orderedInsert {left right : α} {lefts rights : List α}
    (related : List.Forall₂ (· ≤ ·) lefts rights)
    (leftSorted : lefts.Pairwise (· ≤ ·)) (rightSorted : rights.Pairwise (· ≤ ·))
    (below : left ≤ right) :
    List.Forall₂ (· ≤ ·) (lefts.orderedInsert (· ≤ ·) left)
      (rights.orderedInsert (· ≤ ·) right) := by
  induction related generalizing left right with
  | nil => exact .cons below .nil
  | @cons first second lefts rights firstBelow related induction =>
      rcases List.pairwise_cons.mp leftSorted with ⟨firstLeast, leftSorted⟩
      rcases List.pairwise_cons.mp rightSorted with ⟨secondLeast, rightSorted⟩
      have insertFirst : lefts.orderedInsert (· ≤ ·) first = first :: lefts := by
        cases lefts with
        | nil => rfl
        | cons next lefts => exact List.orderedInsert_cons_of_le _ _ (firstLeast next (by simp))
      have insertSecond : rights.orderedInsert (· ≤ ·) second = second :: rights := by
        cases rights with
        | nil => rfl
        | cons next rights => exact List.orderedInsert_cons_of_le _ _ (secondLeast next (by simp))
      rcases le_or_gt left first with leftFirst | leftLater
      · rw [List.orderedInsert_cons_of_le _ _ leftFirst]
        rcases le_or_gt right second with rightFirst | rightLater
        · rw [List.orderedInsert_cons_of_le _ _ rightFirst]
          exact .cons below (.cons firstBelow related)
        · rw [List.orderedInsert_of_not_le _ _ (not_le.mpr rightLater)]
          refine .cons (leftFirst.trans firstBelow) ?_
          rw [← insertFirst]
          exact induction leftSorted rightSorted (firstBelow.trans rightLater.le)
      · rw [List.orderedInsert_of_not_le _ _ (not_le.mpr leftLater)]
        rcases le_or_gt right second with rightFirst | rightLater
        · rw [List.orderedInsert_cons_of_le _ _ rightFirst]
          refine .cons (leftLater.le.trans below) ?_
          rw [← insertSecond]
          exact induction leftSorted rightSorted (below.trans rightFirst)
        · rw [List.orderedInsert_of_not_le _ _ (not_le.mpr rightLater)]
          exact .cons firstBelow (induction leftSorted rightSorted below)

theorem forall₂_insertionSort {lefts rights : List α}
    (related : List.Forall₂ (· ≤ ·) lefts rights) :
    List.Forall₂ (· ≤ ·) (lefts.insertionSort (· ≤ ·)) (rights.insertionSort (· ≤ ·)) := by
  induction related with
  | nil => exact .nil
  | cons below _ induction =>
      rw [List.insertionSort_cons, List.insertionSort_cons]
      exact forall₂_orderedInsert induction (List.pairwise_insertionSort _ _)
        (List.pairwise_insertionSort _ _) below

variable {β : Type v} {key : β → α} {Related : β → β → Prop}

theorem forall₂_insertionSort_of_key (sameKey : ∀ left right, Related left right →
      key left = key right) {lefts rights : List β}
    (related : List.Forall₂ Related lefts rights) :
    List.Forall₂ Related (lefts.insertionSort fun left right => key left ≤ key right)
      (rights.insertionSort fun left right => key left ≤ key right) := by
  have insert : ∀ {left right : β} {lefts rights : List β}, Related left right →
      List.Forall₂ Related lefts rights →
      List.Forall₂ Related (lefts.orderedInsert (fun left right => key left ≤ key right) left)
        (rights.orderedInsert (fun left right => key left ≤ key right) right) := by
    intro left right lefts rights head related
    induction related with
    | nil => exact .cons head .nil
    | @cons first second lefts rights firstRelated related induction =>
        have same : key left ≤ key first ↔ key right ≤ key second := by
          rw [sameKey left right head, sameKey first second firstRelated]
        simp only [List.orderedInsert_cons]
        by_cases least : key left ≤ key first
        · rw [if_pos least, if_pos (same.mp least)]
          exact .cons head (.cons firstRelated related)
        · rw [if_neg least, if_neg (same.not.mp least)]
          exact .cons firstRelated induction
  induction related with
  | nil => exact .nil
  | cons head _ induction =>
      rw [List.insertionSort_cons, List.insertionSort_cons]
      exact insert head induction

theorem pairwise_le_insertionSort (key : β → α) (values : List β) :
    (values.insertionSort fun left right => key left ≤ key right).Pairwise
      fun left right => key left ≤ key right := by
  have total : Std.Total fun left right : β => key left ≤ key right :=
    ⟨fun left right => le_total (key left) (key right)⟩
  have transitive : IsTrans β fun left right => key left ≤ key right :=
    ⟨fun _ _ _ lower upper => le_trans lower upper⟩
  exact List.pairwise_insertionSort _ values

theorem pairwise_lt_insertionSort {values : List β} (distinct : (values.map key).Nodup) :
    (values.insertionSort fun left right => key left ≤ key right).Pairwise
      fun left right => key left < key right := by
  have sorted := List.perm_insertionSort (fun left right => key left ≤ key right) values
  have different := List.pairwise_map.mp ((sorted.map key).nodup_iff.mpr distinct)
  exact (pairwise_le_insertionSort key values).imp₂ (fun _ _ below => lt_of_le_of_ne below)
    different

theorem insertionSort_eq_of_perm {values others : List β} (permuted : values.Perm others)
    (distinct : (values.map key).Nodup) :
    values.insertionSort (fun left right => key left ≤ key right) =
      others.insertionSort fun left right => key left ≤ key right := by
  have sorted := List.perm_insertionSort (fun left right => key left ≤ key right) values
  have othersSorted := List.perm_insertionSort (fun left right => key left ≤ key right) others
  apply List.Perm.eq_of_pairwise _ (pairwise_le_insertionSort key values)
    (pairwise_le_insertionSort key others) ((sorted.trans permuted).trans othersSorted.symm)
  intro left right leftMember rightMember lower upper
  apply List.inj_on_of_nodup_map distinct (sorted.mem_iff.mp leftMember)
  · exact permuted.mem_iff.mpr (othersSorted.mem_iff.mp rightMember)
  · exact le_antisymm lower upper

theorem forall₂_map_of_forall {γ : Type w} {Related : β → β → Prop} {left right : γ → β}
    {values : List γ} (related : ∀ value ∈ values, Related (left value) (right value)) :
    List.Forall₂ Related (values.map left) (values.map right) := by
  apply List.forall₂_map_left_iff.mpr
  apply List.forall₂_map_right_iff.mpr
  exact List.forall₂_same.mpr related

theorem forall₂_getD {Related : β → β → Prop} {lefts rights : List β}
    (related : List.Forall₂ Related lefts rights) (index : Nat) {default : β}
    (defaults : Related default default) :
    Related (lefts.getD index default) (rights.getD index default) := by
  induction related generalizing index with
  | nil => exact defaults
  | cons head _ induction =>
      cases index with
      | zero => exact head
      | succ index => exact induction index

theorem forall₂_getD_of_lt {Related : β → β → Prop} {lefts rights : List β}
    (related : List.Forall₂ Related lefts rights) {index : Nat} (bound : index < lefts.length)
    (default : β) : Related (lefts.getD index default) (rights.getD index default) := by
  induction related generalizing index with
  | nil => cases bound
  | cons head _ induction =>
      cases index with
      | zero => exact head
      | succ index => exact induction (Nat.lt_of_succ_lt_succ bound)

theorem forall₂_replicate_left {γ : Type w} {Related : γ → β → Prop} {zero : γ} {values : List β}
    (related : ∀ value ∈ values, Related zero value) :
    List.Forall₂ Related (List.replicate values.length zero) values := by
  induction values with
  | nil => exact .nil
  | cons value values induction =>
      apply List.Forall₂.cons (related value List.mem_cons_self)
      exact induction fun other member => related other (List.mem_cons_of_mem _ member)

theorem getD_insertionSort_of_forall {Property : α → Prop} {values : List α}
    (holds : ∀ value ∈ values, Property value) {index : Nat} (bound : index < values.length)
    (default : α) : Property ((values.insertionSort (· ≤ ·)).getD index default) := by
  have inside : index < (values.insertionSort (· ≤ ·)).length := by simpa using bound
  rw [List.getD_eq_getElem _ _ inside]
  exact holds _ ((List.mem_insertionSort _).mp (List.getElem_mem inside))

theorem getD_insertionSort_mono {values : List α} {first second : Nat} (order : first ≤ second)
    (bound : second < values.length) (default : α) :
    (values.insertionSort (· ≤ ·)).getD first default ≤
      (values.insertionSort (· ≤ ·)).getD second default := by
  have length : (values.insertionSort (· ≤ ·)).length = values.length :=
    List.length_insertionSort _ _
  rw [List.getD_eq_getElem _ _ (by omega), List.getD_eq_getElem _ _ (by omega)]
  exact List.sortedLE_insertionSort.getElem_le_getElem_of_le order

theorem getD_insertionSort_iff_lt_countP (Property : α → Prop) [DecidablePred Property]
    (downward : ∀ lower upper, lower ≤ upper → Property upper → Property lower)
    (values : List α) {index : Nat} (bound : index < values.length) (default : α) :
    Property ((values.insertionSort (· ≤ ·)).getD index default) ↔
      index < values.countP fun value => Property value := by
  have reached : ∀ {ordered : List α}, ordered.Pairwise (· ≤ ·) → ∀ {index : Nat},
      index < ordered.length →
      (Property (ordered.getD index default) ↔
        index < ordered.countP fun value => Property value) := by
    intro ordered
    induction ordered with
    | nil => exact fun _ _ bound => absurd bound (Nat.not_lt_zero _)
    | cons first ordered induction =>
        intro pairwise index bound
        rcases List.pairwise_cons.mp pairwise with ⟨least, pairwise⟩
        by_cases holds : Property first
        · cases index with
          | zero => simp [holds]
          | succ index =>
              have later := induction pairwise (Nat.lt_of_succ_lt_succ bound)
              simpa [holds] using later
        · have fails : ∀ value ∈ first :: ordered, ¬Property value := by
            intro value member holdsValue
            rcases List.mem_cons.mp member with rfl | member
            · exact holds holdsValue
            · exact holds (downward _ _ (least value member) holdsValue)
          have count : (first :: ordered).countP (fun value => Property value) = 0 := by
            simpa [List.countP_eq_zero] using fails
          rw [count, List.getD_eq_getElem _ _ bound]
          exact iff_of_false (fails _ (List.getElem_mem bound)) (Nat.not_lt_zero _)
  have sameCount := (List.perm_insertionSort (· ≤ ·) values).countP_eq fun value => Property value
  have sameBound : index < (values.insertionSort (· ≤ ·)).length := by simpa using bound
  rw [reached (List.pairwise_insertionSort _ _) sameBound, sameCount]

theorem getD_insertionSort_iff_le_countP (Property : α → Prop) [DecidablePred Property]
    (upward : ∀ lower upper, lower ≤ upper → Property lower → Property upper)
    (values : List α) {index : Nat} (bound : index < values.length) (default : α) :
    Property ((values.insertionSort (· ≤ ·)).getD index default) ↔
      values.length ≤ index + values.countP fun value => Property value := by
  have below := getD_insertionSort_iff_lt_countP (fun value => ¬Property value)
    (fun lower upper order => mt (upward lower upper order)) values bound default
  have total : values.length = values.countP (fun value => Property value) +
      values.countP (fun value => ¬Property value) := by
    simpa using List.length_eq_countP_add_countP (fun value => decide (Property value))
  rw [← not_iff_not, below]
  omega

end Sorted

/-! ## Statistics of location -/

/-- Statistics that grow with every sample and move with all of them. -/
structure LocationStatistic (K : Type u) [Field K] [LinearOrder K] where
  value : List K → K
  monotone : ∀ {lefts rights : List K}, List.Forall₂ (· ≤ ·) lefts rights →
    value lefts ≤ value rights
  shift : ∀ {values : List K} (offset : K), values ≠ [] →
    value (values.map (· + offset)) = value values + offset

namespace LocationStatistic

variable {K : Type u} [Field K] [LinearOrder K] [IsStrictOrderedRing K]
variable (statistic : LocationStatistic K) {lefts rights : List K} {offset : K}

theorem offset_le (nonempty : lefts ≠ [])
    (related : List.Forall₂ (fun left right => left + offset ≤ right) lefts rights) :
    offset ≤ statistic.value rights - statistic.value lefts := by
  have shifted : List.Forall₂ (· ≤ ·) (lefts.map (· + offset)) rights :=
    List.forall₂_map_left_iff.mpr related
  have risen := statistic.monotone shifted
  rw [statistic.shift offset nonempty] at risen
  linarith

theorem le_offset (nonempty : lefts ≠ [])
    (related : List.Forall₂ (fun left right => right ≤ left + offset) lefts rights) :
    statistic.value rights - statistic.value lefts ≤ offset := by
  have shifted : List.Forall₂ (· ≤ ·) rights (lefts.map (· + offset)) :=
    List.forall₂_map_right_iff.mpr (List.Forall₂.flip related)
  have fallen := statistic.monotone shifted
  rw [statistic.shift offset nonempty] at fallen
  linarith

theorem eq_offset (nonempty : lefts ≠ [])
    (related : List.Forall₂ (fun left right => right = left + offset) lefts rights) :
    statistic.value rights - statistic.value lefts = offset := by
  apply le_antisymm
  · exact statistic.le_offset nonempty (related.imp fun _ _ equal => equal.le)
  · exact statistic.offset_le nonempty (related.imp fun _ _ equal => equal.ge)

def Centred : Prop :=
  ∀ count, statistic.value (List.replicate count 0) = 0

variable {statistic} {values : List K} {bound : K}

theorem Centred.le_value (centred : statistic.Centred) (nonempty : values ≠ [])
    (above : ∀ value ∈ values, bound ≤ value) : bound ≤ statistic.value values := by
  have zeros : List.replicate values.length (0 : K) ≠ [] := by simpa using nonempty
  have related : List.Forall₂ (fun left right => left + bound ≤ right)
      (List.replicate values.length 0) values := by
    apply forall₂_replicate_left
    intro value member
    rw [zero_add]
    exact above value member
  have raised := statistic.offset_le zeros related
  rwa [centred, sub_zero] at raised

theorem Centred.value_le (centred : statistic.Centred) (nonempty : values ≠ [])
    (below : ∀ value ∈ values, value ≤ bound) : statistic.value values ≤ bound := by
  have zeros : List.replicate values.length (0 : K) ≠ [] := by simpa using nonempty
  have related : List.Forall₂ (fun left right => right ≤ left + bound)
      (List.replicate values.length 0) values := by
    apply forall₂_replicate_left
    intro value member
    rw [zero_add]
    exact below value member
  have lowered := statistic.le_offset zeros related
  rwa [centred, sub_zero] at lowered

end LocationStatistic

/-! ## Moving all values -/

section Shift

variable {K : Type u} [Field K]

theorem sum_map_add (values : List K) (offset : K) :
    (values.map (· + offset)).sum = values.sum + values.length * offset := by
  induction values with
  | nil => simp
  | cons value values induction =>
      simp only [List.map_cons, List.sum_cons, List.length_cons, induction]
      push_cast
      ring

theorem getD_map_add {values : List K} {index : Nat} (bound : index < values.length)
    (offset default : K) :
    (values.map (· + offset)).getD index default = values.getD index default + offset := by
  have mapped : index < (values.map (· + offset)).length := by simpa using bound
  rw [List.getD_eq_getElem _ _ mapped, List.getD_eq_getElem _ _ bound, List.getElem_map]

def interpolate (weight lower upper : K) : K :=
  lower * (1 - weight) + upper * weight

theorem interpolate_add (weight lower upper offset : K) :
    interpolate weight (lower + offset) (upper + offset) =
      interpolate weight lower upper + offset := by
  unfold interpolate
  ring

variable [LinearOrder K] [IsStrictOrderedRing K]

theorem insertionSort_map_add (values : List K) (offset : K) :
    (values.map (· + offset)).insertionSort (· ≤ ·) =
      (values.insertionSort (· ≤ ·)).map (· + offset) := by
  symm
  apply List.map_insertionSort
  intro left _ right _
  simp

theorem interpolate_le {weight : K} (nonnegative : 0 ≤ weight) (atMostOne : weight ≤ 1)
    {lower upper higherLower higherUpper : K} (lowers : lower ≤ higherLower)
    (uppers : upper ≤ higherUpper) :
    interpolate weight lower upper ≤ interpolate weight higherLower higherUpper := by
  have rest : 0 ≤ 1 - weight := by linarith
  apply add_le_add
  · exact mul_le_mul_of_nonneg_right lowers rest
  · exact mul_le_mul_of_nonneg_right uppers nonnegative

end Shift

end EvalForge.Foundation
