import EvalForge.Foundation.OrderStatistics
import EvalForge.Foundation.Rounding
import Mathlib.Algebra.BigOperators.Group.List.Lemmas
import Mathlib.Data.List.FinRange
import Mathlib.Data.Prod.Lex
import Mathlib.Data.Rat.Sqrt

/-! # Calibration

The rank correlation of evaluator scores with gold labels. `math.sqrt` is a
parameter, in exact arithmetic otherwise.
-/

namespace EvalForge

open Foundation

/-! ## Ranks -/

section Loops

variable {α : Type u} [LinearOrder α]

/-- `sorted((value, index) for index, value in enumerate(values))`. -/
def sortedPairs (values : List α) : List (α × Nat) :=
  values.zipIdx.insertionSort fun left right => toLex left ≤ toLex right

/-- The inner loop, which moves the end of a group to the last pair with the
value at its first position. -/
def groupEnd (ordered : List (α × Nat)) (position last : Nat) : Nat :=
  if last + 1 < ordered.length ∧
      ordered[last + 1]?.map Prod.fst = ordered[position]?.map Prod.fst then
    groupEnd ordered position (last + 1)
  else last
termination_by ordered.length - last

theorem le_groupEnd (ordered : List (α × Nat)) (position last : Nat) :
    last ≤ groupEnd ordered position last := by
  fun_induction groupEnd ordered position last with
  | case1 last moves induction => omega
  | case2 last stays => exact le_refl last

def slice (ordered : List (α × Nat)) (position last : Nat) : List (α × Nat) :=
  (ordered.drop position).take (last + 1 - position)

/-- The write of the rank to the original indices of a group. -/
def writeRank (averageRank : Rat) (ranks : List Rat) (group : List (α × Nat)) : List Rat :=
  group.foldl (fun ranks pair => ranks.set pair.2 averageRank) ranks

def rankLoop (ordered : List (α × Nat)) (position : Nat) (ranks : List Rat) : List Rat :=
  if position < ordered.length then
    let last := groupEnd ordered position position
    let averageRank : Rat := ((position + last + 2 : Nat) : Rat) / 2
    rankLoop ordered (last + 1) (writeRank averageRank ranks (slice ordered position last))
  else ranks
termination_by ordered.length - position
decreasing_by
  have advanced := le_groupEnd ordered position position
  omega

def rank (values : List α) : List Rat :=
  rankLoop (sortedPairs values) 0 (List.replicate values.length 0)

end Loops

/-! ## Correlations -/

def normalizeGoldLabel (label : Rat) : Rat := (label - 1) / 4

def pearsonCorrelation (squareRoot : Rat → Rat) (evaluatorScores goldLabels : List Rat) : Rat :=
  if evaluatorScores.length ≠ goldLabels.length ∨ evaluatorScores.length < 2 then 0
  else
    let xValues := evaluatorScores
    let yValues := goldLabels.map normalizeGoldLabel
    let xMean := xValues.sum / xValues.length
    let yMean := yValues.sum / yValues.length
    let numerator := (List.zipWith (fun x y => (x - xMean) * (y - yMean)) xValues yValues).sum
    let xDenominator := squareRoot (xValues.map fun x => (x - xMean) ^ 2).sum
    let yDenominator := squareRoot (yValues.map fun y => (y - yMean) ^ 2).sum
    if xDenominator = 0 ∨ yDenominator = 0 then 0
    else roundTo 6 (numerator / (xDenominator * yDenominator))

def spearmanCorrelation (squareRoot : Rat → Rat) (evaluatorScores : List Rat)
    (goldLabels : List Int) : Rat :=
  if evaluatorScores.length ≠ goldLabels.length ∨ evaluatorScores.length < 2 then 0
  else
    pearsonCorrelation squareRoot (rank evaluatorScores)
      (rank (goldLabels.map fun label => (label : Rat)))

/-! ## Mid-ranks -/

section MidRank

variable {α : Type u} [LinearOrder α]

def midRank (values : List α) (value : α) : Rat :=
  values.countP (· < value) + ((values.countP (· = value) + 1 : Nat) : Rat) / 2

variable {values others : List α}

theorem midRank_perm (permuted : values.Perm others) : midRank values = midRank others := by
  funext value
  rw [midRank, midRank, permuted.countP_eq, permuted.countP_eq]

/-! ## A group of equal values -/

variable {ordered : List (α × Nat)} {position last : Nat}

variable (position) in
theorem groupEnd_lt (bound : last < ordered.length) :
    groupEnd ordered position last < ordered.length := by
  fun_induction groupEnd ordered position last with
  | case1 last moves induction => exact induction moves.1
  | case2 last stays => exact bound

variable (last) in
theorem groupEnd_equal {index : Nat} (passed : last < index)
    (inside : index ≤ groupEnd ordered position last) :
    ordered[index]?.map Prod.fst = ordered[position]?.map Prod.fst := by
  fun_induction groupEnd ordered position last with
  | case1 last moves induction =>
      rcases Nat.lt_or_ge (last + 1) index with later | here
      · exact induction later inside
      · rw [show index = last + 1 by omega]
        exact moves.2
  | case2 last stays => omega

variable (position last) in
theorem groupEnd_maximal (more : groupEnd ordered position last + 1 < ordered.length) :
    ordered[groupEnd ordered position last + 1]?.map Prod.fst ≠
      ordered[position]?.map Prod.fst := by
  fun_induction groupEnd ordered position last with
  | case1 last moves induction => exact induction more
  | case2 last stays => exact fun equal => stays ⟨more, equal⟩

omit [LinearOrder α] in
theorem take_append_slice (order : position ≤ last) :
    ordered.take position ++ slice ordered position last = ordered.take (last + 1) := by
  rw [slice, ← List.take_add]
  congr 1
  omega

theorem fst_of_mem_slice (bound : position < ordered.length) {pair : α × Nat}
    (member : pair ∈ slice ordered position (groupEnd ordered position position)) :
    pair.1 = ordered[position].1 := by
  rcases List.getElem?_of_mem member with ⟨offset, found⟩
  rw [slice, List.getElem?_take] at found
  split at found
  · next inside =>
      rw [List.getElem?_drop] at found
      have equal : ordered[position + offset]?.map Prod.fst = ordered[position]?.map Prod.fst := by
        rcases Nat.eq_zero_or_pos offset with rfl | positive
        · rfl
        · exact groupEnd_equal position (by omega) (by omega)
      rw [found, List.getElem?_eq_getElem bound] at equal
      exact Option.some.inj equal
  · cases found

theorem lt_of_mem_drop_groupEnd (ascending : ordered.Pairwise fun left right => left.1 ≤ right.1)
    (bound : position < ordered.length) {other : α × Nat}
    (member : other ∈ ordered.drop (groupEnd ordered position position + 1)) :
    ordered[position].1 < other.1 := by
  have order := le_groupEnd ordered position position
  rcases List.getElem_of_mem member with ⟨offset, inside, rfl⟩
  rw [List.length_drop] at inside
  have more : groupEnd ordered position position + 1 < ordered.length := by omega
  have different := groupEnd_maximal position position more
  rw [List.getElem?_eq_getElem more, List.getElem?_eq_getElem bound] at different
  have next : ordered[position].1 < (ordered[groupEnd ordered position position + 1]).1 := by
    apply lt_of_le_of_ne
    · exact List.pairwise_iff_getElem.mp ascending _ _ bound more (by omega)
    · exact fun equal => different (congrArg some equal.symm)
  rw [List.getElem_drop]
  rcases Nat.eq_zero_or_pos offset with rfl | positive
  · exact next
  · exact next.trans_le (List.pairwise_iff_getElem.mp ascending _ _ more _ (by omega))

theorem midRank_of_split {before group after : List α} {value : α}
    (smaller : ∀ other ∈ before, other < value) (equal : ∀ other ∈ group, other = value)
    (greater : ∀ other ∈ after, value < other) :
    midRank (before ++ group ++ after) value =
      ((2 * before.length + group.length + 1 : Nat) : Rat) / 2 := by
  have beforeBelow : before.countP (· < value) = before.length := by
    simpa [List.countP_eq_length] using smaller
  have groupBelow : group.countP (· < value) = 0 := by
    simpa [List.countP_eq_zero] using fun other member => (equal other member).ge
  have afterBelow : after.countP (· < value) = 0 := by
    simpa [List.countP_eq_zero] using fun other member => (greater other member).le
  have beforeEqual : before.countP (· = value) = 0 := by
    simpa [List.countP_eq_zero] using fun other member => (smaller other member).ne
  have groupEqual : group.countP (· = value) = group.length := by
    simpa [List.countP_eq_length] using equal
  have afterEqual : after.countP (· = value) = 0 := by
    simpa [List.countP_eq_zero] using fun other member => (greater other member).ne'
  simp only [midRank, List.countP_append, beforeBelow, groupBelow, afterBelow, beforeEqual,
    groupEqual, afterEqual]
  push_cast
  ring

/-! ## The writes of a group -/

section Writes

variable {averageRank : Rat} {ranks : List Rat} {group : List (α × Nat)} {index : Nat}

omit [LinearOrder α] in
@[simp] theorem length_writeRank :
    (writeRank averageRank ranks group).length = ranks.length := by
  induction group generalizing ranks with
  | nil => rfl
  | cons pair group induction =>
      rw [writeRank, List.foldl_cons, ← writeRank, induction, List.length_set]

omit [LinearOrder α] in
theorem getElem?_writeRank_of_not_mem (other : index ∉ group.map Prod.snd) :
    (writeRank averageRank ranks group)[index]? = ranks[index]? := by
  induction group generalizing ranks with
  | nil => rfl
  | cons pair group induction =>
      rw [List.map_cons, List.mem_cons, not_or] at other
      rw [writeRank, List.foldl_cons, ← writeRank, induction other.2,
        List.getElem?_set_ne (Ne.symm other.1)]

omit [LinearOrder α] in
theorem getElem?_writeRank_of_mem (member : index ∈ group.map Prod.snd)
    (bound : index < ranks.length) :
    (writeRank averageRank ranks group)[index]? = some averageRank := by
  induction group generalizing ranks with
  | nil => cases member
  | cons pair group induction =>
      rw [writeRank, List.foldl_cons, ← writeRank]
      by_cases later : index ∈ group.map Prod.snd
      · exact induction later (by simpa using bound)
      · have here : pair.2 = index := by
          rcases List.mem_cons.mp member with here | there
          · exact here.symm
          · exact absurd there later
        rw [getElem?_writeRank_of_not_mem later, here, List.getElem?_set_self bound]

end Writes

/-! ## The outer loop -/

theorem sortedPairs_perm (values : List α) : (sortedPairs values).Perm values.zipIdx :=
  List.perm_insertionSort _ _

theorem sortedPairs_ascending (values : List α) :
    (sortedPairs values).Pairwise fun left right => left.1 ≤ right.1 := by
  apply (pairwise_le_insertionSort toLex values.zipIdx).imp
  intro left right order
  exact Prod.Lex.monotone_fst _ _ order

theorem nodup_snd_sortedPairs (values : List α) : ((sortedPairs values).map Prod.snd).Nodup := by
  rw [((sortedPairs_perm values).map Prod.snd).nodup_iff, List.zipIdx_map_snd]
  exact List.nodup_range'

theorem midRank_sortedPairs (values : List α) :
    midRank ((sortedPairs values).map Prod.fst) = midRank values := by
  apply midRank_perm
  exact ((sortedPairs_perm values).map Prod.fst).trans (.of_eq (List.zipIdx_map_fst 0 values))

/-- Before a position the groups are finished: every original index in them
holds its mid-rank, and no value goes on after it. -/
structure RankInvariant (values : List α) (position : Nat) (ranks : List Rat) : Prop where
  bound : position ≤ (sortedPairs values).length
  length : ranks.length = values.length
  boundary : ∀ pair ∈ (sortedPairs values).take position,
    ∀ other ∈ (sortedPairs values).drop position, pair.1 < other.1
  written : ∀ pair ∈ (sortedPairs values).take position,
    ranks[pair.2]? = some (midRank values pair.1)

variable {ranks : List Rat}

theorem snd_lt_of_mem {pair : α × Nat} (member : pair ∈ sortedPairs values) :
    pair.2 < values.length := by
  have indexed := List.mem_zipIdx ((sortedPairs_perm values).mem_iff.mp member)
  omega

theorem RankInvariant.averageRank_eq (invariant : RankInvariant values position ranks)
    (more : position < (sortedPairs values).length) :
    ((position + groupEnd (sortedPairs values) position position + 2 : Nat) : Rat) / 2 =
      midRank values (sortedPairs values)[position].1 := by
  have order := le_groupEnd (sortedPairs values) position position
  have inside := groupEnd_lt position more
  have head : (sortedPairs values)[position] ∈ (sortedPairs values).drop position := by
    rw [List.drop_eq_getElem_cons more]
    exact List.mem_cons_self
  have split := midRank_of_split
    (List.forall_mem_map.mpr fun pair member => invariant.boundary pair member _ head)
    (List.forall_mem_map.mpr fun pair member => fst_of_mem_slice more member)
    (List.forall_mem_map.mpr fun pair member =>
      lt_of_mem_drop_groupEnd (sortedPairs_ascending values) more member)
  rw [← List.map_append, ← List.map_append, take_append_slice order, List.take_append_drop,
    midRank_sortedPairs] at split
  rw [split]
  simp only [slice, List.length_map, List.length_take, List.length_drop]
  congr 2
  omega

theorem RankInvariant.step (invariant : RankInvariant values position ranks)
    (more : position < (sortedPairs values).length) :
    RankInvariant values (groupEnd (sortedPairs values) position position + 1)
      (writeRank
        (((position + groupEnd (sortedPairs values) position position + 2 : Nat) : Rat) / 2) ranks
        (slice (sortedPairs values) position
          (groupEnd (sortedPairs values) position position))) := by
  have order := le_groupEnd (sortedPairs values) position position
  have distinct : (((sortedPairs values).take
      (groupEnd (sortedPairs values) position position + 1)).map Prod.snd).Nodup :=
    (nodup_snd_sortedPairs values).sublist ((List.take_sublist _ _).map _)
  rw [← take_append_slice order, List.map_append] at distinct
  have disjoint := List.disjoint_of_nodup_append distinct
  constructor
  · exact groupEnd_lt _ more
  · rw [length_writeRank]
    exact invariant.length
  · intro pair member other later
    rw [← take_append_slice order] at member
    rcases List.mem_append.mp member with earlier | grouped
    · apply invariant.boundary pair earlier other
      exact (List.drop_sublist_drop_left _ (by omega)).mem later
    · rw [fst_of_mem_slice more grouped]
      exact lt_of_mem_drop_groupEnd (sortedPairs_ascending values) more later
  · intro pair member
    rw [← take_append_slice order] at member
    rcases List.mem_append.mp member with earlier | grouped
    · rw [getElem?_writeRank_of_not_mem (disjoint (List.mem_map_of_mem earlier))]
      exact invariant.written pair earlier
    · have inside : pair ∈ sortedPairs values :=
        List.mem_of_mem_drop (List.mem_of_mem_take grouped)
      have bound : pair.2 < ranks.length := by
        rw [invariant.length]
        exact snd_lt_of_mem inside
      rw [getElem?_writeRank_of_mem (List.mem_map_of_mem grouped) bound,
        invariant.averageRank_eq more, fst_of_mem_slice more grouped]

theorem RankInvariant.run (invariant : RankInvariant values position ranks) :
    RankInvariant values (sortedPairs values).length
      (rankLoop (sortedPairs values) position ranks) := by
  fun_induction rankLoop (sortedPairs values) position ranks with
  | case1 position ranks more last averageRank induction => exact induction (invariant.step more)
  | case2 position ranks done =>
      have finished := invariant.bound
      rwa [show position = (sortedPairs values).length by omega] at invariant

theorem RankInvariant.start (values : List α) :
    RankInvariant values 0 (List.replicate values.length 0) where
  bound := Nat.zero_le _
  length := List.length_replicate
  boundary _ member := by cases member
  written _ member := by cases member

theorem rank_eq_map (values : List α) : rank values = values.map (midRank values) := by
  have invariant := (RankInvariant.start values).run
  rw [← rank] at invariant
  have written := invariant.written
  rw [List.take_length] at written
  apply List.ext_getElem?
  intro index
  rcases Nat.lt_or_ge index values.length with bound | outside
  · have member : (values[index], index) ∈ sortedPairs values := by
      rw [(sortedPairs_perm values).mem_iff, List.mk_mem_zipIdx_iff_getElem?]
      exact List.getElem?_eq_getElem bound
    rw [written _ member, List.getElem?_map, List.getElem?_eq_getElem bound]
    rfl
  · rw [List.getElem?_eq_none (by rw [invariant.length]; exact outside),
      List.getElem?_eq_none (by rw [List.length_map]; exact outside)]

/-! ## What mid-ranks have in common -/

@[simp] theorem length_rank (values : List α) : (rank values).length = values.length := by
  rw [rank_eq_map, List.length_map]

omit [LinearOrder α] in
theorem sum_countP_comm (Related : α → α → Prop) [DecidableRel Related] (values others : List α) :
    (values.map fun value => others.countP fun other => Related value other).sum =
      (others.map fun other => values.countP fun value => Related value other).sum := by
  induction values with
  | nil => simp
  | cons first values induction =>
      have head : others.countP (fun other => Related first other) =
          (others.map fun other => if Related first other then 1 else 0).sum := by
        clear induction
        induction others with
        | nil => rfl
        | cons other others induction =>
            rw [List.countP_cons, List.map_cons, List.sum_cons, induction, add_comm]
            simp
      rw [List.map_cons, List.sum_cons, induction, head, ← List.sum_map_add]
      congr 2
      funext other
      rw [List.countP_cons, add_comm]
      simp

theorem countP_trichotomy (values : List α) (value : α) :
    values.countP (· < value) + values.countP (value < ·) + values.countP (· = value) =
      values.length := by
  induction values with
  | nil => rfl
  | cons first values induction =>
      simp only [List.countP_cons, List.length_cons]
      rcases lt_trichotomy first value with below | rfl | above
      · simp [below, below.ne, below.not_gt]
        omega
      · simp
        omega
      · simp [above, above.ne', above.not_gt]
        omega

def twiceMidRank (values : List α) (value : α) : Nat :=
  values.countP (· < value) + (values.countP (· < value) + values.countP (· = value) + 1)

theorem midRank_eq_half (values : List α) (value : α) :
    midRank values value = (twiceMidRank values value : Rat) / 2 := by
  rw [midRank, twiceMidRank]
  push_cast
  ring

theorem sum_twiceMidRank (values : List α) :
    (values.map (twiceMidRank values)).sum = values.length * (values.length + 1) := by
  have swapped := sum_countP_comm (fun value other => other < value) values values
  have each : (values.map fun value => values.countP (· < value) +
      values.countP (value < ·) + values.countP (· = value)).sum =
        values.length * values.length := by
    simp only [countP_trichotomy, List.map_const', List.sum_replicate_nat]
  unfold twiceMidRank
  simp only [List.sum_map_add, List.map_const', List.sum_replicate_nat] at each ⊢
  rw [mul_add, ← each, swapped]
  omega

theorem sum_rank (values : List α) :
    (rank values).sum = (values.length : Rat) * (values.length + 1) / 2 := by
  have halves : ∀ others : List α, (others.map (midRank values)).sum =
      ((others.map (twiceMidRank values)).sum : Nat) / 2 := by
    intro others
    induction others with
    | nil => simp
    | cons other others induction =>
        simp only [List.map_cons, List.sum_cons, induction, midRank_eq_half]
        push_cast
        ring
  rw [rank_eq_map, halves, sum_twiceMidRank]
  push_cast
  rfl

theorem rank_ofFn {n : Nat} (values : Fin n → α) :
    rank (List.ofFn values) = List.ofFn fun index => midRank (List.ofFn values) (values index) := by
  rw [rank_eq_map, List.map_ofFn]
  rfl

theorem rank_permuted (values : List α) (permutation : Equiv.Perm (Fin values.length)) :
    rank (List.ofFn fun index => values[permutation index]) =
      List.ofFn fun index => (rank values).getD (permutation index) 0 := by
  have permuted : (List.ofFn fun index => values[permutation index]).Perm values := by
    have reordered := permutation.ofFn_comp_perm values.get
    rwa [List.ofFn_get] at reordered
  rw [rank_ofFn, midRank_perm permuted]
  congr 1
  funext index
  have bound : (permutation index : Nat) < (rank values).length := by simp
  rw [List.getD_eq_getElem _ _ bound]
  simp only [rank_eq_map, List.getElem_map]
  rfl

variable {β : Type v} [LinearOrder β]

theorem rank_map {f : α → β} (increasing : StrictMonoOn f {value | value ∈ values}) :
    rank (values.map f) = rank values := by
  rw [rank_eq_map, rank_eq_map, List.map_map]
  apply List.map_congr_left
  intro value member
  have below : (values.map f).countP (· < f value) = values.countP (· < value) := by
    rw [List.countP_map]
    apply List.countP_congr
    intro other otherMember
    simpa using increasing.lt_iff_lt otherMember member
  have equal : (values.map f).countP (· = f value) = values.countP (· = value) := by
    rw [List.countP_map]
    apply List.countP_congr
    intro other otherMember
    simpa using increasing.eq_iff_eq otherMember member
  rw [Function.comp_apply, midRank, midRank, below, equal]

end MidRank

/-! ## Ranks of a list -/

structure MidRanked {α : Type u} [LinearOrder α] (values : List α) : Prop where
  entries : rank values = values.map fun value =>
    (values.countP (· < value) : Rat) + ((values.countP (· = value) : Rat) + 1) / 2
  sum : (rank values).sum = (values.length : Rat) * (values.length + 1) / 2
  permuted : ∀ permutation : Equiv.Perm (Fin values.length),
    rank (List.ofFn fun index => values[permutation index]) =
      List.ofFn fun index => (rank values).getD (permutation index) 0
  increasing : ∀ {β : Type v} [LinearOrder β] (f : α → β),
    StrictMonoOn f {value | value ∈ values} → rank (values.map f) = rank values

theorem midRanked {α : Type u} [LinearOrder α] (values : List α) :
    MidRanked.{u, v} values where
  entries := by
    rw [rank_eq_map]
    apply List.map_congr_left
    intro value _
    rw [midRank]
    push_cast
    rfl
  sum := sum_rank values
  permuted := rank_permuted values
  increasing _ increasing := rank_map increasing

/-- Ranks are mid-ranks, and the rank correlation sees only the order of the
evaluator scores. -/
theorem rank_computes_mid_ranks :
    (∀ {α : Type u} [LinearOrder α] (values : List α), MidRanked.{u, v} values) ∧
      ∀ (squareRoot : Rat → Rat) (evaluatorScores : List Rat) (goldLabels : List Int)
        (f : Rat → Rat), StrictMonoOn f {score | score ∈ evaluatorScores} →
        spearmanCorrelation squareRoot (evaluatorScores.map f) goldLabels =
          spearmanCorrelation squareRoot evaluatorScores goldLabels := by
  constructor
  · intro α order values
    exact midRanked values
  · intro squareRoot evaluatorScores goldLabels f increasing
    rw [spearmanCorrelation, spearmanCorrelation, List.length_map, rank_map increasing]

/-- Doubling the scores keeps their correlation with the labels. -/
theorem rank_computes_mid_ranks_doubled :
    spearmanCorrelation Rat.sqrt ([0, 0, 1, 1].map (2 * ·)) [1, 1, 5, 5] =
      spearmanCorrelation Rat.sqrt [0, 0, 1, 1] [1, 1, 5, 5] :=
  rank_computes_mid_ranks.{0, 0}.2 Rat.sqrt _ _ _ fun _ _ _ _ order =>
    mul_lt_mul_of_pos_left order two_pos

end EvalForge
