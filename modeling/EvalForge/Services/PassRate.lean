import EvalForge.Services.CollectedSamples
import EvalForge.Services.FaultedRuns

/-! # The pass rate counts every case

Every run item has one sample of the pass rate, whatever its result rows are.
Errored rows, failed rows and missing rows never raise it.
-/

namespace EvalForge

open Foundation

structure EvalResult.Applicable (result : EvalResult) : Prop where
  applied : result.skipped = false
  ran : result.errored = false
  decided : result.passed.isSome

/-- Some evaluator applies, none failed to run, and all that apply passed. -/
structure ItemRecord.Passes (item : ItemRecord) : Prop where
  applies : ∃ result ∈ item.results, result.Applicable
  ran : ∀ result ∈ item.results, result.errored = false
  passed : ∀ result ∈ item.results, result.Applicable → result.passed = some true

inductive ResultFault : List EvalResult → List EvalResult → Prop
  | errored (before after : List EvalResult) (result faulty : EvalResult)
      (errored : faulty.errored = true) :
      ResultFault (before ++ result :: after) (before ++ faulty :: after)
  | failed (before after : List EvalResult) (result : EvalResult)
      (passed : result.passed = some true) :
      ResultFault (before ++ result :: after)
        (before ++ { result with passed := some false } :: after)
  | removed (results : List EvalResult) : ResultFault results []

inductive RunFault : List ItemRecord → List ItemRecord → Prop
  | item (before after : List ItemRecord) (item : ItemRecord) (results : List EvalResult)
      (fault : ResultFault item.results results) :
      RunFault (before ++ item :: after) (before ++ { item with results } :: after)

structure PassRatePoints (draws : Draws) (items : List ItemRecord) (point : Rat) : Prop where
  baseline : ∀ other : MetricSamples,
    (buildMetricReport draws (sampleInput (collectRunMetricSamples items)) (sampleInput other)
      .passRate).baselinePoint = point
  candidate : ∀ other : MetricSamples,
    (buildMetricReport draws (sampleInput other) (sampleInput (collectRunMetricSamples items))
      .passRate).candidatePoint = point

/-! ## When a case passes -/

section

variable {item : ItemRecord} {result : EvalResult} {original results : List EvalResult}

theorem mem_applicable :
    result ∈ item.results.filter (fun result =>
        !result.skipped && !result.errored && result.passed.isSome) ↔
      result ∈ item.results ∧ result.Applicable := by
  simp only [List.mem_filter, Bool.and_eq_true, Bool.not_eq_true']
  constructor
  · rintro ⟨member, ⟨applied, ran⟩, decided⟩
    exact ⟨member, applied, ran, decided⟩
  · rintro ⟨member, applied, ran, decided⟩
    exact ⟨member, ⟨applied, ran⟩, decided⟩

theorem ItemRecord.casePassed_iff : item.casePassed = true ↔ item.Passes := by
  simp only [ItemRecord.casePassed, Bool.and_eq_true, List.all_eq_true, beq_iff_eq,
    Bool.not_eq_true', List.isEmpty_eq_false_iff_exists_mem, List.any_eq_false,
    Bool.not_eq_true, mem_applicable]
  constructor
  · rintro ⟨⟨applies, ran⟩, passed⟩
    exact ⟨applies, ran, fun other member applicable => passed other ⟨member, applicable⟩⟩
  · rintro ⟨applies, ran, passed⟩
    exact ⟨⟨applies, ran⟩, fun other applies => passed other applies.1 applies.2⟩

instance ItemRecord.decidablePasses (item : ItemRecord) : Decidable item.Passes :=
  decidable_of_iff _ ItemRecord.casePassed_iff

theorem ItemRecord.itemSample_passRate (item : ItemRecord) :
    itemSample .passRate item = some (if item.Passes then 1 else 0) := by
  simp only [itemSample, ItemRecord.casePassed_iff]

/-! ## A fault never lets a case pass -/

theorem eq_or_mem_replaced {other replaced : EvalResult} {before after : List EvalResult}
    (replacement : EvalResult) (member : other ∈ before ++ replaced :: after) :
    other = replaced ∨ other ∈ before ++ replacement :: after := by
  rcases List.mem_append.mp member with first | last
  · exact .inr (List.mem_append_left _ first)
  · rcases List.mem_cons.mp last with same | last
    · exact .inl same
    · exact .inr (List.mem_append_right _ (List.mem_cons_of_mem _ last))

theorem ResultFault.passes (fault : ResultFault original results)
    (passes : ({ item with results } : ItemRecord).Passes) :
    ({ item with results := original } : ItemRecord).Passes := by
  rcases passes with ⟨⟨applied, appliedMember, applicable⟩, ran, passed⟩
  dsimp only at appliedMember ran passed
  cases fault with
  | removed => cases appliedMember
  | errored before after result faulty errored =>
      have notErrored := ran faulty List.mem_append_cons_self
      rw [errored] at notErrored
      cases notErrored
  | failed before after result wasPassed =>
      have resultRan : result.errored = false :=
        ran { result with passed := some false } List.mem_append_cons_self
      -- The failed row passes nothing, so it was skipped before and after.
      have skipped : ¬result.skipped = false := by
        intro notSkipped
        have failedPassed := passed _ List.mem_append_cons_self ⟨notSkipped, resultRan, rfl⟩
        cases failedPassed
      constructor
      · rcases eq_or_mem_replaced result appliedMember with rfl | member
        · exact absurd applicable.applied skipped
        · exact ⟨applied, member, applicable⟩
      · intro other member
        rcases eq_or_mem_replaced { result with passed := some false } member with rfl | member
        · exact resultRan
        · exact ran other member
      · intro other member otherApplicable
        rcases eq_or_mem_replaced { result with passed := some false } member with rfl | member
        · exact absurd otherApplicable.applied skipped
        · exact passed other member otherApplicable

theorem ResultFault.sampleBelow (fault : ResultFault item.results results) :
    SampleBelow .passRate { item with results } item := by
  refine ⟨rfl, ?_⟩
  rw [ItemRecord.itemSample_passRate, ItemRecord.itemSample_passRate]
  apply Option.Rel.some
  split
  · next passes => rw [if_pos (fault.passes passes)]
  · split <;> norm_num

end

/-! ## The samples and the points -/

section

variable {items edited : List ItemRecord}

theorem passRate_filterMap (items : List ItemRecord) :
    items.filterMap (itemSample .passRate) =
      items.map fun item => if item.Passes then (1 : Rat) else 0 := by
  rw [← List.filterMap_eq_map]
  apply List.filterMap_congr
  intro item _
  exact item.itemSample_passRate

theorem sum_passRate (items : List ItemRecord) :
    (items.map fun item => if item.Passes then (1 : Rat) else 0).sum =
      items.countP fun item => item.Passes := by
  induction items with
  | nil => rfl
  | cons item items induction =>
      rw [List.map_cons, List.sum_cons, induction, List.countP_cons]
      by_cases passes : item.Passes <;> simp [passes, add_comm]

theorem caseIds_foldl_collectItem (items : List ItemRecord) (samples : MetricSamples) :
    (caseSamples (items.foldl collectItem samples) .passRate).caseIds =
      (caseSamples samples .passRate).caseIds ∪ (items.map (·.row.caseId)).toFinset := by
  induction items generalizing samples with
  | nil => simp
  | cons item items induction =>
      rw [List.foldl_cons, induction, caseSamples, collectItem_apply, item.itemSample_passRate]
      simp [CaseSamples.insert]

theorem passRate_caseIds (items : List ItemRecord) :
    (caseSamples (collectRunMetricSamples items) .passRate).caseIds =
      (items.map (·.row.caseId)).toFinset := by
  have sorted := List.perm_insertionSort
    (fun left right : ItemRecord => left.row.caseId ≤ right.row.caseId) items
  rw [collectRunMetricSamples, caseIds_foldl_collectItem,
    List.toFinset_eq_of_perm _ _ (sorted.map (·.row.caseId))]
  simp [caseSamples, CaseSamples.empty]

theorem average_passRate (distinct : (items.map (·.row.caseId)).Nodup) :
    average (caseSamples (collectRunMetricSamples items) .passRate).values =
      if items = [] then 0
      else ((items.countP fun item => item.Passes : Nat) : Rat) / (items.length : Nat) := by
  rw [average_perm (values_collectRunMetricSamples distinct .passRate), passRate_filterMap,
    average, sum_passRate]
  simp

theorem passRatePoints (draws : Draws) (items : List ItemRecord) :
    PassRatePoints draws items
      (roundTo 6 (average (caseSamples (collectRunMetricSamples items) .passRate).values)) :=
  ⟨fun other => baselinePoint_eq draws _ other .passRate,
    fun other => candidatePoint_eq draws other _ .passRate⟩

theorem RunFault.below (fault : RunFault items edited) :
    (caseSamples (collectRunMetricSamples edited) .passRate).Below
      (caseSamples (collectRunMetricSamples items) .passRate) := by
  cases fault with
  | item before after item results fault =>
      exact collectRunMetricSamples_below (forall₂_replace fault.sampleBelow)

theorem CaseSamples.Below.trans {first second third : CaseSamples} (lower : first.Below second)
    (upper : second.Below third) : first.Below third :=
  ⟨lower.caseIds.trans upper.caseIds,
    fun caseId => (lower.sample_le caseId).trans (upper.sample_le caseId)⟩

theorem faults_below (faults : Relation.ReflTransGen RunFault items edited) :
    (caseSamples (collectRunMetricSamples edited) .passRate).Below
      (caseSamples (collectRunMetricSamples items) .passRate) := by
  induction faults with
  | refl => exact .refl _
  | tail _ fault induction => exact fault.below.trans induction

theorem CaseSamples.Below.average_le {lower upper : CaseSamples} (below : lower.Below upper) :
    average lower.values ≤ average upper.values := by
  apply average_monotone
  rw [CaseSamples.values, CaseSamples.values, below.caseIds]
  exact CaseSamples.forall₂_valuesAt fun caseId _ => below.sample_le caseId

end

/-- Every item has one sample, the point is the share of the items that pass, and
faults in the rows raise neither. -/
theorem pass_rate_counts_every_case (draws : Draws) (items : List ItemRecord)
    (nonempty : items ≠ []) (distinct : (items.map (·.row.caseId)).Nodup) :
    (∃ samples, collectRunMetricSamples items .passRate = some samples ∧
      samples.caseIds = (items.map (·.row.caseId)).toFinset ∧
      samples.caseIds.card = items.length ∧
      ∀ item ∈ items, samples.sample item.row.caseId = if item.Passes then 1 else 0) ∧
    PassRatePoints draws items
      (roundTo 6 (((items.countP fun item => item.Passes : Nat) : Rat) / (items.length : Nat))) ∧
    ∀ edited, Relation.ReflTransGen RunFault items edited →
      (caseSamples (collectRunMetricSamples edited) .passRate).Below
          (caseSamples (collectRunMetricSamples items) .passRate) ∧
        ∃ point editedPoint, PassRatePoints draws items point ∧
          PassRatePoints draws edited editedPoint ∧ editedPoint ≤ point := by
  have caseIds := passRate_caseIds items
  refine ⟨?_, ?_, ?_⟩
  · cases collected : collectRunMetricSamples items .passRate with
    | none =>
        rw [caseSamples, collected] at caseIds
        have empty : (items.map (·.row.caseId)).toFinset = ∅ := caseIds.symm
        simp [nonempty] at empty
    | some samples =>
        have same : caseSamples (collectRunMetricSamples items) .passRate = samples := by
          rw [caseSamples, collected, Option.getD_some]
        rw [same] at caseIds
        refine ⟨samples, rfl, caseIds, ?_, ?_⟩
        · rw [caseIds, List.toFinset_card_of_nodup distinct, List.length_map]
        · intro item member
          rw [← same]
          exact sample_collectRunMetricSamples distinct member item.itemSample_passRate
  · have points := passRatePoints draws items
    rw [average_passRate distinct, if_neg nonempty] at points
    exact points
  · intro edited faults
    have below := faults_below faults
    exact ⟨below, _, _, passRatePoints draws items, passRatePoints draws edited,
      roundTo_monotone below.average_le⟩

namespace Scenario

def ratedItem (caseId : String) (passed : Option Bool) (skipped : Bool) : ItemRecord where
  row := {
    id := caseId
    runId := "run-1"
    caseId
    status := .completed }
  results := [{
    evaluatorName := "exact_match"
    score := none
    passed
    skipped
    writtenBy := 0
    nameHeld := exactMatch_held }]

def ratedItems : List ItemRecord :=
  [ratedItem "case-1" (some true) false, ratedItem "case-2" (some false) false,
    ratedItem "case-3" none true]

end Scenario

/-- A fault in the passed row leaves no case that passes. -/
theorem pass_rate_counts_every_case_scenario :
    PassRatePoints Scenario.firstIndex Scenario.ratedItems (roundTo 6 (1 / 3)) ∧
      ∃ point faultedPoint, PassRatePoints Scenario.firstIndex Scenario.ratedItems point ∧
        PassRatePoints Scenario.firstIndex (Scenario.ratedItem "case-1" (some false) false ::
          Scenario.ratedItems.tail) faultedPoint ∧ faultedPoint ≤ point := by
  rcases pass_rate_counts_every_case Scenario.firstIndex Scenario.ratedItems (by decide)
    (by decide) with ⟨_, points, faults⟩
  have count : (Scenario.ratedItems.countP fun item => item.Passes) = 1 := by decide
  have length : Scenario.ratedItems.length = 3 := rfl
  rw [count, length] at points
  refine ⟨by simpa using points, ?_⟩
  have fault : RunFault Scenario.ratedItems (Scenario.ratedItem "case-1" (some false) false ::
      Scenario.ratedItems.tail) :=
    .item [] Scenario.ratedItems.tail (Scenario.ratedItem "case-1" (some true) false) _
      (.failed [] [] _ rfl)
  exact (faults _ (.single fault)).2

end EvalForge
