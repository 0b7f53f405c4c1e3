import EvalForge.Services.Comparison

/-! # The samples of the items of a run

When every case occurs once, the samples of a metric are those of the items, in
some order, and the sample of a case is the one of its item.
-/

namespace EvalForge

open Foundation

namespace CaseSamples

variable (samples : CaseSamples) {caseId : String}

theorem coe_valuesAt (caseIds : Finset String) :
    (samples.valuesAt caseIds : Multiset Rat) = caseIds.val.map samples.sample := by
  rw [valuesAt, ← Multiset.map_coe, Finset.sort_eq]

theorem coe_values_insert (fresh : caseId ∉ samples.caseIds) (value : Rat) :
    ((samples.insert caseId value).values : Multiset Rat) =
      value ::ₘ (samples.values : Multiset Rat) := by
  have others : ∀ other ∈ samples.caseIds.val,
      (samples.insert caseId value).sample other = samples.sample other := by
    intro other member
    have different : other ≠ caseId := by
      rintro rfl
      exact fresh member
    simp [insert, different]
  calc ((samples.insert caseId value).values : Multiset Rat)
      = (samples.insert caseId value).caseIds.val.map (samples.insert caseId value).sample :=
        coe_valuesAt _ _
    _ = (caseId ::ₘ samples.caseIds.val).map (samples.insert caseId value).sample := by
        rw [show (samples.insert caseId value).caseIds = Insert.insert caseId samples.caseIds from
          rfl, Finset.insert_val_of_notMem fresh]
    _ = value ::ₘ samples.caseIds.val.map samples.sample := by
        rw [Multiset.map_cons, Multiset.map_congr rfl others]
        simp [insert]
    _ = value ::ₘ (samples.values : Multiset Rat) := by
        rw [values, coe_valuesAt]

end CaseSamples

section Collected

variable {metric : Metric} {samples : MetricSamples} {item : ItemRecord}
variable {items : List ItemRecord}

theorem caseIds_collectItem {caseId : String} (other : caseId ≠ item.row.caseId) :
    caseId ∈ (caseSamples (collectItem samples item) metric).caseIds ↔
      caseId ∈ (caseSamples samples metric).caseIds := by
  rw [caseSamples, collectItem_apply]
  cases itemSample metric item with
  | none => rfl
  | some value => simp [CaseSamples.insert, other]

theorem sample_collectItem {caseId : String} (other : caseId ≠ item.row.caseId) :
    (caseSamples (collectItem samples item) metric).sample caseId =
      (caseSamples samples metric).sample caseId := by
  rw [caseSamples, collectItem_apply]
  cases itemSample metric item with
  | none => rfl
  | some value => simp [CaseSamples.insert, other]

theorem sample_foldl_collectItem {caseId : String}
    (others : ∀ item ∈ items, caseId ≠ item.row.caseId) :
    (caseSamples (items.foldl collectItem samples) metric).sample caseId =
      (caseSamples samples metric).sample caseId := by
  induction items generalizing samples with
  | nil => rfl
  | cons first items induction =>
      rw [List.foldl_cons, induction fun item member => others item (List.mem_cons_of_mem _ member),
        sample_collectItem (others first List.mem_cons_self)]

theorem sample_foldl_of_mem (distinct : (items.map (·.row.caseId)).Nodup)
    (member : item ∈ items) {value : Rat} (sampled : itemSample metric item = some value) :
    (caseSamples (items.foldl collectItem samples) metric).sample item.row.caseId = value := by
  induction items generalizing samples with
  | nil => cases member
  | cons first items induction =>
      rw [List.map_cons, List.nodup_cons] at distinct
      rw [List.foldl_cons]
      rcases List.mem_cons.mp member with rfl | member
      · rw [sample_foldl_collectItem]
        · rw [caseSamples, collectItem_apply, sampled]
          simp [CaseSamples.insert]
        · intro other otherMember same
          exact distinct.1 (same ▸ List.mem_map_of_mem otherMember)
      · exact induction distinct.2 member

theorem values_foldl_collectItem (distinct : (items.map (·.row.caseId)).Nodup)
    (fresh : ∀ item ∈ items, item.row.caseId ∉ (caseSamples samples metric).caseIds) :
    ((caseSamples (items.foldl collectItem samples) metric).values : Multiset Rat) =
      (caseSamples samples metric).values + (items.filterMap (itemSample metric) : List Rat) := by
  induction items generalizing samples with
  | nil => simp
  | cons first items induction =>
      rw [List.map_cons, List.nodup_cons] at distinct
      have freshRest : ∀ item ∈ items,
          item.row.caseId ∉ (caseSamples (collectItem samples first) metric).caseIds := by
        intro item member
        have other : item.row.caseId ≠ first.row.caseId := by
          intro same
          exact distinct.1 (same ▸ List.mem_map_of_mem member)
        rw [caseIds_collectItem other]
        exact fresh item (List.mem_cons_of_mem _ member)
      rw [List.foldl_cons, induction distinct.2 freshRest, caseSamples, collectItem_apply]
      cases sampled : itemSample metric first with
      | none =>
          rw [List.filterMap_cons_none sampled]
          rfl
      | some value =>
          rw [List.filterMap_cons_some sampled, Option.getD_some,
            CaseSamples.coe_values_insert _ (fresh first List.mem_cons_self),
            Multiset.cons_add, ← Multiset.cons_coe, Multiset.add_cons]

theorem values_collectRunMetricSamples (distinct : (items.map (·.row.caseId)).Nodup)
    (metric : Metric) :
    (caseSamples (collectRunMetricSamples items) metric).values.Perm
      (items.filterMap (itemSample metric)) := by
  have sorted := List.perm_insertionSort
    (fun left right : ItemRecord => left.row.caseId ≤ right.row.caseId) items
  let samples : MetricSamples := fun _ => none
  have fresh : ∀ item ∈ items.insertionSort fun left right => left.row.caseId ≤ right.row.caseId,
      item.row.caseId ∉ (caseSamples samples metric).caseIds := by
    simp [samples, caseSamples, CaseSamples.empty]
  have collected := values_foldl_collectItem
    ((sorted.map (·.row.caseId)).nodup_iff.mpr distinct) fresh
  have start : (caseSamples samples metric).values = [] := by
    simp [samples, caseSamples, CaseSamples.values, CaseSamples.empty]
  rw [start, Multiset.coe_nil, zero_add] at collected
  exact (Multiset.coe_eq_coe.mp collected).trans (sorted.filterMap _)

theorem sample_collectRunMetricSamples (distinct : (items.map (·.row.caseId)).Nodup)
    (member : item ∈ items) {value : Rat} (sampled : itemSample metric item = some value) :
    (caseSamples (collectRunMetricSamples items) metric).sample item.row.caseId = value := by
  have sorted := List.perm_insertionSort
    (fun left right : ItemRecord => left.row.caseId ≤ right.row.caseId) items
  exact sample_foldl_of_mem ((sorted.map (·.row.caseId)).nodup_iff.mpr distinct)
    (sorted.mem_iff.mpr member) sampled

end Collected

/-! ## The points of the report -/

section Points

variable (draws : Draws) (baseline candidate : MetricSamples) (metric : Metric)

theorem baselinePoint_eq :
    (buildMetricReport draws (sampleInput baseline) (sampleInput candidate) metric).baselinePoint =
      roundTo 6 (metric.statistic (caseSamples baseline metric).values) := by
  simp only [buildMetricReport, sampleValues_sampleInput]

theorem candidatePoint_eq :
    (buildMetricReport draws (sampleInput baseline) (sampleInput candidate)
      metric).candidatePoint = roundTo 6 (metric.statistic (caseSamples candidate metric).values) := by
  simp only [buildMetricReport, sampleValues_sampleInput]

end Points

end EvalForge
