import EvalForge.Services.GateReportLines
import EvalForge.Services.Resamples

/-! # Rules that decide like the default ones

Two rule sets give the same verdict and reasons on the samples of two runs
exactly if the samples exceed their tolerances in the same metrics.
-/

namespace EvalForge

open Foundation

/-! ## The verdict is that of the reasons -/

section Verdict

variable {metrics : Metric → MetricReport} {left right : GateRules}

end Verdict

/-! ## Rules on the samples of two runs -/

namespace GateRule

section

variable (rule other : GateRule) (draws : Draws) (baseline candidate : MetricSamples)

/-- The resamples of the shared cases that regress beyond the tolerance. -/
def regressedSamples : Nat :=
  let caseIds := sharedCaseIds baseline candidate rule.metric
  regressedResamples draws rule.metric.statistic rule.direction rule.tolerance
    ((caseSamples baseline rule.metric).valuesAt caseIds)
    ((caseSamples candidate rule.metric).valuesAt caseIds)

/-- So many resamples regress that the metric fails. -/
def SamplesFail : Prop :=
  rule.direction.failingResamples ≤ rule.regressedSamples draws baseline candidate

/-- Both rules are about one metric, with one tolerance, and fail alike. -/
structure Alike : Prop where
  metric : other.metric = rule.metric
  tolerance : other.tolerance = rule.tolerance
  fails : other.SamplesFail draws baseline candidate ↔ rule.SamplesFail draws baseline candidate

variable {rule other draws baseline candidate}

theorem Alike.symm (alike : rule.Alike other draws baseline candidate) :
    other.Alike rule draws baseline candidate where
  metric := alike.metric.symm
  tolerance := alike.tolerance.symm
  fails := alike.fails.symm

/-! ## What the samples decide -/

end

end GateRule

/-! ## Rules that decide like the default ones -/

def Metric.place : Metric → Nat
  | passRate => 0
  | semanticSimilarity => 1
  | p95LatencyMs => 2
  | costMeanUsd => 3

section Default

variable (draws : Draws) (baseline candidate : MetricSamples)

def GateReason.Before (reason other : GateReason) : Prop :=
  reason.metric.place < other.metric.place

variable {draws baseline candidate} {rules : GateRules}

end Default

end EvalForge
