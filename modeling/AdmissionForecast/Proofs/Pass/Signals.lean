import AdmissionForecast.ExitCode
import AdmissionForecast.Proofs.Pass.Reports
import AdmissionForecast.Proofs.Rendering

/-! # The exit code of a pass

The exit code is taken from counts of detections and failures, and the conditions from names that
are filed on the way. As both go back to the same inspections, the code tells whether one of them
failed, and otherwise for which verdict a condition is true.
-/

namespace AdmissionForecast

/-- One of the conditions about a verdict is true. -/
def ConditionSet.Fires (set : ConditionSet) (v : Verdict) : Prop :=
  ∃ c cond, set.get? (Findings.conditionType c v) = some cond ∧ cond.status = .true

/-- The inspection of one of the namespaces fails. -/
def Detector.FailsAmong (d : Detector) (nss : List Namespace) : Prop :=
  ∃ ns ∈ nss, ∃ e, (d.inspect ns).result = .error e

/-- A code tells how the inspections of a listing went and what the conditions in the report on
them are: failures come first, then violations, then what could not be decided. -/
structure ExitCode.Signals (d : Detector) (all : List Namespace) (r : PassReport)
    (code : ExitCode) : Prop where
  partialFailure : code = .partialFailure ↔ d.FailsAmong (Namespace.unlabelled all)
  violationsDetected : code = .violationsDetected ↔
    ¬ d.FailsAmong (Namespace.unlabelled all) ∧ r.conditions.Fires .violating
  inconclusive : code = .inconclusive ↔ ¬ d.FailsAmong (Namespace.unlabelled all) ∧
    ¬ r.conditions.Fires .violating ∧ r.conditions.Fires .inconclusive
  clean : code = .clean ↔ ¬ d.FailsAmong (Namespace.unlabelled all) ∧
    ¬ r.conditions.Fires .violating ∧ ¬ r.conditions.Fires .inconclusive
  silent : code = .clean → r.conditions.firing = []
  decided : code = .clean → ∀ ns ∈ Namespace.unlabelled all, ∃ x,
    (d.inspect ns).result = .ok x ∧ x ∈ r.detections ∧ x.outcome = .notViolating
  detected : code = .clean → ∀ x ∈ r.detections, x.outcome = .notViolating
  outcome : code ∈ [.clean, .violationsDetected, .inconclusive, .partialFailure]

namespace ExitCode

variable {r : PassReport}

theorem ofReport_eq_partialFailure_iff :
    ofReport r = .partialFailure ↔ r.hasFailures = true := by
  unfold ofReport
  split_ifs <;> simp_all

theorem ofReport_eq_violationsDetected_iff :
    ofReport r = .violationsDetected ↔ ¬ r.hasFailures = true ∧ 0 < r.violating := by
  unfold ofReport
  split_ifs <;> simp_all

theorem ofReport_eq_inconclusive_iff : ofReport r = .inconclusive ↔
    ¬ r.hasFailures = true ∧ ¬ 0 < r.violating ∧ 0 < r.inconclusive := by
  unfold ofReport
  split_ifs <;> simp_all

theorem ofReport_eq_clean_iff : ofReport r = .clean ↔
    ¬ r.hasFailures = true ∧ ¬ 0 < r.violating ∧ ¬ 0 < r.inconclusive := by
  unfold ofReport
  split_ifs <;> simp_all

theorem ofReport_mem (r : PassReport) :
    ofReport r ∈ [clean, violationsDetected, inconclusive, partialFailure] := by
  unfold ofReport
  split_ifs <;> simp

end ExitCode

namespace Findings

variable {f : Findings} {verdict? : Namespace → Option Verdict} {nss : List Namespace}
  {v : Verdict}

theorem fires_render_iff : ConditionSet.Fires f.render v ↔ ∃ c, f.names c v ≠ [] := by
  refine exists_congr fun c => ?_
  rw [get?_render]
  simpa using (lists_condition (conditionType c v) v (f.names c v)).status

theorem firing_render_eq_nil_iff :
    ConditionSet.firing f.render = [] ↔ ∀ v, ¬ ConditionSet.Fires f.render v := by
  simp only [fires_render_iff, not_exists, not_not]
  rw [← List.length_eq_zero_iff, length_firing_render, List.countP_eq_zero]
  constructor
  · intro h v c
    simpa using h (c, v) (mem_table c v)
  · intro h x _
    simp [h x.2 x.1]

theorem exists_names_ofVerdicts_iff :
    (∃ c, (ofVerdicts verdict? nss).names c v ≠ []) ↔ ∃ ns ∈ nss, verdict? ns = some v := by
  simp only [ofVerdicts, ne_eq, List.map_eq_nil_iff, List.filter_eq_nil_iff, decide_eq_true_eq,
    not_forall, not_not, exists_prop]
  constructor
  · rintro ⟨c, ns, hns, -, hv⟩
    exact ⟨ns, hns, hv⟩
  · rintro ⟨ns, hns, hv⟩
    exact ⟨Category.classify ns, ns, hns, rfl, hv⟩

end Findings

namespace PassReport.Tells

variable {d : Detector} {all : List Namespace} {r : PassReport} {v : Verdict}

theorem fires_iff (h : r.Tells d all) :
    r.conditions.Fires v ↔ ∃ ns ∈ Namespace.unlabelled all, d.finding? ns = some v := by
  rw [h.conditions, Findings.fires_render_iff, Findings.exists_names_ofVerdicts_iff]

/-- The conditions about violations go by the same inspections as the count of violations. -/
theorem violating_pos_iff (h : r.Tells d all) : 0 < r.violating ↔ r.conditions.Fires .violating := by
  rw [h.violating, h.fires_iff, List.countP_pos_iff]
  simp only [decide_eq_true_eq]

theorem inconclusive_pos_iff (h : r.Tells d all) :
    0 < r.inconclusive ↔ r.conditions.Fires .inconclusive := by
  rw [h.inconclusive, h.fires_iff, List.countP_pos_iff]
  simp only [decide_eq_true_eq]

theorem hasFailures_iff (h : r.Tells d all) :
    r.hasFailures = true ↔ d.FailsAmong (Namespace.unlabelled all) := by
  have hf : r.hasFailures = true ↔ ∃ f, f ∈ r.failures := by
    simp [hasFailures, List.eq_nil_iff_forall_not_mem]
  simp only [hf, h.failures.mem_iff, List.mem_filterMap, Detector.failure?_eq_some_iff]
  constructor
  · rintro ⟨_, ns, hns, e, he, -⟩
    exact ⟨ns, hns, e, he⟩
  · rintro ⟨ns, hns, e, he⟩
    exact ⟨_, ns, hns, e, he, rfl⟩

theorem firing_eq_nil_iff (h : r.Tells d all) :
    r.conditions.firing = [] ↔ ∀ v, ¬ r.conditions.Fires v := by
  rw [h.conditions, Findings.firing_render_eq_nil_iff]

theorem exists_notViolating (h : r.Tells d all) {ns : Namespace}
    (hfails : ¬ d.FailsAmong (Namespace.unlabelled all)) (hfires : ∀ v, ¬ r.conditions.Fires v)
    (hns : ns ∈ Namespace.unlabelled all) :
    ∃ x, (d.inspect ns).result = .ok x ∧ x ∈ r.detections ∧ x.outcome = .notViolating := by
  cases hr : (d.inspect ns).result with
  | error e => exact absurd ⟨ns, hns, e, hr⟩ hfails
  | ok x =>
    have hd : d.detection? ns = some x := Detector.detection?_eq_some_iff.mpr hr
    have hmem : x ∈ r.detections :=
      h.detections.mem_iff.mpr (List.mem_filterMap.mpr ⟨ns, hns, hd⟩)
    have hnone : x.outcome.finding? = none := by
      refine Option.eq_none_iff_forall_ne_some.mpr fun v hv => hfires v (h.fires_iff.mpr ?_)
      exact ⟨ns, hns, by rw [Detector.finding?, hd, Option.bind_some, hv]⟩
    refine ⟨x, rfl, hmem, ?_⟩
    cases ho : x.outcome with
    | notViolating => rfl
    | violating a => rw [ho] at hnone; cases hnone
    | inconclusive reason => rw [ho] at hnone; cases hnone

theorem signals_ofReport (h : r.Tells d all) : (ExitCode.ofReport r).Signals d all r := by
  have hclean : ExitCode.ofReport r = .clean ↔ ¬ d.FailsAmong (Namespace.unlabelled all) ∧
      ¬ r.conditions.Fires .violating ∧ ¬ r.conditions.Fires .inconclusive := by
    rw [ExitCode.ofReport_eq_clean_iff, h.hasFailures_iff, h.violating_pos_iff,
      h.inconclusive_pos_iff]
  have hquiet (hc : ExitCode.ofReport r = .clean) : ∀ v, ¬ r.conditions.Fires v
    | .violating => (hclean.mp hc).2.1
    | .inconclusive => (hclean.mp hc).2.2
  constructor
  case partialFailure =>
    rw [ExitCode.ofReport_eq_partialFailure_iff, h.hasFailures_iff]
  case violationsDetected =>
    rw [ExitCode.ofReport_eq_violationsDetected_iff, h.hasFailures_iff, h.violating_pos_iff]
  case inconclusive =>
    rw [ExitCode.ofReport_eq_inconclusive_iff, h.hasFailures_iff, h.violating_pos_iff,
      h.inconclusive_pos_iff]
  case clean => exact hclean
  case silent => exact fun hc => h.firing_eq_nil_iff.mpr (hquiet hc)
  case decided => exact fun hc ns hns => h.exists_notViolating (hclean.mp hc).1 (hquiet hc) hns
  case detected =>
    intro hc x hx
    obtain ⟨ns, hns, hd⟩ := List.mem_filterMap.mp (h.detections.mem_iff.mp hx)
    obtain ⟨x', hr, -, ho⟩ := h.exists_notViolating (hclean.mp hc).1 (hquiet hc) hns
    obtain rfl := Except.ok.inj ((Detector.detection?_eq_some_iff.mp hd).symm.trans hr)
    exact ho
  case outcome => exact ExitCode.ofReport_mem r

end PassReport.Tells

namespace Pass

variable {p : Pass} {all : List Namespace}

/-- A pass with a listing ends with a report. Whichever report it is, its exit code tells whether an
inspection failed, and otherwise for which verdict a condition is true. -/
theorem signals_exitCode (h : p.client.namespaces = .ok all) :
    (∃ r, p.evaluate.result = .ok r) ∧ (∃ steps r, p.Yields steps r) ∧
      ∀ r, p.Reports r → (ExitCode.ofReport r).Signals p.detector all r := by
  refine ⟨⟨_, result_evaluate h⟩, exists_yields h, fun r hr => ?_⟩
  exact (hr.tells h).signals_ofReport

/-- A failing dry run is told before a namespace without a signal, and an enforcing one does not
count. -/
theorem signals_exitCode_failure_first :
    let a := (Namespace.named "team-a").addLabel WellKnown.warnLabel "baseline"
    let b := Namespace.named "team-b"
    let c := (Namespace.named "team-c").addLabel WellKnown.enforceLabel "baseline"
    let p (failing : StringMap Unit) : Pass :=
      ⟨Admission.client { namespaces := [a, b, c], dryRunFailures := failing } "latest",
        Admission.evaluator, default, ⟨"run", "host"⟩⟩
    (∀ failing, (p failing).client.namespaces = .ok [a, b, c]) ∧
    (∀ r, (p (.ofList [("team-a", ())])).Reports r → ExitCode.ofReport r = .partialFailure) ∧
    ∃ r, (p .empty).evaluate.result = .ok r ∧ ExitCode.ofReport r = .inconclusive ∧
      ¬ r.conditions.Fires .violating ∧ r.conditions.Fires .inconclusive := by
  intro a b c p
  have h (failing : StringMap Unit) : (p failing).client.namespaces = .ok [a, b, c] := rfl
  refine ⟨h, fun r hr => ?_, ?_⟩
  · have hfails : (p (.ofList [("team-a", ())])).detector.FailsAmong
        (Namespace.unlabelled [a, b, c]) := ⟨a, by decide +kernel, _, rfl⟩
    exact ((signals_exitCode (h _)).2.2 r hr).partialFailure.mpr hfails
  · obtain ⟨⟨r, hr⟩, -, hsignals⟩ := signals_exitCode (h .empty)
    have hcode : (p .empty).evaluate.result.map ExitCode.ofReport = .ok .inconclusive := by
      decide +kernel
    rw [hr] at hcode
    have hc := Except.ok.inj hcode
    exact ⟨r, hr, hc, ((hsignals r (.alone hr)).inconclusive.mp hc).2⟩

end Pass

end AdmissionForecast
