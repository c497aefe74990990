import AdmissionForecast.Proofs.Detection.Findings
import AdmissionForecast.Proofs.Pass.Accounting

/-! # The reports of a pass

A pass may end with several reports, as its workers may go through the namespaces in several
ways. Up to their order, all of them tell what the inspections of the namespaces without an
enforce label found.
-/

namespace AdmissionForecast

/-- What the inspections of a listing found, up to its order. -/
structure PassReport.Tells (d : Detector) (all : List Namespace) (r : PassReport) : Prop where
  listed : r.listed = all.length
  skippedEnforcing : r.skippedEnforcing = all.length - (Namespace.unlabelled all).length
  evaluated : r.evaluated = (Namespace.unlabelled all).length
  violating : r.violating =
    (Namespace.unlabelled all).countP fun ns => d.finding? ns = some .violating
  inconclusive : r.inconclusive =
    (Namespace.unlabelled all).countP fun ns => d.finding? ns = some .inconclusive
  failures : r.failures.Perm ((Namespace.unlabelled all).filterMap d.failure?)
  detections : r.detections.Perm ((Namespace.unlabelled all).filterMap d.detection?)
  conditions : r.conditions = (Findings.ofVerdicts d.finding? (Namespace.unlabelled all)).render

namespace Pass

variable {p : Pass} {r : PassReport} {all order : List Namespace} {done : Progress}

/-- The reports with which a pass may end, one namespace after the other or with its workers. -/
inductive Reports (p : Pass) (r : PassReport) : Prop where
  | alone : p.evaluate.result = .ok r → Reports p r
  | together {steps : List DetectStep} : p.Yields steps r → Reports p r

theorem Reports.exists_order (h : p.Reports r) (hn : p.client.namespaces = .ok all) :
    ∃ order done, order.Perm (Namespace.unlabelled all) ∧ done.Covers p.detector order ∧
      r = p.reportOn all done := by
  rw [← Namespace.selectNonEnforcing_fst]
  cases h with
  | alone h =>
    rw [result_evaluate hn] at h
    exact ⟨_, _, .refl _, covers_evaluateAll p _, (Except.ok.inj h).symm⟩
  | together h =>
    obtain ⟨hn', hg⟩ := h
    obtain rfl := Except.ok.inj (hn.symm.trans hn')
    obtain ⟨order, ho, hd, -⟩ := hg.exists_order
    exact ⟨order, _, ho, hd, rfl⟩

theorem exists_yields (h : p.client.namespaces = .ok all) : ∃ steps r, p.Yields steps r := by
  obtain ⟨n, hn, hpos, -⟩ := p.workerCount?_eq (Namespace.selectNonEnforcing all).1.length
  by_cases hone : n = 1
  · exact ⟨_, _, .intro h (.alone (hone ▸ hn))⟩
  · obtain ⟨moves, s, hr, hf⟩ := (Crew.sound_start p _ n).exists_finished
    exact ⟨_, _, .intro h (.together hn hone hr hf)⟩

theorem countP_detection? (d : Detector) (v : Verdict) (nss : List Namespace) :
    (nss.filterMap d.detection?).countP (fun x => x.outcome.finding? = some v) =
      nss.countP fun ns => d.finding? ns = some v := by
  rw [List.countP_filterMap]
  refine List.countP_congr fun ns _ => ?_
  cases h : d.detection? ns <;> simp [Detector.finding?, h]

theorem tells_reportOn (hd : done.Covers p.detector order)
    (ho : order.Perm (Namespace.unlabelled all)) :
    (p.reportOn all done).Tells p.detector all where
  listed := rfl
  skippedEnforcing := congrArg (all.length - List.length ·) (Namespace.selectNonEnforcing_fst all)
  evaluated := evaluated_reportOn p all done
  violating := by
    rw [violating_reportOn, (perm_detections_reportOn hd ho).countP_eq, countP_detection?]
  inconclusive := by
    rw [inconclusive_reportOn, (perm_detections_reportOn hd ho).countP_eq, countP_detection?]
  failures := perm_failures_reportOn hd ho
  detections := perm_detections_reportOn hd ho
  conditions := by
    refine Findings.render_congr fun c v => ?_
    rw [hd.names, hd.detections, Detector.filed_filterMap_detection?]
    exact Findings.ofVerdicts_perm ho c v

theorem Reports.tells (h : p.Reports r) (hn : p.client.namespaces = .ok all) :
    r.Tells p.detector all := by
  obtain ⟨order, done, ho, hd, rfl⟩ := h.exists_order hn
  exact tells_reportOn hd ho

end Pass

end AdmissionForecast
