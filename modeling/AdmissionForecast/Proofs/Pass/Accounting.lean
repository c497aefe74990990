import AdmissionForecast.Proofs.Pass.Schedule

/-! # Accounting of a pass

Whichever way a pass comes through its namespaces, its report counts each listed namespace once,
its counts and conditions say what its detections say, and it asks the cluster only about
namespaces that do not enforce a level.
-/

namespace AdmissionForecast

namespace Findings

theorem length_filed_cons (c : Category) (v : Verdict) (x : Detection) (ds : List Detection) :
    (filed c v (x :: ds)).length = (filed c v ds).length +
      if x.category = c ∧ x.outcome.finding? = some v then 1 else 0 := by
  by_cases h : x.category = c ∧ x.outcome.finding? = some v <;> simp [filed, h]

/-- The places of one verdict hold each detection with that verdict once. -/
theorem sum_length_filed (v : Verdict) (ds : List Detection) :
    (Category.all.map fun c => (filed c v ds).length).sum =
      ds.countP fun x => x.outcome.finding? = some v := by
  induction ds with
  | nil => rfl
  | cons x ds ih =>
    simp only [Category.all, List.map_cons, List.map_nil, List.sum_cons, List.sum_nil,
      length_filed_cons, List.countP_cons, decide_eq_true_eq] at ih ⊢
    rw [← ih]
    by_cases hv : x.outcome.finding? = some v
    · cases hc : x.category <;> simp [hv] <;> omega
    · simp [hv]

theorem pairwise_filed {ds : List Detection}
    (h : ds.Pairwise fun a b => a.inNamespace ≤ b.inNamespace) (c : Category) (v : Verdict) :
    (filed c v ds).Pairwise (· ≤ ·) :=
  List.pairwise_map.mpr (h.filter _)

theorem filed_eq_nil_iff {ds : List Detection} {c : Category} {v : Verdict} :
    filed c v ds = [] ↔ ¬ ∃ x ∈ ds, x.category = c ∧ x.outcome.finding? = some v := by
  simp [filed]

end Findings

namespace Namespace

/-- The listed namespaces without an enforce label, whatever its value might be. -/
def unlabelled (all : List Namespace) : List Namespace :=
  all.filter fun ns => ns.label? WellKnown.enforceLabel = none

theorem isEnforcing_eq_false_iff {ns : Namespace} :
    ns.isEnforcing = false ↔ ns.label? WellKnown.enforceLabel = none := by
  simp only [isEnforcing, label?, StringMap.contains, StringMap.get?, List.any_eq_false,
    Option.map_eq_none_iff, List.find?_eq_none]

theorem selectNonEnforcing_fst (all : List Namespace) :
    (selectNonEnforcing all).1 = unlabelled all := by
  refine List.filter_congr fun ns _ => ?_
  rw [Bool.eq_iff_iff, Bool.not_eq_true', isEnforcing_eq_false_iff, decide_eq_true_iff]

end Namespace

/-- A condition is true exactly if a detection is filed under its category and verdict, and it
then lists the names of all these. -/
structure Condition.Reflects (c : Category) (v : Verdict) (ds : List Detection)
    (cond : Condition) : Prop where
  status : cond.status = .true ↔ ∃ x ∈ ds, x.category = c ∧ x.outcome.finding? = some v
  message : cond.status = .true → cond.message = some (v.message (Findings.filed c v ds))
  silent : cond.status = .false → cond.message = none
  sorted : (Findings.filed c v ds).Pairwise (· ≤ ·)

/-- A report on what a pass found in a listing, and the steps of the pass, account for each
namespace. -/
structure PassReport.Accounts (d : Detector) (all : List Namespace) (steps : List DetectStep)
    (found : Findings) (r : PassReport) : Prop where
  listed : r.listed = all.length
  split : r.listed = r.skippedEnforcing + r.evaluated
  evaluated : r.evaluated = r.detections.length + r.failures.length
  names : (r.detections.map (·.inNamespace) ++ r.failures.map (·.inNamespace)).Perm
    ((Namespace.unlabelled all).map (·.name))
  detected : ∀ x ∈ r.detections, ∃ ns ∈ Namespace.unlabelled all, (d.inspect ns).result = .ok x
  failed : ∀ f ∈ r.failures, ∃ ns ∈ Namespace.unlabelled all, ∃ e,
    (d.inspect ns).result = .error e ∧ f = ⟨ns.name, Category.classify ns, e.message⟩
  sorted_detections : r.detections.Pairwise fun a b => a.inNamespace ≤ b.inNamespace
  sorted_failures : r.failures.Pairwise fun a b => a.inNamespace ≤ b.inNamespace
  violating : r.violating = r.detections.countP fun x => x.outcome.finding? = some .violating
  inconclusive :
    r.inconclusive = r.detections.countP fun x => x.outcome.finding? = some .inconclusive
  filed : ∀ v, (Category.all.map fun c => (found.names c v).length).sum =
    r.detections.countP fun x => x.outcome.finding? = some v
  conditions : ∀ c v, ∃ cond, r.conditions.get? (Findings.conditionType c v) = some cond ∧
    cond.Reflects c v r.detections
  tried : (steps.filterMap DetectStep.triedName?).Subperm
    ((Namespace.unlabelled all).map (·.name))
  listed_pods : (steps.filterMap DetectStep.listedName?).Subperm
    ((Namespace.unlabelled all).map (·.name))

namespace Pass

variable {p : Pass} {all nss order : List Namespace} {done : Progress} {steps : List DetectStep}
  {d : Detector}

theorem reflects_condition {names : List String} {c : Category} {v : Verdict} {ds : List Detection}
    (h : (Findings.filed c v ds).Perm names)
    (hs : ds.Pairwise fun a b => a.inNamespace ≤ b.inNamespace) (type : String) :
    (Findings.condition type v names).Reflects c v ds := by
  have hp := Findings.pairwise_filed hs c v
  rw [Findings.condition_of_sorted h hp]
  by_cases hf : Findings.filed c v ds = []
  · rw [if_pos hf]
    exact ⟨by simpa using Findings.filed_eq_nil_iff.mp hf, nofun, fun _ => rfl, hp⟩
  · rw [if_neg hf]
    exact ⟨by simpa using not_not.mp (mt Findings.filed_eq_nil_iff.mpr hf), fun _ => rfl, nofun, hp⟩

section Requests

variable {name? : DetectStep → Option String}

theorem requests_evaluateOne (hl : ∀ e, name? (.logged e) = none) (ns : Namespace) :
    (p.evaluateOne ns).steps.filterMap name? = (p.detector.inspect ns).steps.filterMap name? := by
  have he : ∃ e, p.evaluatedEvent ns (p.detector.inspect ns).result = .logged e := by
    unfold evaluatedEvent
    split <;> exact ⟨_, rfl⟩
  obtain ⟨e, he⟩ := he
  simp [evaluateOne, he, hl]

theorem requests_stepsOf (hl : ∀ e, name? (.logged e) = none)
    (hi : ∀ ns, ((p.detector.inspect ns).steps.filterMap name?).Sublist [ns.name])
    (nss : List Namespace) :
    ((p.stepsOf nss).filterMap name?).Sublist (nss.map (·.name)) := by
  induction nss with
  | nil => exact List.Sublist.refl _
  | cons ns nss ih =>
    have hn := hi ns
    rw [← requests_evaluateOne hl] at hn
    simpa [stepsOf] using hn.append ih

/-- Before and after the evaluations a pass logs, and asks nothing. -/
theorem requests_around (hl : ∀ e, name? (.logged e) = none) (all : List Namespace)
    (steps : List DetectStep) (r : PassReport) :
    (p.opening all ++ steps ++ p.closing r).filterMap name? = steps.filterMap name? := by
  have hs : ((all.filter (·.isEnforcing)).map p.skippedEvent).filterMap name? = [] := by
    simp [List.filterMap_map, List.filterMap_eq_nil_iff, skippedEvent, event, hl]
  simp [opening, closing, hs, startedEvent, listedEvent, renderedEvent, finishedEvent, event, hl]

theorem subperm_requests (hl : ∀ e, name? (.logged e) = none)
    (hi : ∀ ns, ((p.detector.inspect ns).steps.filterMap name?).Sublist [ns.name])
    (hs : steps.Perm (p.stepsOf nss)) (all : List Namespace) (r : PassReport) :
    ((p.opening all ++ steps ++ p.closing r).filterMap name?).Subperm (nss.map (·.name)) := by
  rw [requests_around hl]
  exact (hs.filterMap name?).subperm.trans (requests_stepsOf hl hi nss).subperm

end Requests

theorem perm_detections_reportOn (h : done.Covers p.detector order)
    (ho : order.Perm (Namespace.unlabelled all)) :
    (p.reportOn all done).detections.Perm
      ((Namespace.unlabelled all).filterMap p.detector.detection?) := by
  refine (perm_sortedBy ..).trans ?_
  rw [h.detections]
  exact ho.filterMap _

theorem perm_failures_reportOn (h : done.Covers p.detector order)
    (ho : order.Perm (Namespace.unlabelled all)) :
    (p.reportOn all done).failures.Perm
      ((Namespace.unlabelled all).filterMap p.detector.failure?) := by
  refine (perm_sortedBy ..).trans ?_
  rw [h.failures]
  exact ho.filterMap _

theorem evaluated_reportOn (p : Pass) (all : List Namespace) (done : Progress) :
    (p.reportOn all done).evaluated = (Namespace.unlabelled all).length :=
  congrArg List.length (Namespace.selectNonEnforcing_fst all)

theorem countP_reportOn (p : Pass) (all : List Namespace) (done : Progress)
    (q : Detection → Bool) :
    (p.reportOn all done).detections.countP q = done.detections.countP q :=
  (perm_sortedBy ..).countP_eq q

theorem violating_reportOn (p : Pass) (all : List Namespace) (done : Progress) :
    (p.reportOn all done).violating =
      (p.reportOn all done).detections.countP fun x => x.outcome.finding? = some .violating := by
  simp only [countP_reportOn, ← Outcome.isViolating_eq]
  rfl

theorem inconclusive_reportOn (p : Pass) (all : List Namespace) (done : Progress) :
    (p.reportOn all done).inconclusive =
      (p.reportOn all done).detections.countP fun x => x.outcome.finding? = some .inconclusive := by
  simp only [countP_reportOn, ← Outcome.isInconclusive_eq]
  rfl

theorem filed_reportOn (h : done.Covers p.detector order) (all : List Namespace) (c : Category)
    (v : Verdict) :
    (Findings.filed c v (p.reportOn all done).detections).Perm (done.findings.names c v) := by
  rw [h.names]
  exact Findings.filed_perm (perm_sortedBy ..) c v

theorem exists_of_mem_detections (h : done.Covers p.detector order)
    (ho : order.Perm (Namespace.unlabelled all)) {x : Detection}
    (hx : x ∈ (p.reportOn all done).detections) :
    ∃ ns ∈ Namespace.unlabelled all, (p.detector.inspect ns).result = .ok x := by
  rw [(perm_detections_reportOn h ho).mem_iff, List.mem_filterMap] at hx
  obtain ⟨ns, hns, hx⟩ := hx
  exact ⟨ns, hns, Detector.detection?_eq_some_iff.mp hx⟩

theorem exists_of_mem_failures (h : done.Covers p.detector order)
    (ho : order.Perm (Namespace.unlabelled all)) {f : NamespaceFailure}
    (hf : f ∈ (p.reportOn all done).failures) :
    ∃ ns ∈ Namespace.unlabelled all, ∃ e, (p.detector.inspect ns).result = .error e ∧
      f = ⟨ns.name, Category.classify ns, e.message⟩ := by
  rw [(perm_failures_reportOn h ho).mem_iff, List.mem_filterMap] at hf
  obtain ⟨ns, hns, hf⟩ := hf
  exact ⟨ns, hns, Detector.failure?_eq_some_iff.mp hf⟩

theorem accounts_reportOn (h : done.Covers p.detector order)
    (ho : order.Perm (Namespace.unlabelled all))
    (hs : steps.Perm (p.stepsOf (Namespace.unlabelled all))) :
    (p.reportOn all done).Accounts p.detector all
      (p.opening all ++ steps ++ p.closing (p.reportOn all done)) done.findings where
  listed := rfl
  split := (Nat.sub_add_cancel (List.length_filter_le ..)).symm
  evaluated := by
    rw [evaluated_reportOn, (perm_detections_reportOn h ho).length_eq,
      (perm_failures_reportOn h ho).length_eq]
    exact (p.detector.length_detections_add_length_failures _).symm
  names := ((perm_detections_reportOn h ho).map _).append ((perm_failures_reportOn h ho).map _)
    |>.trans (p.detector.names_perm _)
  detected _ := exists_of_mem_detections h ho
  failed _ := exists_of_mem_failures h ho
  sorted_detections := pairwise_sortedBy ..
  sorted_failures := pairwise_sortedBy ..
  violating := violating_reportOn p all done
  inconclusive := inconclusive_reportOn p all done
  filed v := by simp only [← (filed_reportOn h all _ v).length_eq, Findings.sum_length_filed]
  conditions c v := ⟨_, Findings.get?_render done.findings c v,
    reflects_condition (filed_reportOn h all c v) (pairwise_sortedBy ..) _⟩
  tried := subperm_requests (fun _ => rfl) (fun ns => (p.detector.requests_inspect ns).1) hs _ _
  listed_pods :=
    subperm_requests (fun _ => rfl) (fun ns => (p.detector.requests_inspect ns).2) hs _ _

end Pass

end AdmissionForecast
