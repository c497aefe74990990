import AdmissionForecast.ExitCode
import AdmissionForecast.Proofs.Detection.Offline
import AdmissionForecast.Proofs.Pass.Reports

/-! # Settings without influence

The number of workers, the field manager, the version of the policy and the notes make no
difference to what passes over a snapshot report. Only the header of the warnings names the
version.
-/

namespace AdmissionForecast

namespace Admission

/-- Lines about failing pods below their header; without any there is no header either. -/
def underHeader (inNamespace : String) (level : LevelVersion) (lines : List String) :
    List String :=
  if lines = [] then [] else header inNamespace level :: lines

theorem exists_lines (inNamespace : String) (level : Level) (pods : List Pod) :
    ∃ lines, ∀ version, warnings inNamespace ⟨level, version⟩ pods =
      underHeader inNamespace ⟨level, version⟩ lines := by
  refine ⟨(groups (failing level pods)).entries.map fun g => s!"{subject g.2}: {g.1}",
    fun version => ?_⟩
  unfold warnings underHeader
  cases (groups (failing level pods)).entries <;> rfl

end Admission

/-- Detections at two versions of the policy that say the same; each names its version in the
header of the warnings. -/
structure Detection.SameAcross (version version' : String) (x y : Detection) : Prop where
  inNamespace : x.inNamespace = y.inNamespace
  category : x.category = y.category
  level : x.level = y.level
  outcome : x.outcome = y.outcome
  warnings : ∃ level lines,
    x.warnings = Admission.underHeader x.inNamespace ⟨level, version⟩ lines ∧
      y.warnings = Admission.underHeader y.inNamespace ⟨level, version'⟩ lines

/-- Results of inspections that say the same, at two versions of the policy. -/
inductive Detector.SameResult (version version' : String) :
    Except DetectError Detection → Except DetectError Detection → Prop
  | ok {x y : Detection} : x.SameAcross version version' y →
      SameResult version version' (.ok x) (.ok y)
  | error (e : DetectError) : SameResult version version' (.error e) (.error e)

/-- Reports at two versions of the policy that say the same, up to the order of failures and
detections. -/
structure PassReport.SameAcross (version version' : String) (r r' : PassReport) : Prop where
  listed : r.listed = r'.listed
  skippedEnforcing : r.skippedEnforcing = r'.skippedEnforcing
  evaluated : r.evaluated = r'.evaluated
  violating : r.violating = r'.violating
  inconclusive : r.inconclusive = r'.inconclusive
  conditions : r.conditions = r'.conditions
  exitCode : ExitCode.ofReport r = ExitCode.ofReport r'
  failures : r.failures.Perm r'.failures
  detections : ∃ ds, List.Forall₂ (Detection.SameAcross version version') r.detections ds ∧
    ds.Perm r'.detections

namespace Detector

variable {d d' : Detector} {ns : Namespace} {nss : List Namespace} {version version' : String}

theorem SameResult.cases
    (h : SameResult version version' (d.inspect ns).result (d'.inspect ns).result) :
    (∃ x y, d.detection? ns = some x ∧ d'.detection? ns = some y ∧
        x.SameAcross version version' y ∧ d.failure? ns = none ∧ d'.failure? ns = none) ∨
      ∃ f, d.detection? ns = none ∧ d'.detection? ns = none ∧
        d.failure? ns = some f ∧ d'.failure? ns = some f := by
  unfold detection? failure?
  generalize (d.inspect ns).result = a at h ⊢
  generalize (d'.inspect ns).result = b at h ⊢
  cases h with
  | @ok x y hxy => exact .inl ⟨x, y, rfl, rfl, hxy, rfl, rfl⟩
  | error e => exact .inr ⟨_, rfl, rfl, rfl, rfl⟩

theorem SameResult.failure?_eq
    (h : SameResult version version' (d.inspect ns).result (d'.inspect ns).result) :
    d.failure? ns = d'.failure? ns := by
  rcases h.cases with ⟨x, y, -, -, -, hf, hf'⟩ | ⟨f, -, -, hf, hf'⟩ <;> rw [hf, hf']

theorem SameResult.finding?_eq
    (h : SameResult version version' (d.inspect ns).result (d'.inspect ns).result) :
    d.finding? ns = d'.finding? ns := by
  unfold finding?
  rcases h.cases with ⟨x, y, hd, hd', hxy, -⟩ | ⟨f, hd, hd', -⟩
  · rw [hd, hd', Option.bind_some, Option.bind_some, hxy.outcome]
  · rw [hd, hd']

theorem forall₂_detections (h : ∀ ns ∈ nss,
      SameResult version version' (d.inspect ns).result (d'.inspect ns).result) :
    List.Forall₂ (Detection.SameAcross version version') (nss.filterMap d.detection?)
      (nss.filterMap d'.detection?) := by
  induction nss with
  | nil => exact .nil
  | cons ns nss ih =>
    obtain ⟨hns, hrest⟩ := List.forall_mem_cons.mp h
    rw [List.filterMap_cons, List.filterMap_cons]
    rcases hns.cases with ⟨x, y, hd, hd', hxy, -⟩ | ⟨f, hd, hd', -⟩
    · rw [hd, hd']
      exact .cons hxy (ih hrest)
    · rw [hd, hd']
      exact ih hrest

end Detector

theorem PassReport.Tells.sameAcross {d d' : Detector} {all : List Namespace} {r r' : PassReport}
    {version version' : String} (h : r.Tells d all) (h' : r'.Tells d' all)
    (hs : ∀ ns ∈ all, Detector.SameResult version version' (d.inspect ns).result
      (d'.inspect ns).result) : r.SameAcross version version' r' := by
  have hnss : ∀ ns ∈ Namespace.unlabelled all, Detector.SameResult version version'
      (d.inspect ns).result (d'.inspect ns).result :=
    fun ns hns => hs ns (List.mem_filter.mp hns).1
  have hfinding : ∀ ns ∈ Namespace.unlabelled all, d.finding? ns = d'.finding? ns :=
    fun ns hns => (hnss ns hns).finding?_eq
  have hfailures : r.failures.Perm r'.failures := by
    refine h.failures.trans (.trans (.of_eq ?_) h'.failures.symm)
    exact List.filterMap_congr fun ns hns => (hnss ns hns).failure?_eq
  have hviolating : r.violating = r'.violating := by
    rw [h.violating, h'.violating]
    exact List.countP_congr fun ns hns => by rw [hfinding ns hns]
  have hinconclusive : r.inconclusive = r'.inconclusive := by
    rw [h.inconclusive, h'.inconclusive]
    exact List.countP_congr fun ns hns => by rw [hfinding ns hns]
  constructor
  case listed => rw [h.listed, h'.listed]
  case skippedEnforcing => rw [h.skippedEnforcing, h'.skippedEnforcing]
  case evaluated => rw [h.evaluated, h'.evaluated]
  case violating => exact hviolating
  case inconclusive => exact hinconclusive
  case conditions =>
    rw [h.conditions, h'.conditions, Findings.ofVerdicts_congr hfinding]
  case exitCode =>
    rw [ExitCode.ofReport, ExitCode.ofReport, PassReport.hasFailures, PassReport.hasFailures,
      hfailures.isEmpty_eq, hviolating, hinconclusive]
  case failures => exact hfailures
  case detections =>
    obtain ⟨ds, hds, hp⟩ := List.perm_comp_forall₂ h.detections (Detector.forall₂_detections hnss)
    exact ⟨ds, hds, hp.trans h'.detections.symm⟩

namespace Pass

/-- The pass over a snapshot with some settings and the standard checks. -/
def overSnapshot (s : Snapshot) (c : Config) (context : Log.Context) : Pass :=
  ⟨Admission.client s c.policyVersion, Admission.evaluator, c, context⟩

variable {s : Snapshot} {c c' : Config} {context context' : Log.Context} {ns : Namespace}
  {value : String}

/-- A dry run over a snapshot fails in the same way whatever the settings, or else it warns about
the same pods. -/
theorem simulate_overSnapshot (h : ns ∈ s.namespaces) (value : String) :
    (∃ e, ∀ c context,
      ((overSnapshot s c context).detector.simulate ns.name value).result = .error e) ∨
    ∃ level, Level.ofName? value.toLower = some level ∧ ∀ c context,
      ((overSnapshot s c context).detector.simulate ns.name value).result =
        .ok (Admission.warnings ns.name ⟨level, c.policyVersion⟩ (s.failingPods ns.name level)) := by
  have hs (c : Config) (context : Log.Context) :=
    Detector.result_simulate_offline h c.policyVersion value (overSnapshot s c context).detector
  by_cases hf : s.dryRunFailures.contains ns.name = true
  · simp only [hf, if_true] at hs
    exact .inl ⟨_, hs⟩
  · simp only [hf] at hs
    cases hl : Level.ofName? value.toLower with
    | none =>
      simp only [hl] at hs
      exact .inl ⟨_, hs⟩
    | some level =>
      simp only [hl] at hs
      exact .inr ⟨level, rfl, hs⟩

theorem attribution_overSnapshot {level : Level} (hl : Level.ofName? value.toLower = some level) :
    (overSnapshot s c context).detector.attribution ns value =
      .ok (if ¬ ns.IsCustomer ∨ c.attributeUserWorkloads = false then .unknown
        else if (s.failingPods ns.name level).any (·.isUserWorkload) then .userWorkload
        else .operatorWorkload) :=
  Detector.attribution_offline (d := (overSnapshot s c context).detector) hl

theorem sameResult_overSnapshot (h : ns ∈ s.namespaces)
    (hc : c.attributeUserWorkloads = c'.attributeUserWorkloads) :
    Detector.SameResult c.policyVersion c'.policyVersion
      ((overSnapshot s c context).detector.inspect ns).result
      ((overSnapshot s c' context').detector.inspect ns).result := by
  cases hv : ns.askedValue? with
  | none =>
    rw [Detector.result_inspect_of_unasked hv, Detector.result_inspect_of_unasked hv]
    exact .ok ⟨rfl, rfl, rfl, rfl, .privileged, [], rfl, rfl⟩
  | some value =>
    rcases simulate_overSnapshot h value with ⟨e, hs⟩ | ⟨level, hl, hs⟩
    · rw [Detector.result_inspect_of_refused hv (hs c context),
        Detector.result_inspect_of_refused hv (hs c' context')]
      exact .error _
    · obtain ⟨lines, hlines⟩ :=
        Admission.exists_lines ns.name level (s.failingPods ns.name level)
      simp only [hlines] at hs
      by_cases hempty : lines = []
      · simp only [hempty, Admission.underHeader, if_true] at hs
        rw [Detector.result_inspect_of_silent hv (hs c context),
          Detector.result_inspect_of_silent hv (hs c' context')]
        exact .ok ⟨rfl, rfl, rfl, rfl, level, [], rfl, rfl⟩
      · have hne (level : LevelVersion) : Admission.underHeader ns.name level lines ≠ [] := by
          simp [Admission.underHeader, hempty]
        rw [Detector.result_inspect_of_warned hv (hs c context) (hne _),
          Detector.result_inspect_of_warned hv (hs c' context') (hne _),
          attribution_overSnapshot hl, attribution_overSnapshot hl, hc]
        exact .ok ⟨rfl, rfl, rfl, rfl, level, lines, rfl, rfl⟩

/-- Passes over a snapshot end with reports, and all of these say the same whatever the settings,
as long as both attribute violations or neither does. -/
theorem sameAcross_overSnapshot (s : Snapshot) (context context' : Log.Context)
    (hc : c.attributeUserWorkloads = c'.attributeUserWorkloads) :
    (∃ r, (overSnapshot s c context).evaluate.result = .ok r) ∧
      (∃ steps r, (overSnapshot s c context).Yields steps r) ∧
      ∀ r r', (overSnapshot s c context).Reports r → (overSnapshot s c' context').Reports r' →
        r.SameAcross c.policyVersion c'.policyVersion r' := by
  refine ⟨⟨_, result_evaluate rfl⟩, exists_yields rfl, fun r r' h h' => ?_⟩
  exact (h.tells rfl).sameAcross (h'.tells rfl) fun ns hns => sameResult_overSnapshot hns hc

theorem sameAcross_overSnapshot_four_workers :
    let a := (Namespace.named "team-a").addLabel WellKnown.warnLabel "baseline"
    let b := (Namespace.named "team-b").addLabel WellKnown.auditLabel "restricted"
    let web : Pod :=
      { metadata := { name := "web", inNamespace := some "team-a" }, spec := { hostIPC := true } }
    let s : Snapshot := { namespaces := [a, b], pods := [web] }
    let c : Config :=
      { Config.default with
        workers := 4, fieldManager := "nightly", policyVersion := "v1.29", notes := some "" }
    Config.default.attributeUserWorkloads = c.attributeUserWorkloads ∧
      ∀ r, (overSnapshot s c ⟨"run", "host"⟩).Reports r →
        (r.evaluated, r.violating, ExitCode.ofReport r) = (2, 1, .violationsDetected) := by
  intro a b web s c
  have hc : Config.default.attributeUserWorkloads = c.attributeUserWorkloads := rfl
  obtain ⟨⟨r, hr⟩, -, hsame⟩ := sameAcross_overSnapshot s ⟨"run", "host"⟩ ⟨"run", "host"⟩ hc
  have hv : (overSnapshot s Config.default ⟨"run", "host"⟩).evaluate.result.map
      (fun r => (r.evaluated, r.violating, ExitCode.ofReport r)) =
        .ok (2, 1, .violationsDetected) := by
    decide +kernel
  refine ⟨hc, fun r' hr' => ?_⟩
  have h := hsame r r' (.alone hr) hr'
  rw [hr] at hv
  rw [← h.evaluated, ← h.violating, ← h.exitCode]
  exact Except.ok.inj hv

end Pass

end AdmissionForecast
