import AdmissionForecast.Proofs.Cluster.Admission
import AdmissionForecast.Proofs.Detection.Inspection

/-! # Detection over a snapshot

Over a snapshot the simulated admission and the search through the listed pods look at the same
pods and at the same checks. A detection therefore says what the failing pods of the namespace
say, whichever versions and field manager are set.
-/

namespace AdmissionForecast

namespace Snapshot

/-- The pods of a namespace that a level forbids. -/
def failingPods (s : Snapshot) (inNamespace : String) (level : Level) : List Pod :=
  s.pods.filter fun pod =>
    pod.metadata.inNamespace = some inNamespace ∧ Check.Forbids level pod.spec

def outcome (ns : Namespace) (attributing : Bool) (failing : List Pod) : Outcome :=
  if failing.isEmpty then .notViolating
  else if ¬ ns.IsCustomer ∨ attributing = false then .violating .unknown
  else if failing.any (·.isUserWorkload) then .violating .userWorkload
  else .violating .operatorWorkload

/-- The verdict on a namespace, read off the snapshot alone. -/
def verdict (s : Snapshot) (version : String) (attributing : Bool) (ns : Namespace) :
    Except ClientError Detection :=
  match ns.askedValue? with
  | none => .ok ⟨ns.name, Category.classify ns, none, .inconclusive .noSignal, []⟩
  | some value =>
    if s.dryRunFailures.contains ns.name then
      .error (.request "dry-run apply" ns.name "simulated failure")
    else match Level.ofName? value.toLower with
      | none => .error (.request "dry-run apply" ns.name (InvalidLevel.message ⟨value.toLower⟩))
      | some level =>
        let failing := s.failingPods ns.name level
        .ok ⟨ns.name, Category.classify ns, some value, outcome ns attributing failing,
          Admission.warnings ns.name ⟨level, version⟩ failing⟩

end Snapshot

namespace Admission

variable {s : Snapshot} {ns : Namespace} {level : Level}

theorem failingPods_eq (s : Snapshot) (inNamespace : String) (level : Level) :
    s.failingPods inNamespace level =
      (s.podsIn inNamespace).filter fun pod => Check.Forbids level pod.spec := by
  simp [Snapshot.failingPods, Snapshot.podsIn, List.filter_filter, Bool.and_comm]

theorem warnings_failingPods (s : Snapshot) (inNamespace version : String) (level : Level) :
    warnings inNamespace ⟨level, version⟩ (s.failingPods inNamespace level) =
      warnings inNamespace ⟨level, version⟩ (s.podsIn inNamespace) := by
  unfold warnings
  rw [failingPods_eq, failing_filter_forbids]

theorem warnings_failingPods_eq_nil_iff {s : Snapshot} {inNamespace version : String}
    {level : Level} : warnings inNamespace ⟨level, version⟩ (s.failingPods inNamespace level) = [] ↔
      s.failingPods inNamespace level = [] := by
  rw [warnings_eq_nil_iff, List.eq_nil_iff_forall_not_mem]
  refine forall_congr' fun pod => ⟨fun h hp => h hp ?_, fun h hp => absurd hp h⟩
  exact (of_decide_eq_true (List.mem_filter.mp hp).2).2

end Admission

namespace Detector

variable {d : Detector} {s : Snapshot} {ns : Namespace} {clusterVersion value : String}
  {level : Level}

/-- The detector with a snapshot for its cluster, and the standard checks. -/
def offline (d : Detector) (s : Snapshot) (clusterVersion : String) : Detector :=
  { d with client := Admission.client s clusterVersion, evaluator := Admission.evaluator }

theorem result_simulate_offline (h : ns ∈ s.namespaces) (clusterVersion value : String)
    (d : Detector) :
    ((d.offline s clusterVersion).simulate ns.name value).result =
      if s.dryRunFailures.contains ns.name then
        .error (.request "dry-run apply" ns.name "simulated failure")
      else match Level.ofName? value.toLower with
        | none => .error (.request "dry-run apply" ns.name (InvalidLevel.message ⟨value.toLower⟩))
        | some level => .ok (Admission.warnings ns.name ⟨level, clusterVersion⟩
            (s.failingPods ns.name level)) := by
  have hv : ((d.offline s clusterVersion).request ns.name value).labels.get?
      WellKnown.enforceLabel = some value := by
    simp [request, StringMap.get?_insert]
  have hs : ((d.offline s clusterVersion).simulate ns.name value).result =
      Admission.answer s clusterVersion ((d.offline s clusterVersion).request ns.name value) := by
    simp only [simulate, offline, Admission.client, Admission.dryRun]
    cases Admission.answer s clusterVersion _ <;> rfl
  rw [hs, Admission.answer_of_listed ⟨ns, h, rfl⟩ hv]
  simp only [Admission.warnings_failingPods]
  rfl

theorem forbids_offline (d : Detector) (version : String) (pod : Pod) :
    (d.offline s clusterVersion).forbids ⟨level, version⟩ pod =
      decide (Check.Forbids level pod.spec) := by
  rw [Bool.eq_iff_iff, decide_eq_true_iff, ← Check.any_evaluateAll_iff]
  rfl

theorem foreignNamespace?_of_mem {pod : Pod} (h : pod ∈ s.podsIn ns.name) :
    foreignNamespace? ns.name pod = none := by
  have hn : pod.metadata.inNamespace = some ns.name := by simpa using (List.mem_filter.mp h).2
  simp [foreignNamespace?, hn]

/-- No pod that a snapshot lists is foreign, so only a failing pod of an end user decides. -/
theorem decides_offline_iff (d : Detector) {pod : Pod} (h : pod ∈ s.podsIn ns.name) :
    (d.offline s clusterVersion).decides ns.name ⟨level, d.version⟩ pod = true ↔
      pod.isUserWorkload = true ∧ Check.Forbids level pod.spec := by
  simp [decides, foreignNamespace?_of_mem h, forbids_offline]

theorem any_failingPods_iff :
    (s.failingPods ns.name level).any (·.isUserWorkload) = true ↔
      ∃ pod ∈ s.podsIn ns.name, pod.isUserWorkload = true ∧ Check.Forbids level pod.spec := by
  simp only [Admission.failingPods_eq, List.any_eq_true, List.mem_filter, decide_eq_true_eq,
    and_assoc, and_comm (a := Check.Forbids _ _)]

theorem attributionOf_offline (d : Detector) (level : Level) :
    (d.offline s clusterVersion).attributionOf ns.name ⟨level, d.version⟩ (s.podsIn ns.name) =
      .ok (if (s.failingPods ns.name level).any (·.isUserWorkload) then .userWorkload
        else .operatorWorkload) := by
  unfold attributionOf
  split
  · rename_i hfind
    have hn : ¬ (s.failingPods ns.name level).any (·.isUserWorkload) = true := by
      rw [any_failingPods_iff]
      rintro ⟨pod, hp, hd⟩
      exact List.find?_eq_none.mp hfind pod hp ((decides_offline_iff d hp).mpr hd)
    rw [if_neg hn]
  · rename_i pod hfind
    have hp := List.mem_of_find?_eq_some hfind
    have hd := (decides_offline_iff d hp).mp (List.find?_some hfind)
    rw [if_pos (any_failingPods_iff.mpr ⟨pod, hp, hd⟩), foreignNamespace?_of_mem hp]

theorem attribution_offline (hl : Level.ofName? value.toLower = some level) :
    (d.offline s clusterVersion).attribution ns value =
      .ok (if ¬ ns.IsCustomer ∨ d.attributeUserWorkloads = false then .unknown
        else if (s.failingPods ns.name level).any (·.isUserWorkload) then .userWorkload
        else .operatorWorkload) := by
  unfold attribution Level.parseAnyCase Level.parse
  rw [hl]
  by_cases hu : ¬ ns.IsCustomer ∨ d.attributeUserWorkloads = false
  · rw [if_pos hu]; exact if_pos hu
  · rw [if_neg hu]; exact (if_neg hu).trans (attributionOf_offline d level)

/-- A detection over a snapshot gives the verdict on the namespace, whatever the settings, and
never fails on its own account. -/
theorem result_inspect_offline (h : ns ∈ s.namespaces) (clusterVersion : String) (d : Detector) :
    ((d.offline s clusterVersion).inspect ns).result =
      (s.verdict clusterVersion d.attributeUserWorkloads ns).mapError .collaborator := by
  unfold Snapshot.verdict
  cases hv : ns.askedValue? with
  | none => exact result_inspect_of_unasked hv
  | some value =>
    have hs := result_simulate_offline h clusterVersion value d
    simp only
    split_ifs at hs ⊢ with hf
    · exact result_inspect_of_refused hv hs
    · cases hl : Level.ofName? value.toLower with
      | none =>
        rw [hl] at hs
        exact result_inspect_of_refused hv hs
      | some level =>
        simp only [hl] at hs ⊢
        by_cases he : s.failingPods ns.name level = []
        · rw [Admission.warnings_failingPods_eq_nil_iff.mpr he] at hs ⊢
          rw [result_inspect_of_silent hv hs, he]
          rfl
        · rw [result_inspect_of_warned hv hs (mt Admission.warnings_failingPods_eq_nil_iff.mp he),
            attribution_offline hl]
          simp only [Snapshot.outcome, List.isEmpty_iff, he, if_false, Except.map, Except.mapError]
          split_ifs <;> rfl

theorem result_inspect_offline_user_pod :
    let ns := (Namespace.named "team-a").annotate WellKnown.sufficientLevelKey "Baseline"
    let elsewhere : Pod :=
      { metadata := { name := "db", inNamespace := some "team-b" }, spec := { hostPID := true } }
    let web : Pod :=
      { metadata := { name := "web", inNamespace := some "team-a" }, spec := { hostIPC := true } }
    let s : Snapshot :=
      { namespaces := [ns]
        pods := [elsewhere, web.annotate WellKnown.subjectTypeKey WellKnown.userSubjectType] }
    let d : Detector := ⟨Admission.client {} "v1.20", Admission.evaluator, "m", "v1.29", true⟩
    ns ∈ s.namespaces ∧
      ((d.offline s "latest").inspect ns).result =
        .ok ⟨"team-a", .customer, some "Baseline", .violating .userWorkload,
          ["existing pods in namespace \"team-a\" violate the new PodSecurity enforce level " ++
            "\"baseline:latest\"", "web: host namespaces"]⟩ := by
  intro ns elsewhere web s d
  have h : ns ∈ s.namespaces := List.mem_singleton.mpr rfl
  exact ⟨h, (result_inspect_offline h "latest" d).trans (by decide +kernel)⟩

end Detector

end AdmissionForecast
