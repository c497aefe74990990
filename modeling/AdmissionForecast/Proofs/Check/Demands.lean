import AdmissionForecast.Proofs.Check.Forbidden
import Mathlib.Data.List.Basic

/-! # What each check demands

Every check is passed by exactly the specs that meet one demand on the pod, on each of its
containers or on each of its volumes. A container that leaves a setting open takes the pod's, and
the demands on such settings are about the value that takes effect.
-/

namespace AdmissionForecast

namespace Container

variable {α : Type} {pod : Option α} {P : α → Prop}

/-- The value that takes effect: the container's own, else the pod's. -/
def effective (own pod : Option α) : Option α := own.or pod

/-- Whether the container has to run as a user other than root. -/
def nonRoot? (spec : PodSpec) (c : Container) : Option Bool :=
  effective (c.security (·.runAsNonRoot)) (spec.security (·.runAsNonRoot))

/-- The kind of the seccomp profile that the container runs under. -/
def confinement? (spec : PodSpec) (c : Container) : Option String :=
  effective c.seccompKind? spec.seccompKind?

/-- Beside a pod that sets nothing bad, all containers end up with a good value exactly if none of
them sets a bad one and, where the pod sets nothing, each of them sets something. -/
theorem forall_exists_effective_iff {own : Container → Option α} {cs : List Container}
    (hpod : ∀ a ∈ pod, P a) :
    (∀ c ∈ cs, ∃ a ∈ effective (own c) pod, P a) ↔
      (∀ c ∈ cs, ∀ a ∈ own c, P a) ∧ (pod = none → ∀ c ∈ cs, (own c).isSome = true) := by
  cases pod with
  | none =>
    simp only [forall_const, ← forall₂_and]
    refine forall₂_congr fun c _ => ?_
    cases own c <;> simp [effective]
  | some b =>
    simp only [reduceCtorEq, false_imp_iff, and_true]
    refine forall₂_congr fun c _ => ?_
    have hb : P b := hpod b rfl
    cases own c <;> simp [effective, hb]

end Container

namespace Check

variable {spec : PodSpec}

theorem about_eq_nil_iff {names : List String} {sentence : List String → String} :
    about names sentence = [] ↔ names = [] := by
  unfold about
  split <;> simp_all

theorem offenders_eq_nil_iff {bad : Container → Bool} :
    offenders bad spec = [] ↔ ∀ c ∈ spec.allContainers, bad c = false := by
  simp [offenders, List.filter_eq_nil_iff]

theorem badVolumes_eq_nil_iff {bad : Volume → Bool} :
    badVolumes bad spec = [] ↔ ∀ v ∈ spec.volumes, bad v = false := by
  simp [badVolumes, List.filter_eq_nil_iff]

namespace Baseline

theorem details_privileged_eq_nil_iff :
    privileged.details spec = [] ↔
      ∀ c ∈ spec.allContainers, c.security (·.privileged) ≠ some true := by
  simp [privileged, about_eq_nil_iff, offenders_eq_nil_iff]

theorem details_hostNamespaces_eq_nil_iff :
    hostNamespaces.details spec = [] ↔
      spec.hostNetwork = false ∧ spec.hostPID = false ∧ spec.hostIPC = false := by
  simp [hostNamespaces, about_eq_nil_iff, sharedHostNamespaces]

theorem details_hostPathVolumes_eq_nil_iff :
    hostPathVolumes.details spec = [] ↔ ∀ v ∈ spec.volumes, v.sourceKind? ≠ some "hostPath" := by
  simp [hostPathVolumes, about_eq_nil_iff, badVolumes_eq_nil_iff]

theorem usedHostPorts_eq_nil_iff {c : Container} :
    usedHostPorts c = [] ↔ ∀ port ∈ c.ports, ∀ p ∈ port.hostPort, p = 0 := by
  simp only [usedHostPorts, List.filter_eq_nil_iff, List.mem_filterMap]
  constructor
  · intro h port hport p hp
    simpa using h p ⟨port, hport, hp⟩
  · rintro h p ⟨port, hport, hp⟩
    simpa using h port hport p hp

theorem details_hostPorts_eq_nil_iff :
    hostPorts.details spec = [] ↔
      ∀ c ∈ spec.allContainers, ∀ port ∈ c.ports, ∀ p ∈ port.hostPort, p = 0 := by
  simp [hostPorts, about_eq_nil_iff, offenders_eq_nil_iff, usedHostPorts_eq_nil_iff]

theorem addedBeyond_eq_nil_iff {allowed : List String} {c : Container} :
    addedBeyond allowed c = [] ↔ ∀ caps ∈ c.capabilities?, ∀ cap ∈ caps.add, cap ∈ allowed := by
  cases h : c.capabilities? <;> simp [addedBeyond, h]

theorem capabilityDetails_eq_nil_iff {allowed : List String} :
    capabilityDetails allowed spec = [] ↔ ∀ c ∈ spec.allContainers,
      ∀ caps ∈ c.capabilities?, ∀ cap ∈ caps.add, cap ∈ allowed := by
  simp [capabilityDetails, about_eq_nil_iff, offenders_eq_nil_iff, addedBeyond_eq_nil_iff]

theorem details_capabilities_eq_nil_iff :
    capabilities.details spec = [] ↔ ∀ c ∈ spec.allContainers,
      ∀ caps ∈ c.capabilities?, ∀ cap ∈ caps.add, cap ∈ allowedCapabilities :=
  capabilityDetails_eq_nil_iff

theorem details_procMount_eq_nil_iff :
    procMount.details spec = [] ↔ ∀ c ∈ spec.allContainers,
      ∀ mount ∈ c.security (·.procMount), mount = "Default" := by
  simp only [procMount, about_eq_nil_iff, offenders_eq_nil_iff]
  refine forall₂_congr fun c _ => ?_
  cases c.security (·.procMount) <;> simp

theorem details_sysctls_eq_nil_iff :
    sysctls.details spec = [] ↔
      ∀ context ∈ spec.securityContext, ∀ sysctl ∈ context.sysctls, sysctl.name ∈ safeSysctls := by
  cases h : spec.securityContext <;> simp [sysctls, about_eq_nil_iff, forbiddenSysctls, h]

theorem details_seccompProfile_eq_nil_iff :
    seccompProfile.details spec = [] ↔ spec.seccompKind? ≠ some "Unconfined" ∧
      ∀ c ∈ spec.allContainers, c.seccompKind? ≠ some "Unconfined" := by
  simp [seccompProfile, isUnconfined, about_eq_nil_iff, offenders_eq_nil_iff]

end Baseline

namespace Restricted

theorem details_privilegeEscalation_eq_nil_iff :
    privilegeEscalation.details spec = [] ↔
      ∀ c ∈ spec.allContainers, c.security (·.allowPrivilegeEscalation) = some false := by
  simp [privilegeEscalation, about_eq_nil_iff, offenders_eq_nil_iff]

theorem dropsAll_iff {c : Container} :
    dropsAll c = true ↔ ∃ caps ∈ c.capabilities?, "ALL" ∈ caps.drop := by
  cases h : c.capabilities? <;> simp [dropsAll, h]

theorem details_capabilities_eq_nil_iff :
    capabilities.details spec = [] ↔ ∀ c ∈ spec.allContainers, ∃ caps ∈ c.capabilities?,
      "ALL" ∈ caps.drop ∧ ∀ cap ∈ caps.add, cap = "NET_BIND_SERVICE" := by
  simp only [capabilities, List.append_eq_nil_iff, about_eq_nil_iff, offenders_eq_nil_iff,
    Baseline.capabilityDetails_eq_nil_iff, Bool.not_eq_false', dropsAll_iff, List.mem_singleton,
    ← forall₂_and]
  refine forall₂_congr fun c _ => ?_
  cases c.capabilities? <;> simp

theorem details_runAsNonRoot_eq_nil_iff :
    runAsNonRoot.details spec = [] ↔ (∀ b ∈ spec.security (·.runAsNonRoot), b = true) ∧
      ∀ c ∈ spec.allContainers, ∃ b ∈ c.nonRoot? spec, b = true := by
  have hpod : (if spec.security (·.runAsNonRoot) = some false then
      ["pod must not set securityContext.runAsNonRoot=false"] else []) = [] ↔
        ∀ b ∈ spec.security (·.runAsNonRoot), b = true := by
    cases spec.security (·.runAsNonRoot) <;> simp
  simp only [runAsNonRoot, List.append_eq_nil_iff, hpod, and_assoc]
  refine and_congr_right fun hpod => ?_
  simp only [Container.nonRoot?, Container.forall_exists_effective_iff hpod]
  refine and_congr ?_ ?_
  · simp only [about_eq_nil_iff, offenders_eq_nil_iff]
    refine forall₂_congr fun c _ => ?_
    cases c.security (·.runAsNonRoot) <;> simp
  · cases h : spec.security (·.runAsNonRoot) with
    | none => simp [about_eq_nil_iff, offenders_eq_nil_iff]
    | some b => simp [hpod b h]

theorem details_runAsUser_eq_nil_iff :
    runAsUser.details spec = [] ↔ spec.security (·.runAsUser) ≠ some 0 ∧
      ∀ c ∈ spec.allContainers, c.security (·.runAsUser) ≠ some 0 := by
  simp [runAsUser, about_eq_nil_iff, offenders_eq_nil_iff]

theorem podSeccompDetails_eq_nil_iff {kind : Option String} :
    podSeccompDetails kind = [] ↔ ∀ k ∈ kind, isConfining k = true := by
  cases kind <;> simp [podSeccompDetails]

theorem details_seccompProfile_eq_nil_iff :
    seccompProfile.details spec = [] ↔ (∀ kind ∈ spec.seccompKind?, isConfining kind = true) ∧
      ∀ c ∈ spec.allContainers, ∃ kind ∈ c.confinement? spec, isConfining kind = true := by
  simp only [seccompProfile, List.append_eq_nil_iff, podSeccompDetails_eq_nil_iff, and_assoc]
  refine and_congr_right fun hpod => ?_
  simp only [Container.confinement?, Container.forall_exists_effective_iff hpod]
  refine and_congr ?_ ?_
  · simp only [about_eq_nil_iff, offenders_eq_nil_iff]
    refine forall₂_congr fun c _ => ?_
    cases c.seccompKind? <;> simp
  · cases spec.seccompKind? <;> simp [about_eq_nil_iff, offenders_eq_nil_iff]

theorem details_volumes_eq_nil_iff :
    volumes.details spec = [] ↔
      ∀ v ∈ spec.volumes, ∃ kind ∈ v.sourceKind?, kind ∈ allowedVolumeKinds := by
  simp only [volumes, about_eq_nil_iff, badVolumes_eq_nil_iff, Bool.not_eq_false']
  refine forall₂_congr fun v _ => ?_
  have hunknown : "unknown" ∉ allowedVolumeKinds := by decide
  cases hk : v.sourceKind? <;> simp [isAllowedVolume, volumeKind, hk, hunknown]

end Restricted

end Check

end AdmissionForecast
