import AdmissionForecast.Proofs.Check.Demands

/-! # Hardened pods

What the restricted level asks of a pod, setting by setting and with the values that take effect.
The checks of the level are passed by exactly the pods that are hardened in this sense, and two
checks of the baseline ask for nothing that the others do not ask for already.
-/

namespace AdmissionForecast

/-- What a container has to be like within its pod. -/
structure Container.IsHardened (spec : PodSpec) (c : Container) : Prop where
  privileged : c.security (·.privileged) ≠ some true
  privilegeEscalation : c.security (·.allowPrivilegeEscalation) = some false
  hostPorts : ∀ port ∈ c.ports, ∀ p ∈ port.hostPort, p = 0
  procMount : ∀ mount ∈ c.security (·.procMount), mount = "Default"
  capabilities : ∃ caps ∈ c.capabilities?,
    "ALL" ∈ caps.drop ∧ ∀ cap ∈ caps.add, cap = "NET_BIND_SERVICE"
  user : c.security (·.runAsUser) ≠ some 0
  nonRoot : c.nonRoot? spec = some true
  seccomp : c.confinement? spec = some "RuntimeDefault" ∨ c.confinement? spec = some "Localhost"

/-- What a pod has to be like, with all its containers and volumes. -/
structure PodSpec.IsHardened (spec : PodSpec) : Prop where
  hostNamespaces : spec.hostNetwork = false ∧ spec.hostPID = false ∧ spec.hostIPC = false
  sysctls : ∀ context ∈ spec.securityContext, ∀ sysctl ∈ context.sysctls,
    sysctl.name ∈ Check.Baseline.safeSysctls
  volumes : ∀ v ∈ spec.volumes, ∃ kind ∈ v.sourceKind?, kind ∈ Check.Restricted.allowedVolumeKinds
  user : spec.security (·.runAsUser) ≠ some 0
  nonRoot : spec.security (·.runAsNonRoot) ≠ some false
  seccomp : spec.seccompKind? = none ∨ spec.seccompKind? = some "RuntimeDefault" ∨
    spec.seccompKind? = some "Localhost"
  containers : ∀ c ∈ spec.allContainers, c.IsHardened spec

namespace Check

variable {spec : PodSpec}

/-- A check of the baseline on capabilities or on volumes of the host. -/
def IsImplied (c : Check) : Prop :=
  c.id = Baseline.capabilities.id ∨ c.id = Baseline.hostPathVolumes.id

instance (c : Check) : Decidable (IsImplied c) := inferInstanceAs (Decidable (_ ∨ _))

def decisive : List Check := (enforcedAt .restricted).filter fun c => ¬ IsImplied c

theorem decisive_eq : decisive =
    [Baseline.privileged, Baseline.hostNamespaces, Baseline.hostPorts, Baseline.procMount,
      Baseline.sysctls, Restricted.privilegeEscalation, Restricted.capabilities,
      Restricted.runAsNonRoot, Restricted.runAsUser, Restricted.seccompProfile,
      Restricted.volumes] := rfl

theorem filter_isImplied : (enforcedAt .restricted).filter (fun c => IsImplied c) =
    [Baseline.hostPathVolumes, Baseline.capabilities] := rfl

theorem exists_eq_true_iff {o : Option Bool} : (∃ b ∈ o, b = true) ↔ o = some true := by
  cases o <;> simp

theorem forall_eq_true_iff {o : Option Bool} : (∀ b ∈ o, b = true) ↔ o ≠ some false := by
  cases o <;> simp

theorem exists_isConfining_iff {o : Option String} :
    (∃ kind ∈ o, Restricted.isConfining kind = true) ↔
      o = some "RuntimeDefault" ∨ o = some "Localhost" := by
  cases o <;> simp [Restricted.isConfining]

theorem forall_isConfining_iff {o : Option String} :
    (∀ kind ∈ o, Restricted.isConfining kind = true) ↔
      o = none ∨ o = some "RuntimeDefault" ∨ o = some "Localhost" := by
  cases o <;> simp [Restricted.isConfining]

theorem forall_decisive_iff : (∀ c ∈ decisive, c.details spec = []) ↔ spec.IsHardened := by
  simp only [decisive_eq, List.forall_mem_cons, Baseline.details_privileged_eq_nil_iff,
    Baseline.details_hostNamespaces_eq_nil_iff, Baseline.details_hostPorts_eq_nil_iff,
    Baseline.details_procMount_eq_nil_iff, Baseline.details_sysctls_eq_nil_iff,
    Restricted.details_privilegeEscalation_eq_nil_iff, Restricted.details_capabilities_eq_nil_iff,
    Restricted.details_runAsNonRoot_eq_nil_iff, Restricted.details_runAsUser_eq_nil_iff,
    Restricted.details_seccompProfile_eq_nil_iff, Restricted.details_volumes_eq_nil_iff,
    exists_eq_true_iff, forall_eq_true_iff, exists_isConfining_iff, forall_isConfining_iff]
  constructor
  · rintro ⟨hprivileged, hnamespaces, hports, hmount, hsysctls, hescalation, hcapabilities,
      ⟨hpodNonRoot, hnonRoot⟩, ⟨hpodUser, huser⟩, ⟨hpodSeccomp, hseccomp⟩, hvolumes, -⟩
    refine ⟨hnamespaces, hsysctls, hvolumes, hpodUser, hpodNonRoot, hpodSeccomp, fun c hc => ?_⟩
    exact ⟨hprivileged c hc, hescalation c hc, hports c hc, hmount c hc, hcapabilities c hc,
      huser c hc, hnonRoot c hc, hseccomp c hc⟩
  · intro h
    exact ⟨fun c hc => (h.containers c hc).privileged, h.hostNamespaces,
      fun c hc => (h.containers c hc).hostPorts, fun c hc => (h.containers c hc).procMount,
      h.sysctls, fun c hc => (h.containers c hc).privilegeEscalation,
      fun c hc => (h.containers c hc).capabilities,
      ⟨h.nonRoot, fun c hc => (h.containers c hc).nonRoot⟩,
      ⟨h.user, fun c hc => (h.containers c hc).user⟩,
      ⟨h.seccomp, fun c hc => (h.containers c hc).seccomp⟩, h.volumes, nofun⟩

/-- Who drops all capabilities and adds at most one that the baseline allows passes the baseline. -/
theorem details_capabilities_eq_nil (h : Restricted.capabilities.details spec = []) :
    Baseline.capabilities.details spec = [] := by
  refine Baseline.details_capabilities_eq_nil_iff.mpr fun c hc caps hcaps cap hcap => ?_
  obtain ⟨caps', hcaps', -, hadd⟩ := Restricted.details_capabilities_eq_nil_iff.mp h c hc
  obtain rfl : caps = caps' := Option.mem_unique hcaps hcaps'
  rw [hadd cap hcap]
  decide

theorem details_hostPathVolumes_eq_nil (h : Restricted.volumes.details spec = []) :
    Baseline.hostPathVolumes.details spec = [] := by
  refine Baseline.details_hostPathVolumes_eq_nil_iff.mpr fun v hv hpath => ?_
  obtain ⟨kind, hkind, hallowed⟩ := Restricted.details_volumes_eq_nil_iff.mp h v hv
  obtain rfl : kind = "hostPath" := Option.mem_unique hkind hpath
  exact absurd hallowed (by decide)

theorem details_eq_nil_of_decisive (h : ∀ c ∈ decisive, c.details spec = []) {c : Check}
    (hc : c ∈ enforcedAt .restricted) : c.details spec = [] := by
  by_cases hi : IsImplied c
  · have hm : c ∈ [Baseline.hostPathVolumes, Baseline.capabilities] :=
      filter_isImplied ▸ List.mem_filter.mpr ⟨hc, decide_eq_true hi⟩
    rcases List.mem_pair.mp hm with rfl | rfl
    · exact details_hostPathVolumes_eq_nil (h _ (by simp [decisive_eq]))
    · exact details_capabilities_eq_nil (h _ (by simp [decisive_eq]))
  · exact h c (List.mem_filter.mpr ⟨hc, decide_eq_true hi⟩)

end Check

end AdmissionForecast
