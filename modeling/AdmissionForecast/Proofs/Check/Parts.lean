import AdmissionForecast.Proofs.Check.Strictness

/-! # Verdicts part by part

No check looks at two containers or two volumes together. What a check finds wrong with a spec it
finds wrong with the bare pod, with one of the containers alone in that pod, or with one of the
volumes alone. So the order of containers and volumes, their repetition and the list that a
container is in make no difference, and more of them never help.
-/

namespace AdmissionForecast

namespace PodSpec

/-- The pod without its containers and volumes. -/
def bare (s : PodSpec) : PodSpec :=
  { s with containers := [], initContainers := [], volumes := [] }

def onlyContainer (s : PodSpec) (c : Container) : PodSpec := { s.bare with containers := [c] }

def onlyVolume (s : PodSpec) (v : Volume) : PodSpec := { s.bare with volumes := [v] }

variable {s s' : PodSpec}

@[simp] theorem allContainers_bare (s : PodSpec) : s.bare.allContainers = [] := rfl

@[simp] theorem allContainers_onlyContainer (s : PodSpec) (c : Container) :
    (s.onlyContainer c).allContainers = [c] := rfl

@[simp] theorem allContainers_onlyVolume (s : PodSpec) (v : Volume) :
    (s.onlyVolume v).allContainers = [] := rfl

@[simp] theorem volumes_bare (s : PodSpec) : s.bare.volumes = [] := rfl

@[simp] theorem volumes_onlyContainer (s : PodSpec) (c : Container) :
    (s.onlyContainer c).volumes = [] := rfl

@[simp] theorem volumes_onlyVolume (s : PodSpec) (v : Volume) :
    (s.onlyVolume v).volumes = [v] := rfl

@[simp] theorem bare_onlyContainer (s : PodSpec) (c : Container) :
    (s.onlyContainer c).bare = s.bare := rfl

/-- A demand that is met by a pod if it is met by the bare pod, beside each container alone and
beside each volume alone. -/
def ByParts (D : PodSpec → Prop) : Prop :=
  ∀ s, D s ↔ D s.bare ∧ (∀ c ∈ s.allContainers, D (s.onlyContainer c)) ∧
    ∀ v ∈ s.volumes, D (s.onlyVolume v)

namespace ByParts

variable {D E : PodSpec → Prop}

theorem pod (h : ∀ s, D s ↔ D s.bare) : ByParts D := by
  intro s
  constructor
  · intro hs
    have hbare : D s.bare := (h s).mp hs
    exact ⟨hbare, fun c _ => (h (s.onlyContainer c)).mpr hbare,
      fun v _ => (h (s.onlyVolume v)).mpr hbare⟩
  · rintro ⟨hbare, -, -⟩
    exact (h s).mpr hbare

theorem containers {Q : PodSpec → Container → Prop} (h : ∀ s c, Q s c ↔ Q s.bare c) :
    ByParts fun s => ∀ c ∈ s.allContainers, Q s c := by
  intro s
  have halone (c : Container) : Q (s.onlyContainer c) c ↔ Q s c := by
    rw [h, h s, bare_onlyContainer]
  simp [halone]

theorem volumes {Q : Volume → Prop} : ByParts fun s => ∀ v ∈ s.volumes, Q v := by
  intro s
  simp

theorem and (hD : ByParts D) (hE : ByParts E) : ByParts fun s => D s ∧ E s := by
  intro s
  dsimp only
  rw [hD s, hE s]
  constructor
  · rintro ⟨⟨hD, hDc, hDv⟩, hE, hEc, hEv⟩
    exact ⟨⟨hD, hE⟩, fun c hc => ⟨hDc c hc, hEc c hc⟩, fun v hv => ⟨hDv v hv, hEv v hv⟩⟩
  · rintro ⟨⟨hD, hE⟩, hc, hv⟩
    exact ⟨⟨hD, fun c hm => (hc c hm).1, fun v hm => (hv v hm).1⟩,
      hE, fun c hm => (hc c hm).2, fun v hm => (hv v hm).2⟩

theorem not_iff (h : ByParts D) (s : PodSpec) :
    ¬ D s ↔ ¬ D s.bare ∨ (∃ c ∈ s.allContainers, ¬ D (s.onlyContainer c)) ∨
      ∃ v ∈ s.volumes, ¬ D (s.onlyVolume v) := by
  rw [h s]
  simp only [not_and_or, not_forall, exists_prop]

theorem of_subset (h : ByParts D) (hb : s'.bare = s.bare)
    (hc : s.allContainers ⊆ s'.allContainers) (hv : s.volumes ⊆ s'.volumes) (hs : D s') :
    D s := by
  obtain ⟨hbare, hcontainers, hvolumes⟩ := (h s').mp hs
  simp only [onlyContainer, onlyVolume, hb] at hbare hcontainers hvolumes
  exact (h s).mpr ⟨hbare, fun c hm => hcontainers c (hc hm), fun v hm => hvolumes v (hv hm)⟩

end ByParts

end PodSpec

namespace Check

open PodSpec

variable {c : Check} {level : Level} {spec spec' : PodSpec}

def failingIds (level : Level) (spec : PodSpec) : List String :=
  ((enforcedAt level).filter fun c => !(c.evaluate spec).isAllowed).map (·.id)

theorem mem_failingIds_iff {id : String} :
    id ∈ failingIds level spec ↔ ∃ c ∈ enforcedAt level, ¬ c.details spec = [] ∧ c.id = id := by
  simp [failingIds, ← isAllowed_evaluate_iff, and_assoc]

theorem mem_standard_of_mem_enforcedAt (h : c ∈ enforcedAt level) : c ∈ standard :=
  (List.mem_filter.mp (List.mem_filter.mp h).1).1

/-- The demand of every check is one on the pod, on its containers or on its volumes. -/
theorem byParts_details (h : c ∈ standard) : ByParts fun spec => c.details spec = [] := by
  simp only [standard, Baseline.all, Restricted.all, List.cons_append, List.nil_append,
    List.mem_cons, List.not_mem_nil, or_false] at h
  rcases h with rfl | rfl | rfl | rfl | rfl | rfl | rfl | rfl | rfl | rfl | rfl | rfl | rfl | rfl
  · simp only [Baseline.details_privileged_eq_nil_iff]
    exact .containers fun _ _ => .rfl
  · simp only [Baseline.details_hostNamespaces_eq_nil_iff]
    exact .pod fun _ => .rfl
  · simp only [Baseline.details_hostPathVolumes_eq_nil_iff]
    exact .volumes
  · simp only [Baseline.details_hostPorts_eq_nil_iff]
    exact .containers fun _ _ => .rfl
  · simp only [Baseline.details_capabilities_eq_nil_iff]
    exact .containers fun _ _ => .rfl
  · simp only [Baseline.details_procMount_eq_nil_iff]
    exact .containers fun _ _ => .rfl
  · simp only [Baseline.details_sysctls_eq_nil_iff]
    exact .pod fun _ => .rfl
  · simp only [Baseline.details_seccompProfile_eq_nil_iff]
    exact .and (.pod fun _ => .rfl) (.containers fun _ _ => .rfl)
  · simp only [Restricted.details_privilegeEscalation_eq_nil_iff]
    exact .containers fun _ _ => .rfl
  · simp only [Restricted.details_capabilities_eq_nil_iff]
    exact .containers fun _ _ => .rfl
  · simp only [Restricted.details_runAsNonRoot_eq_nil_iff]
    exact .and (.pod fun _ => .rfl) (.containers fun _ _ => .rfl)
  · simp only [Restricted.details_runAsUser_eq_nil_iff]
    exact .and (.pod fun _ => .rfl) (.containers fun _ _ => .rfl)
  · simp only [Restricted.details_seccompProfile_eq_nil_iff]
    exact .and (.pod fun _ => .rfl) (.containers fun _ _ => .rfl)
  · simp only [Restricted.details_volumes_eq_nil_iff]
    exact .volumes

theorem sublist_forbiddenReasons_of_subset (level : Level) (hb : spec'.bare = spec.bare)
    (hc : spec.allContainers ⊆ spec'.allContainers) (hv : spec.volumes ⊆ spec'.volumes) :
    (forbiddenReasons level spec).Sublist (forbiddenReasons level spec') := by
  have hfails (c : Check) (hm : c ∈ enforcedAt level) (h : c.details spec ≠ []) :
      c.details spec' ≠ [] :=
    mt ((byParts_details (mem_standard_of_mem_enforcedAt hm)).of_subset hb hc hv) h
  have hfilter : (enforcedAt level).filter (fun c => c.details spec ≠ []) =
      ((enforcedAt level).filter fun c => c.details spec' ≠ []).filter
        fun c => c.details spec ≠ [] := by
    rw [List.filter_filter]
    refine List.filter_congr fun c hm => ?_
    by_cases h : c.details spec = []
    · simp [h]
    · simp [h, hfails c hm h]
  rw [forbiddenReasons_eq, forbiddenReasons_eq, failingReasons, failingReasons, hfilter]
  exact List.filter_sublist.map _

/-- The checks that a pod fails are those that its parts fail, each within the bare pod. So more
containers and volumes only add to the reasons, and only the sets of them matter: neither their
order, nor how often they are listed, nor in which list a container is. -/
theorem verdicts_by_parts (level : Level) (spec : PodSpec) :
    (∀ id, id ∈ failingIds level spec ↔
      id ∈ failingIds level spec.bare ∨
        (∃ c ∈ spec.allContainers, id ∈ failingIds level (spec.onlyContainer c)) ∨
        ∃ v ∈ spec.volumes, id ∈ failingIds level (spec.onlyVolume v)) ∧
    (∀ spec' : PodSpec, spec'.bare = spec.bare → spec.allContainers ⊆ spec'.allContainers →
      spec.volumes ⊆ spec'.volumes →
      (forbiddenReasons level spec).Sublist (forbiddenReasons level spec')) ∧
    ∀ spec' : PodSpec, spec'.bare = spec.bare →
      (∀ c, c ∈ spec'.allContainers ↔ c ∈ spec.allContainers) →
      (∀ v, v ∈ spec'.volumes ↔ v ∈ spec.volumes) →
      forbiddenReasons level spec' = forbiddenReasons level spec := by
  refine ⟨fun id => ?_, fun spec' hb hc hv => sublist_forbiddenReasons_of_subset level hb hc hv,
    fun spec' hb hc hv => ?_⟩
  · have hsplit (c : Check) (hm : c ∈ enforcedAt level) :=
      (byParts_details (mem_standard_of_mem_enforcedAt hm)).not_iff spec
    simp only [mem_failingIds_iff]
    constructor
    · rintro ⟨check, hm, hfails, hid⟩
      rcases (hsplit check hm).mp hfails with h | ⟨c, hc, h⟩ | ⟨v, hv, h⟩
      · exact .inl ⟨check, hm, h, hid⟩
      · exact .inr (.inl ⟨c, hc, check, hm, h, hid⟩)
      · exact .inr (.inr ⟨v, hv, check, hm, h, hid⟩)
    · rintro (⟨check, hm, h, hid⟩ | ⟨c, hc, check, hm, h, hid⟩ | ⟨v, hv, check, hm, h, hid⟩)
      · exact ⟨check, hm, (hsplit check hm).mpr (.inl h), hid⟩
      · exact ⟨check, hm, (hsplit check hm).mpr (.inr (.inl ⟨c, hc, h⟩)), hid⟩
      · exact ⟨check, hm, (hsplit check hm).mpr (.inr (.inr ⟨v, hv, h⟩)), hid⟩
  · have hle := sublist_forbiddenReasons_of_subset level hb (fun c => (hc c).mpr)
      fun v => (hv v).mpr
    have hge := sublist_forbiddenReasons_of_subset level hb.symm (fun c => (hc c).mp)
      fun v => (hv v).mp
    exact hge.antisymm hle

theorem verdicts_by_parts_moved :
    let web : Container := { name := "web", ports := [⟨80, some 8080⟩] }
    let log : Container :=
      { name := "log", securityContext := some ⟨some true, none, none, none, none, none, none⟩ }
    let disk : Volume := .ofKind "disk" "hostPath"
    let spec : PodSpec := { hostPID := true, containers := [web, log], volumes := [disk] }
    let moved : PodSpec :=
      { hostPID := true, initContainers := [log, web, log], volumes := [disk, disk] }
    failingIds .baseline spec = ["privileged", "hostNamespaces", "hostPathVolumes", "hostPorts"] ∧
      "hostPorts" ∈ failingIds .baseline (spec.onlyContainer web) ∧
      "hostPorts" ∉ failingIds .baseline (spec.onlyContainer log) ∧
      moved.bare = spec.bare ∧
      forbiddenReasons .baseline moved = forbiddenReasons .baseline spec := by
  intro web log disk spec moved
  obtain ⟨-, -, hset⟩ := verdicts_by_parts .baseline spec
  have hc : ∀ c, c ∈ moved.allContainers ↔ c ∈ spec.allContainers := by
    simp [moved, spec, PodSpec.allContainers, or_comm]
  have hv : ∀ v, v ∈ moved.volumes ↔ v ∈ spec.volumes := by simp [moved, spec]
  exact ⟨by decide +kernel, by decide +kernel, by decide +kernel, rfl, hset moved rfl hc hv⟩

end Check

end AdmissionForecast
