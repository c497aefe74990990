import AdmissionForecast.Proofs.Check.Parts
import AdmissionForecast.Proofs.Cluster.Silence
import AdmissionForecast.Proofs.Keys
import AdmissionForecast.Proofs.Pod.Document

/-! # Volumes of the host

A volume is taken for the kind of its least source key, and any member of its document but the
name is a source key. So a volume of the host is caught as long as no other key comes before
`hostPath`; else the key that comes first decides, whether or not it is a kind of volume at all.
-/

namespace AdmissionForecast

open Fields

namespace Volume

variable {v : Volume} {members : List (String × Json)} {kind : String}

/-- The least of the names of a volume's members, other than `name`. -/
structure IsKind (members : List (String × Json)) (kind : String) : Prop where
  mem : kind ∈ members.map Prod.fst
  ne_name : kind ≠ "name"
  least : ∀ m ∈ members, m.1 ≠ "name" → kind ≤ m.1

theorem mem_keys_sources_iff (h : reader (.object members) = .ok v) :
    kind ∈ v.sources.keys ↔ kind ∈ members.map Prod.fst ∧ kind ≠ "name" := by
  obtain ⟨es, hes, hsources⟩ := Reader.map_eq_ok_iff.mp (reader_eq_ok_iff.mp h).2
  rw [← hsources, StringMap.mem_keys_ofList_iff, ← Reader.map_fst_eq_of_forall₂ hes]
  simp [sourceMembers]

theorem sourceKind?_eq_some_iff (h : reader (.object members) = .ok v) :
    v.sourceKind? = some kind ↔ IsKind members kind := by
  rw [sourceKind?, StringMap.head?_keys_eq_some_iff]
  simp only [mem_keys_sources_iff h]
  constructor
  · rintro ⟨⟨hmem, hne⟩, hle⟩
    exact ⟨hmem, hne, fun m hm hname => hle m.1 ⟨List.mem_map_of_mem hm, hname⟩⟩
  · rintro ⟨hmem, hne, hle⟩
    refine ⟨⟨hmem, hne⟩, fun kind' ⟨hkind, hname⟩ => ?_⟩
    obtain ⟨m, hm, rfl⟩ := List.mem_map.mp hkind
    exact hle m hm hname

theorem forall_sourceKind?_not_mem_iff {kinds : List String}
    (h : reader (.object members) = .ok v) :
    (∀ kind ∈ v.sourceKind?, kind ∉ kinds) ↔ ∀ kind ∈ kinds, ¬ IsKind members kind := by
  simp only [← sourceKind?_eq_some_iff h]
  exact ⟨fun hk kind hm hkind => hk kind hkind hm, fun hk kind hkind hm => hk kind hm hkind⟩

theorem exists_members_of_reader {j : Json} (h : reader j = .ok v) :
    ∃ members, j = .object members := by
  cases j with
  | object members => exact ⟨members, rfl⟩
  | _ => cases h

end Volume

namespace Pod

variable {j : Json} {pod : Pod}

def volumeItems (j : Json) : List Json :=
  match value? "spec" (Pod.fields.given j) with
  | some spec => items "volumes" (PodSpec.fields.given spec)
  | none => []

theorem forall₂_volumes (h : reader j = .ok pod) :
    List.Forall₂ (fun item v => Volume.reader item = .ok v) (volumeItems j) pod.spec.volumes := by
  rw [volumeItems]
  rcases read_fieldWith_eq_ok_iff.mp (read_spec (read_given_of_reader h)) with
    ⟨document, hdocument, hreader⟩ | ⟨hnone, hd⟩
  · rw [hdocument]
    exact forall₂_items (PodSpec.read_volumes (read_given_of_reader hreader))
  · rw [hnone, ← Option.some.inj hd]
    exact .nil

theorem exists_volume_iff {P : Volume → Prop} {Q : List (String × Json) → Prop}
    (h : reader j = .ok pod)
    (hpq : ∀ members v, Volume.reader (.object members) = .ok v → (P v ↔ Q members)) :
    (∃ v ∈ pod.spec.volumes, P v) ↔ ∃ members, .object members ∈ volumeItems j ∧ Q members := by
  have hvolumes := forall₂_volumes h
  constructor
  · rintro ⟨v, hv, hp⟩
    obtain ⟨item, hitem, hreader⟩ := exists_of_mem_right hvolumes hv
    obtain ⟨members, rfl⟩ := Volume.exists_members_of_reader hreader
    exact ⟨members, hitem, (hpq members v hreader).mp hp⟩
  · rintro ⟨members, hitem, hq⟩
    obtain ⟨v, hv, hreader⟩ := exists_of_mem_right hvolumes.flip hitem
    exact ⟨v, hv, (hpq members v hreader).mpr hq⟩

end Pod

def PodSpec.withoutVolumes (s : PodSpec) : PodSpec := { s with volumes := [] }

@[simp] theorem PodSpec.volumes_withoutVolumes (s : PodSpec) : s.withoutVolumes.volumes = [] := rfl

namespace Check

variable {c : Check} {level : Level} {spec : PodSpec}

/-- All checks but two look at other parts of the spec than its volumes. -/
theorem details_withoutVolumes (h : c ∈ standard) :
    c = Baseline.hostPathVolumes ∨ c = Restricted.volumes ∨
      ∀ spec : PodSpec, c.details spec.withoutVolumes = c.details spec := by
  simp only [standard, Baseline.all, Restricted.all, List.cons_append, List.nil_append,
    List.mem_cons, List.not_mem_nil, or_false] at h
  rcases h with rfl | rfl | rfl | rfl | rfl | rfl | rfl | rfl | rfl | rfl | rfl | rfl | rfl | rfl
  -- without its volumes a spec has all that the other checks read
  all_goals first | exact .inr (.inr fun _ => rfl) | exact .inl rfl | exact .inr (.inl rfl)

theorem forbids_iff_volumes : Forbids level spec ↔ Forbids level spec.withoutVolumes ∨
    (Baseline.hostPathVolumes ∈ enforcedAt level ∧
      ∃ v ∈ spec.volumes, v.sourceKind? = some "hostPath") ∨
    Restricted.volumes ∈ enforcedAt level ∧
      ∃ v ∈ spec.volumes, ∀ kind ∈ v.sourceKind?, kind ∉ Restricted.allowedVolumeKinds := by
  have hhost : Baseline.hostPathVolumes.details spec ≠ [] ↔
      ∃ v ∈ spec.volumes, v.sourceKind? = some "hostPath" := by
    simp [Baseline.details_hostPathVolumes_eq_nil_iff]
  have hkinds : Restricted.volumes.details spec ≠ [] ↔
      ∃ v ∈ spec.volumes, ∀ kind ∈ v.sourceKind?, kind ∉ Restricted.allowedVolumeKinds := by
    simp [Restricted.details_volumes_eq_nil_iff]
  rw [← hhost, ← hkinds]
  constructor
  · rintro ⟨c, hc, hd⟩
    rcases details_withoutVolumes (mem_standard_of_mem_enforcedAt hc) with rfl | rfl | heq
    · exact .inr (.inl ⟨hc, hd⟩)
    · exact .inr (.inr ⟨hc, hd⟩)
    · exact .inl ⟨c, hc, heq spec ▸ hd⟩
  · rintro (⟨c, hc, hd⟩ | hfails | hfails)
    · refine ⟨c, hc, ?_⟩
      rcases details_withoutVolumes (mem_standard_of_mem_enforcedAt hc) with rfl | rfl | heq
      · exact absurd (Baseline.details_hostPathVolumes_eq_nil_iff.mpr (by simp)) hd
      · exact absurd (Restricted.details_volumes_eq_nil_iff.mpr (by simp)) hd
      · exact heq spec ▸ hd
    · exact ⟨_, hfails⟩
    · exact ⟨_, hfails⟩

theorem forbids_baseline_iff (spec : PodSpec) :
    Forbids .baseline spec ↔ Forbids .baseline spec.withoutVolumes ∨
      ∃ v ∈ spec.volumes, v.sourceKind? = some "hostPath" := by
  have hhost : Baseline.hostPathVolumes ∈ enforcedAt .baseline := by
    simp [enforcedAt_baseline, Baseline.all]
  have hkinds : Restricted.volumes ∉ enforcedAt .baseline := fun hm =>
    absurd (List.mem_filter.mp (List.mem_filter.mp hm).1).2 (by decide)
  rw [forbids_iff_volumes]
  simp only [hhost, hkinds, true_and, false_and, or_false]

theorem forbids_restricted_iff (spec : PodSpec) :
    Forbids .restricted spec ↔ Forbids .restricted spec.withoutVolumes ∨
      ∃ v ∈ spec.volumes, ∀ kind ∈ v.sourceKind?, kind ∉ Restricted.allowedVolumeKinds := by
  have hhost : Baseline.hostPathVolumes ∈ enforcedAt .restricted := by
    simp [enforcedAt_restricted, Baseline.all]
  have hkinds : Restricted.volumes ∈ enforcedAt .restricted := by
    simp [enforcedAt_restricted, Restricted.all]
  rw [forbids_iff_volumes]
  simp only [hhost, hkinds, true_and]
  refine or_congr_right (or_iff_right_of_imp ?_)
  rintro ⟨v, hv, hkind⟩
  refine ⟨v, hv, fun kind hk => ?_⟩
  obtain rfl : kind = "hostPath" := Option.mem_unique hk hkind
  decide

theorem Forbids.of_ne_privileged (hf : Forbids .baseline spec) (h : level ≠ .privileged) :
    Forbids level spec := by
  cases level with
  | privileged => exact absurd rfl h
  | baseline => exact hf
  | restricted => exact hf.of_le (by decide)

end Check

namespace Pod

variable {j : Json} {pod : Pod}

/-- Of the volumes of a pod those count at the baseline whose least key is `hostPath`, and at the
restricted level those whose least key is no kind that is allowed. So a volume of the host is caught
at both if no key comes before `hostPath`, and no dry run is silent about a pod that is caught. -/
theorem hostPath_caught (h : reader j = .ok pod) :
    (Check.Forbids .baseline pod.spec ↔ Check.Forbids .baseline pod.spec.withoutVolumes ∨
      ∃ members, .object members ∈ volumeItems j ∧ Volume.IsKind members "hostPath") ∧
    (Check.Forbids .restricted pod.spec ↔ Check.Forbids .restricted pod.spec.withoutVolumes ∨
      ∃ members, .object members ∈ volumeItems j ∧
        ∀ kind ∈ Check.Restricted.allowedVolumeKinds, ¬ Volume.IsKind members kind) ∧
    (∀ members source, .object members ∈ volumeItems j → ("hostPath", .object source) ∈ members →
      (∀ m ∈ members, m.1 ≠ "name" → "hostPath" ≤ m.1) →
      ∀ level : Level, level ≠ .privileged → Check.Forbids level pod.spec) ∧
    ∀ level (s : Snapshot) version (request : DryRunRequest) sink,
      Check.Forbids level pod.spec → request.Tries level → pod ∈ s.podsIn request.inNamespace →
      (Admission.client s version).dryRun request sink ≠ (.ok (), sink) := by
  have hbaseline := Check.forbids_baseline_iff pod.spec
  rw [exists_volume_iff h fun _ _ hv => Volume.sourceKind?_eq_some_iff hv] at hbaseline
  have hrestricted := Check.forbids_restricted_iff pod.spec
  rw [exists_volume_iff h fun _ _ hv => Volume.forall_sourceKind?_not_mem_iff hv] at hrestricted
  refine ⟨hbaseline, hrestricted, ?_, ?_⟩
  · intro members source hitem hsource hleast level hlevel
    have hkind : Volume.IsKind members "hostPath" :=
      ⟨List.mem_map_of_mem hsource, by decide, hleast⟩
    exact (hbaseline.mpr (.inr ⟨members, hitem, hkind⟩)).of_ne_privileged hlevel
  · intro level s version request sink hforbids htries hpod hsilent
    obtain ⟨-, -, hpods⟩ := (Admission.answer_eq_nil_iff htries).mp
      (Admission.dryRun_eq_iff.mp hsilent)
    exact hpods pod hpod hforbids

theorem hostPath_caught_beside_other :
    let source : List (String × Json) := [("path", .string "/")]
    let members : List (String × Json) :=
      [("zone", .null), ("hostPath", .object source), ("name", .string "data")]
    let j : Json := .object [
      ("metadata", .object [("name", .string "web"), ("namespace", .string "team-a")]),
      ("spec", .object [("volumes", .array [.object members])])]
    let request (value : String) : DryRunRequest :=
      ⟨"team-a", StringMap.empty.insert WellKnown.enforceLabel value, "manager"⟩
    ∃ pod, reader j = .ok pod ∧ Check.Forbids .baseline pod.spec ∧
      Check.Forbids .restricted pod.spec ∧
      (Admission.client ⟨[.named "team-a"], [pod], .empty⟩ "latest").dryRun (request "Restricted")
        {} ≠ (.ok (), {}) := by
  intro source members j request
  obtain ⟨pod, hpod, hname⟩ : ∃ pod, reader j = .ok pod ∧
      pod.metadata.inNamespace = some "team-a" := ⟨_, rfl, rfl⟩
  obtain ⟨-, -, hfirst, hloud⟩ := hostPath_caught hpod
  have hforbids := hfirst members source (List.mem_singleton_self _) (by simp [members])
    (by decide +kernel)
  refine ⟨pod, hpod, hforbids .baseline (by decide), hforbids .restricted (by decide), ?_⟩
  exact hloud .restricted _ _ _ _ (hforbids .restricted (by decide))
    ⟨"Restricted", by decide +kernel, by decide +kernel⟩ (by simp [Snapshot.podsIn, hname, request])

/-- A key before `hostPath` hides it: at the baseline any key, at the restricted level a kind that
is allowed. -/
theorem hostPath_hidden :
    let document (other : String) : Json := .object [
      ("metadata", .object [("name", .string "web"), ("namespace", .string "team-a")]),
      ("spec", .object [
        ("containers", .array [.object [("name", .string "main"),
          ("securityContext", .object [("allowPrivilegeEscalation", .bool false),
            ("runAsNonRoot", .bool true),
            ("capabilities", .object [("drop", .array [.string "ALL"])]),
            ("seccompProfile", .object [("type", .string "RuntimeDefault")])])]]),
        ("volumes", .array [.object [("name", .string "data"), (other, .object []),
          ("hostPath", .object [("path", .string "/")])]])])]
    let request (level : Level) : DryRunRequest :=
      ⟨"team-a", StringMap.empty.insert WellKnown.enforceLabel level.name, "manager"⟩
    let isSilent (pod : Pod) (level : Level) : Prop :=
      (Admission.client ⟨[.named "team-a"], [pod], .empty⟩ "latest").dryRun (request level) {} =
        (.ok (), {})
    (∃ pod, reader (document "comment") = .ok pod ∧ ¬ Check.Forbids .baseline pod.spec ∧
      isSilent pod .baseline) ∧
    ∃ pod, reader (document "emptyDir") = .ok pod ∧
      (¬ Check.Forbids .baseline pod.spec ∧ isSilent pod .baseline) ∧
      ¬ Check.Forbids .restricted pod.spec ∧ isSilent pod .restricted := by
  intro document request isSilent
  have hsilent {pod : Pod} {level : Level} (htries : (request level).Tries level)
      (hallowed : ¬ Check.Forbids level pod.spec) : isSilent pod level := by
    refine Admission.dryRun_eq_iff.mpr ((Admission.answer_eq_nil_iff htries).mpr
      ⟨rfl, ⟨.named "team-a", List.mem_singleton_self _, rfl⟩, fun pod' hpod' => ?_⟩)
    obtain rfl := List.mem_singleton.mp (List.mem_filter.mp hpod').1
    exact hallowed
  have hbaseline : (request .baseline).Tries .baseline :=
    ⟨"baseline", by decide +kernel, by decide +kernel⟩
  have hrestricted : (request .restricted).Tries .restricted :=
    ⟨"restricted", by decide +kernel, by decide +kernel⟩
  obtain ⟨unlisted, hunlisted, hu⟩ : ∃ pod, reader (document "comment") = .ok pod ∧
      ¬ Check.Forbids .baseline pod.spec := ⟨_, rfl, by decide +kernel⟩
  obtain ⟨listed, hlisted, hb, hr⟩ : ∃ pod, reader (document "emptyDir") = .ok pod ∧
      ¬ Check.Forbids .baseline pod.spec ∧ ¬ Check.Forbids .restricted pod.spec :=
    ⟨_, rfl, by decide +kernel, by decide +kernel⟩
  exact ⟨⟨unlisted, hunlisted, hu, hsilent hbaseline hu⟩,
    ⟨listed, hlisted, ⟨hb, hsilent hbaseline hb⟩, hr, hsilent hrestricted hr⟩⟩

end Pod

end AdmissionForecast
