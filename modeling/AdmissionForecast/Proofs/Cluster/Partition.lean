import AdmissionForecast.Proofs.Check.Reasons
import AdmissionForecast.Proofs.Cluster.Groups
import AdmissionForecast.Proofs.Cluster.Silence
import Mathlib.Algebra.GroupWithZero.Nat

/-! # Warnings as a partition of the failing pods

The lines of a dry run stand for groups of pods that fail the same checks. Each failing pod is in
one of them, and no other pod has a say in what is written: not by its place in the snapshot, and
not from another namespace.
-/

namespace AdmissionForecast

theorem perm_flatten_fibers {α β : Type} [DecidableEq β] (f : α → β) {keys : List β}
    {xs : List α} (hn : keys.Nodup) (hc : ∀ x ∈ xs, f x ∈ keys) :
    (keys.map fun k => xs.filter fun x => f x = k).flatten.Perm xs := by
  induction keys generalizing xs with
  | nil =>
    obtain rfl : xs = [] := List.eq_nil_iff_forall_not_mem.mpr fun x hx => nomatch hc x hx
    exact .nil
  | cons k keys ih =>
    obtain ⟨hk, hn⟩ := List.nodup_cons.mp hn
    have hrest : ∀ x ∈ xs.filter (fun x => !decide (f x = k)), f x ∈ keys := by
      intro x hx
      obtain ⟨hx, hne⟩ := List.mem_filter.mp hx
      exact (List.mem_cons.mp (hc x hx)).resolve_left (by simpa using hne)
    have hfibers : (keys.map fun k' => (xs.filter fun x => !decide (f x = k)).filter
        fun x => f x = k') = keys.map fun k' => xs.filter fun x => f x = k' := by
      refine List.map_congr_left fun k' hk' => ?_
      rw [List.filter_filter]
      refine List.filter_congr fun x _ => ?_
      have hne : k' ≠ k := fun heq => hk (heq ▸ hk')
      by_cases hx : f x = k' <;> simp [hx, hne]
    have hp := ih hn hrest
    rw [hfibers] at hp
    rw [List.map_cons, List.flatten_cons]
    exact (hp.append_left _).trans (List.filter_append_perm _ xs)

namespace Admission

variable {s : Snapshot} {request : DryRunRequest} {version : String} {level : Level}
  {sink : WarningSink} {pods failing : List Pod}

/-- Every failing pod is in one group, together with the pods that fail the same checks. The
groups come in the order of their reasons. -/
structure IsPartition (level : Level) (failing : List Pod) (groups : List (List Pod)) : Prop where
  nonempty : ∀ group ∈ groups, group ≠ []
  perm : groups.flatten.Perm failing
  shared : ∀ group ∈ groups, ∀ pod ∈ group, ∀ pod' ∈ failing,
    pod' ∈ group ↔ Check.FailAlike level pod.spec pod'.spec
  ascending : groups.Pairwise fun group group' => ∀ pod ∈ group, ∀ pod' ∈ group',
    Check.reasonText level pod.spec < Check.reasonText level pod'.spec

/-- A line about a group: the least of the names, the number of the other pods and the reasons. -/
def Tells (level : Level) (group : List Pod) (line : String) : Prop :=
  ∃ first ∈ group, (∀ pod ∈ group, first.name ≤ pod.name) ∧
    line = first.name ++ others (group.length - 1) ++ ": " ++ Check.reasonText level first.spec

def groupFor (level : Level) (failing : List Pod) (reasons : String) : List Pod :=
  failing.filter fun pod => Check.reasonText level pod.spec = reasons

/-- What the groups are made from: the reasons and the name of each failing pod. -/
def told (level : Level) (failing : List Pod) : List (String × String) :=
  failing.map fun pod => (Check.reasonText level pod.spec, pod.name)

def groupsOf (level : Level) (failing : List Pod) : List (List Pod) :=
  (groups (told level failing)).keys.map (groupFor level failing)

theorem failing_eq (level : Level) (pods : List Pod) :
    Admission.failing level pods =
      told level (pods.filter fun pod => Check.Forbids level pod.spec) := by
  rw [← failing_filter_forbids, Admission.failing, told, ← List.filterMap_eq_map]
  refine List.filterMap_congr fun pod hpod => ?_
  have hf : Check.Forbids level pod.spec := by simpa using (List.mem_filter.mp hpod).2
  split
  · rename_i hnil
    exact absurd hf (Check.forbiddenReasons_eq_nil_iff.mp hnil)
  · rfl

theorem namesFor_told (level : Level) (failing : List Pod) (reasons : String) :
    namesFor reasons (told level failing) = (groupFor level failing reasons).map Pod.name := by
  simp [namesFor, told, groupFor, List.filter_map, Function.comp_def]

theorem mem_keys_told_iff {reasons : String} : reasons ∈ (groups (told level failing)).keys ↔
    ∃ pod ∈ failing, Check.reasonText level pod.spec = reasons := by
  simp [mem_keys_groups_iff, told]

theorem mem_groupFor_iff {reasons : String} {pod : Pod} : pod ∈ groupFor level failing reasons ↔
    pod ∈ failing ∧ Check.reasonText level pod.spec = reasons := by
  simp [groupFor]

theorem groupFor_ne_nil {reasons : String} (h : reasons ∈ (groups (told level failing)).keys) :
    groupFor level failing reasons ≠ [] := by
  obtain ⟨pod, hpod, hreasons⟩ := mem_keys_told_iff.mp h
  exact List.ne_nil_of_mem (mem_groupFor_iff.mpr ⟨hpod, hreasons⟩)

theorem isPartition_groupsOf (h : ∀ pod ∈ failing, Check.Forbids level pod.spec) :
    IsPartition level failing (groupsOf level failing) where
  nonempty := by
    intro group hgroup
    obtain ⟨reasons, hr, rfl⟩ := List.mem_map.mp hgroup
    exact groupFor_ne_nil hr
  perm := by
    refine perm_flatten_fibers (fun pod : Pod => Check.reasonText level pod.spec)
      (StringMap.nodup_keys _) fun pod hpod => ?_
    exact mem_keys_told_iff.mpr ⟨pod, hpod, rfl⟩
  shared := by
    intro group hgroup pod hpod pod' hpod'
    obtain ⟨reasons, -, rfl⟩ := List.mem_map.mp hgroup
    obtain ⟨hfails, rfl⟩ := mem_groupFor_iff.mp hpod
    rw [mem_groupFor_iff, and_iff_right hpod',
      ← Check.reasonText_eq_iff (h pod hfails) (h pod' hpod')]
    exact eq_comm
  ascending := by
    refine List.pairwise_map.mpr ((StringMap.pairwise_keys _).imp fun {a b} hab => ?_)
    intro pod hpod pod' hpod'
    rwa [(mem_groupFor_iff.mp hpod).2, (mem_groupFor_iff.mp hpod').2]

theorem forall₂_tells_lines (level : Level) (failing : List Pod) :
    List.Forall₂ (Tells level) (groupsOf level failing) (lines (told level failing)) := by
  rw [lines_eq, groupsOf, List.forall₂_map_left_iff, List.forall₂_map_right_iff,
    List.forall₂_same]
  intro reasons hr
  have hne : (groupFor level failing reasons).map Pod.name ≠ [] :=
    mt List.map_eq_nil_iff.mp (groupFor_ne_nil hr)
  obtain ⟨least, hmem, hleast, hsubject⟩ := exists_subject hne
  obtain ⟨first, hfirst, rfl⟩ := List.mem_map.mp hmem
  refine ⟨first, hfirst, fun pod hpod => hleast _ (List.mem_map_of_mem hpod), ?_⟩
  rw [namesFor_told, hsubject, List.length_map, (mem_groupFor_iff.mp hfirst).2]
  rfl

theorem podsIn_perm {pods' removed added : List Pod} {inNamespace : String}
    (h : (pods' ++ removed).Perm (s.pods ++ added))
    (hforeign : ∀ pod ∈ removed ++ added, pod.metadata.inNamespace ≠ some inNamespace) :
    ({ s with pods := pods' }.podsIn inNamespace).Perm (s.podsIn inNamespace) := by
  have hnone (foreign : List Pod) (hf : ∀ pod ∈ foreign,
      pod.metadata.inNamespace ≠ some inNamespace) :
      (foreign.filter fun pod => pod.metadata.inNamespace = some inNamespace) = [] :=
    List.filter_eq_nil_iff.mpr fun pod hpod => by simpa using hf pod hpod
  obtain ⟨hremoved, hadded⟩ := List.forall_mem_append.mp hforeign
  have hp := h.filter fun pod => pod.metadata.inNamespace = some inNamespace
  rwa [List.filter_append, List.filter_append, hnone removed hremoved, hnone added hadded,
    List.append_nil, List.append_nil] at hp

theorem dryRun_congr {pods' : List Pod}
    (h : ({ s with pods := pods' }.podsIn request.inNamespace).Perm
      (s.podsIn request.inNamespace)) :
    (client { s with pods := pods' } version).dryRun request sink =
      (client s version).dryRun request sink := by
  have hw (level : LevelVersion) := warnings_congr h request.inNamespace level
  have ha : answer { s with pods := pods' } version request = answer s version request := by
    simp only [answer, hw]
  simp only [client, dryRun, ha]

/-- A dry run at a level says nothing about a namespace whose pods all pass. Otherwise it gives a
header and one line for each group of pods that fail the same checks, in the order of the reasons,
and all failing pods are counted. Only the namespace's own pods matter, in whatever order. -/
theorem dryRun_partition (htries : request.Tries level)
    (hlisted : ∃ ns ∈ s.namespaces, ns.name = request.inNamespace)
    (hdry : s.dryRunFailures.contains request.inNamespace = false) (version : String)
    (sink : WarningSink) :
    let failing := (s.podsIn request.inNamespace).filter fun pod => Check.Forbids level pod.spec
    ((client s version).dryRun request sink = (.ok (), sink) ↔ failing = []) ∧
    (failing ≠ [] → ∃ groups lines, IsPartition level failing groups ∧
      List.Forall₂ (Tells level) groups lines ∧
      (groups.map List.length).sum = failing.length ∧
      (client s version).dryRun request sink = (.ok (), sink.pushAll
        (("existing pods in namespace " ++ quote request.inNamespace ++
          " violate the new PodSecurity enforce level " ++ quote (level.name ++ ":" ++ version)) ::
          lines))) ∧
    ∀ pods' removed added : List Pod, (pods' ++ removed).Perm (s.pods ++ added) →
      (∀ pod ∈ removed ++ added, pod.metadata.inNamespace ≠ some request.inNamespace) →
      (client { s with pods := pods' } version).dryRun request sink =
        (client s version).dryRun request sink := by
  intro failing
  have hanswer : answer s version request = .ok
      (warnings request.inNamespace ⟨level, version⟩ (s.podsIn request.inNamespace)) := by
    rw [answer_of_tries htries hlisted, hdry]
    rfl
  have hfailing : ∀ pod ∈ failing, Check.Forbids level pod.spec :=
    fun pod hpod => by simpa using (List.mem_filter.mp hpod).2
  refine ⟨?_, fun hne => ?_, fun pods' removed added hp hf => dryRun_congr (podsIn_perm hp hf)⟩
  · rw [show (client s version).dryRun request sink = dryRun s version request sink from rfl,
      dryRun_eq_iff, hanswer, List.filter_eq_nil_iff]
    simp [warnings_eq_nil_iff]
  · have hpartition := isPartition_groupsOf hfailing
    refine ⟨groupsOf level failing, lines (told level failing), hpartition,
      forall₂_tells_lines level failing, ?_, ?_⟩
    · rw [← List.length_flatten, hpartition.perm.length_eq]
    · have htold : told level failing ≠ [] := mt List.map_eq_nil_iff.mp hne
      simp only [client, dryRun, hanswer]
      rw [warnings_eq, failing_eq, if_neg htold]
      rfl

theorem dryRun_partition_reversed :
    let pod (name inNamespace : String) (spec : PodSpec) : Pod :=
      ⟨{ name, inNamespace := some inNamespace }, spec⟩
    let web := pod "web" "team-a" { hostNetwork := true }
    let api := pod "api" "team-a" { hostPID := true }
    let log := pod "log" "team-a" { containers := [{ name := "c", ports := [⟨80, some 8080⟩] }] }
    let job := pod "job" "team-a" {}
    let guest := pod "guest" "team-b" { hostNetwork := true }
    let s : Snapshot := ⟨[.named "team-a"], [guest, web, log, job, api], .empty⟩
    let request : DryRunRequest :=
      ⟨"team-a", StringMap.empty.insert WellKnown.enforceLabel "BaseLine", "manager"⟩
    let told := "existing pods in namespace \"team-a\" violate the new PodSecurity enforce " ++
      "level \"baseline:latest\""
    request.Tries .baseline ∧
      ∃ groups lines, IsPartition .baseline [web, log, api] groups ∧
        List.Forall₂ (Tells .baseline) groups lines ∧ (groups.map List.length).sum = 3 ∧
        (client { s with pods := [api, job, log, web] } "latest").dryRun request ⟨["old"]⟩ =
          (.ok (), ⟨"old" :: told :: lines⟩) := by
  intro pod web api log job guest s request told
  have htries : request.Tries .baseline := ⟨"BaseLine", by decide +kernel, by decide +kernel⟩
  obtain ⟨-, hfails, hsame⟩ := dryRun_partition (s := s) htries
    ⟨.named "team-a", by simp [s], rfl⟩ rfl "latest" ⟨["old"]⟩
  have hfailing : ((s.podsIn request.inNamespace).filter fun pod =>
      Check.Forbids .baseline pod.spec) = [web, log, api] := by rfl
  obtain ⟨groups, lines, hgroups, hlines, hsum, hrun⟩ := hfails (by simp [hfailing])
  rw [hfailing] at hgroups hsum
  have hreversed := hsame [api, job, log, web] [guest] [] (List.reverse_perm s.pods)
    (by simp [guest, pod, request])
  have htold : "existing pods in namespace " ++ quote request.inNamespace ++
      " violate the new PodSecurity enforce level " ++ quote (Level.baseline.name ++ ":latest") =
      told := by decide +kernel
  refine ⟨htries, groups, lines, hgroups, hlines, hsum, ?_⟩
  rw [hreversed, hrun, ← htold]
  rfl

end Admission

end AdmissionForecast
