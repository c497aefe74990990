import AdmissionForecast.Proofs.Cluster.Admission
import AdmissionForecast.Proofs.Keys
import AdmissionForecast.Proofs.Sorting

/-! # Groups of failing pods

The groups are the fibers of the failing pods over their reasons, one for each text of reasons and
in the order of these texts. What is written about a group is the least of its names and their
number, so that the order in which the pods are listed makes no difference.
-/

namespace AdmissionForecast

namespace Admission

variable {fs fs' : List (String × String)} {reasons : String}

/-- The names that belong to a text of reasons, in the order they are listed. -/
def namesFor (reasons : String) (fs : List (String × String)) : List String :=
  (fs.filter fun f => f.1 = reasons).map (·.2)

theorem namesFor_concat (reasons : String) (fs : List (String × String)) (f : String × String) :
    namesFor reasons (fs ++ [f]) = namesFor reasons fs ++ if f.1 = reasons then [f.2] else [] := by
  by_cases h : f.1 = reasons <;> simp [namesFor, h]

theorem namesFor_eq_nil_iff : namesFor reasons fs = [] ↔ reasons ∉ fs.map (·.1) := by
  rw [namesFor, List.map_eq_nil_iff, List.filter_eq_nil_iff]
  constructor
  · rintro h hm
    obtain ⟨f, hf, rfl⟩ := List.mem_map.mp hm
    exact h f hf (decide_eq_true rfl)
  · intro h f hf heq
    exact h (List.mem_map.mpr ⟨f, hf, of_decide_eq_true heq⟩)

/-- By induction on the failing pods, from the last one: it is added to the names of its reasons
and leaves all other groups as they are. -/
theorem get?_groups (fs : List (String × String)) (reasons : String) :
    (groups fs).get? reasons =
      if namesFor reasons fs = [] then none else some (namesFor reasons fs) := by
  induction fs using List.reverseRecOn with
  | nil => rfl
  | append_singleton fs f ih =>
    have hgroups : groups (fs ++ [f]) =
        (groups fs).modify f.1 fun names => names.getD [] ++ [f.2] := by
      rw [groups, List.foldl_append]
      rfl
    rw [hgroups, StringMap.get?_modify, namesFor_concat]
    by_cases h : f.1 = reasons
    · subst h
      rw [if_pos rfl, if_pos rfl, ih]
      by_cases hn : namesFor f.1 fs = [] <;> simp [hn]
    · simp [h, ih]

theorem mem_keys_groups_iff : reasons ∈ (groups fs).keys ↔ reasons ∈ fs.map (·.1) := by
  rw [StringMap.mem_keys_iff, get?_groups, ← not_iff_not, ← namesFor_eq_nil_iff]
  by_cases h : namesFor reasons fs = [] <;> simp [h]

theorem entries_groups (fs : List (String × String)) :
    (groups fs).entries = (groups fs).keys.map fun reasons => (reasons, namesFor reasons fs) := by
  rw [StringMap.keys, List.map_map]
  refine (List.map_id _).symm.trans (List.map_congr_left fun e he => ?_)
  have hget := StringMap.get?_of_mem he
  rw [get?_groups] at hget
  split_ifs at hget
  exact Prod.ext rfl (Option.some.inj hget).symm

theorem keys_groups_congr (h : fs.Perm fs') : (groups fs).keys = (groups fs').keys := by
  have hmem (reasons : String) :
      reasons ∈ (groups fs).keys ↔ reasons ∈ (groups fs').keys := by
    rw [mem_keys_groups_iff, mem_keys_groups_iff, (h.map _).mem_iff]
  have hperm : (groups fs).keys.Perm (groups fs').keys :=
    (List.perm_ext_iff_of_nodup (groups fs).nodup_keys (groups fs').nodup_keys).mpr hmem
  refine hperm.eq_of_pairwise ?_ (groups fs).pairwise_keys (groups fs').pairwise_keys
  intro a b _ _ hab hba
  exact absurd (String.lt_trans hab hba) (String.lt_irrefl a)

def others : Nat → String
  | 0 => ""
  | 1 => " (and 1 other pod)"
  | n => s!" (and {n} other pods)"

theorem subject_congr {names names' : List String} (h : names.Perm names') :
    subject names = subject names' := by
  have hsorted : names.mergeSort (fun a b => decide (a ≤ b)) =
      names'.mergeSort fun a b => decide (a ≤ b) :=
    sortedBy_congr h fun a _ b _ hab => hab
  rw [subject, subject, hsorted]

theorem exists_subject {names : List String} (h : names ≠ []) :
    ∃ least ∈ names, (∀ name ∈ names, least ≤ name) ∧
      subject names = least ++ others (names.length - 1) := by
  have hp : (names.mergeSort fun a b => decide (a ≤ b)).Perm names :=
    perm_sortedBy (fun name => name) names
  have hs : (names.mergeSort fun a b => decide (a ≤ b)).Pairwise (· ≤ ·) :=
    pairwise_sortedBy (fun name => name) names
  unfold subject
  generalize names.mergeSort (fun a b => decide (a ≤ b)) = sorted at hp hs
  have hlength := hp.length_eq
  cases sorted with
  | nil => exact absurd hp.nil_eq.symm h
  | cons least rest =>
    refine ⟨least, hp.mem_iff.mp List.mem_cons_self, fun name hn => ?_, ?_⟩
    · rcases List.mem_cons.mp (hp.mem_iff.mpr hn) with rfl | hr
      · exact String.le_refl name
      · exact (List.pairwise_cons.mp hs).1 name hr
    · rw [← hlength, List.length_cons, Nat.add_sub_cancel]
      rcases rest with _ | ⟨second, _ | ⟨third, rest⟩⟩
      · exact (String.append_empty).symm
      · rfl
      · simp only [others, List.length_cons, String.append_assoc]
        rfl

/-- One line for each group. -/
def lines (fs : List (String × String)) : List String :=
  (groups fs).entries.map fun g => s!"{subject g.2}: {g.1}"

theorem lines_eq (fs : List (String × String)) : lines fs =
    (groups fs).keys.map fun reasons => s!"{subject (namesFor reasons fs)}: {reasons}" := by
  rw [lines, entries_groups, List.map_map]
  rfl

theorem lines_congr (h : fs.Perm fs') : lines fs = lines fs' := by
  rw [lines_eq, lines_eq, keys_groups_congr h]
  refine List.map_congr_left fun reasons _ => ?_
  have hnames : (namesFor reasons fs).Perm (namesFor reasons fs') := (h.filter _).map _
  rw [subject_congr hnames]

theorem warnings_eq (inNamespace : String) (level : LevelVersion) (pods : List Pod) :
    warnings inNamespace level pods =
      if failing level.level pods = [] then []
      else header inNamespace level :: lines (failing level.level pods) := by
  by_cases h : failing level.level pods = []
  · rw [if_pos h]
    exact warnings_eq_nil_iff.mpr (failing_eq_nil_iff.mp h)
  · rw [if_neg h, warnings, lines]
    split
    · rename_i hnil
      exact absurd (entries_groups_eq_nil_iff.mp hnil) h
    · rfl

theorem warnings_congr {pods pods' : List Pod} (h : pods.Perm pods') (inNamespace : String)
    (level : LevelVersion) :
    warnings inNamespace level pods = warnings inNamespace level pods' := by
  have hp : (failing level.level pods).Perm (failing level.level pods') := h.filterMap _
  have hnil : failing level.level pods = [] ↔ failing level.level pods' = [] :=
    ⟨fun hn => (hn ▸ hp).nil_eq.symm, fun hn => (hn ▸ hp).eq_nil⟩
  rw [warnings_eq, warnings_eq, lines_congr hp]
  simp only [hnil]

end Admission

end AdmissionForecast
