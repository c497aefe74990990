import AdmissionForecast.Cluster.Admission
import AdmissionForecast.Proofs.Check.Forbidden
import Mathlib.Data.List.Basic
import Mathlib.Data.List.Induction

/-! # Answers of admission

A dry run at a level is silent exactly if the level forbids none of the namespace's pods: the
groups of failing pods are not lost, and pods that pass leave no trace in the warnings.
-/

namespace AdmissionForecast

namespace StringMap

variable {α : Type}

theorem insertEntry_ne_nil (k : String) (v : α) (es : List (String × α)) :
    insertEntry k v es ≠ [] := by
  cases es with
  | nil => simp [insertEntry]
  | cons e rest => unfold insertEntry; split_ifs <;> simp

theorem entries_modify_ne_nil (m : StringMap α) (k : String) (f : Option α → α) :
    (m.modify k f).entries ≠ [] := by
  unfold modify insert; exact insertEntry_ne_nil k _ _

end StringMap

namespace Admission

theorem failing_eq_nil_iff {level : Level} {pods : List Pod} :
    failing level pods = [] ↔ ∀ pod ∈ pods, ¬ Check.Forbids level pod.spec := by
  rw [failing, List.filterMap_eq_nil_iff]
  refine forall₂_congr fun pod _ => ?_
  rw [← Check.forbiddenReasons_eq_nil_iff]
  split <;> simp_all

theorem entries_groups_eq_nil_iff {failing : List (String × String)} :
    (groups failing).entries = [] ↔ failing = [] := by
  cases failing using List.reverseRecOn with
  | nil => simp [groups, StringMap.empty]
  | append_singleton fs f =>
    simp only [groups, List.foldl_append, List.foldl_cons, List.foldl_nil, List.append_eq_nil_iff,
      List.cons_ne_nil, and_false, iff_false]
    exact StringMap.entries_modify_ne_nil _ _ _

theorem warnings_eq_nil_iff {inNamespace : String} {level : LevelVersion} {pods : List Pod} :
    warnings inNamespace level pods = [] ↔ ∀ pod ∈ pods, ¬ Check.Forbids level.level pod.spec := by
  rw [← failing_eq_nil_iff, ← entries_groups_eq_nil_iff]
  unfold warnings
  split <;> simp_all

theorem failing_filter_forbids (level : Level) (pods : List Pod) :
    failing level (pods.filter fun pod => Check.Forbids level pod.spec) = failing level pods := by
  rw [failing, failing, List.filterMap_filter]
  refine List.filterMap_congr fun pod _ => ?_
  by_cases hf : Check.Forbids level pod.spec
  · simp [hf]
  · simp [hf, Check.forbiddenReasons_eq_nil_iff.mpr hf]

theorem answer_of_listed {s : Snapshot} {version value : String} {request : DryRunRequest}
    (hn : ∃ ns ∈ s.namespaces, ns.name = request.inNamespace)
    (hv : request.labels.get? WellKnown.enforceLabel = some value) :
    answer s version request =
      if s.dryRunFailures.contains request.inNamespace then
        .error (.request "dry-run apply" request.inNamespace "simulated failure")
      else match Level.ofName? value.toLower with
        | none => .error
            (.request "dry-run apply" request.inNamespace (InvalidLevel.message ⟨value.toLower⟩))
        | some level => .ok
            (warnings request.inNamespace ⟨level, version⟩ (s.podsIn request.inNamespace)) := by
  have ha : s.namespaces.any (fun n => n.name = request.inNamespace) = true := by simpa using hn
  unfold answer
  simp only [ha, hv, Level.parseAnyCase, Level.parse, dryRunOperation]
  cases Level.ofName? value.toLower <;> rfl

end Admission

end AdmissionForecast
