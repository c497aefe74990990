import AdmissionForecast.Detection

/-! # Requests of an inspection

What an inspection asks of the cluster concerns its own namespace only, and it asks once at
most: for the dry run, and for the pods if that warns. It never asks for the listing.
-/

namespace AdmissionForecast

def Client.relisted (c : Client) (listing : List Namespace) : Client :=
  { c with namespaces := .ok listing }

namespace DetectStep

def triedName? : DetectStep → Option String
  | dryRun r => some r.inNamespace
  | _ => none

def listedName? : DetectStep → Option String
  | listPods ns => some ns
  | _ => none

@[simp] theorem triedName?_logged (e : Log.Event) : (logged e).triedName? = none := rfl

@[simp] theorem triedName?_dryRun (r : DryRunRequest) :
    (dryRun r).triedName? = some r.inNamespace := rfl

@[simp] theorem listedName?_logged (e : Log.Event) : (logged e).listedName? = none := rfl

@[simp] theorem listedName?_dryRun (r : DryRunRequest) : (dryRun r).listedName? = none := rfl

@[simp] theorem filterMap_triedName?_logged (events : List Log.Event) :
    (events.map logged).filterMap triedName? = [] := by
  simp [List.filterMap_map, List.filterMap_eq_nil_iff]

@[simp] theorem filterMap_listedName?_logged (events : List Log.Event) :
    (events.map logged).filterMap listedName? = [] := by
  simp [List.filterMap_map, List.filterMap_eq_nil_iff]

end DetectStep

namespace Detector

open DetectStep

variable {d : Detector}

def relisted (d : Detector) (listing : List Namespace) : Detector :=
  { d with client := d.client.relisted listing }

theorem attributePods_relisted (d : Detector) (listing : List Namespace) (inNamespace : String)
    (level : LevelVersion) (pods : List Pod) :
    (d.relisted listing).attributePods inNamespace level pods =
      d.attributePods inNamespace level pods := by
  induction pods with
  | nil => rfl
  | cons pod rest ih =>
    rw [attributePods, attributePods, ih]
    rfl

theorem inspect_relisted (d : Detector) (listing : List Namespace) (ns : Namespace) :
    (d.relisted listing).inspect ns = d.inspect ns := by
  unfold inspect attributeViolation
  simp only [attributePods_relisted]
  rfl

theorem requests_attributePods (inNamespace : String) (level : LevelVersion) (pods : List Pod) :
    (d.attributePods inNamespace level pods).steps.filterMap triedName? = [] ∧
      (d.attributePods inNamespace level pods).steps.filterMap listedName? = [] := by
  induction pods with
  | nil => exact ⟨rfl, rfl⟩
  | cons pod rest ih =>
    rw [attributePods]
    split
    · exact ⟨rfl, rfl⟩
    · split
      · simp only [Trace.steps_bind, Trace.steps_step]
        split
        · exact ⟨rfl, rfl⟩
        · simpa [triedName?, listedName?] using ih
      · exact ih

theorem requests_attributeViolation (inNamespace : String) (c : Category)
    (resolved : ResolvedLevel) :
    (d.attributeViolation inNamespace c resolved).steps.filterMap triedName? = [] ∧
      ((d.attributeViolation inNamespace c resolved).steps.filterMap listedName?).Sublist
        [inNamespace] := by
  unfold attributeViolation
  split
  · exact ⟨rfl, List.nil_sublist _⟩
  · cases resolved.level with
    | error e => exact ⟨rfl, List.nil_sublist _⟩
    | ok level =>
      simp only [Trace.steps_bind, Trace.steps_step]
      cases d.client.pods inNamespace with
      | error e => exact ⟨rfl, List.Sublist.refl _⟩
      | ok pods =>
        obtain ⟨ht, hl⟩ := d.requests_attributePods inNamespace ⟨level, d.version⟩ pods
        refine ⟨ht, ?_⟩
        rw [List.filterMap_append, hl]
        exact List.Sublist.refl _

/-- An inspection tries a label at most once and lists pods at most once, both in its own
namespace. -/
theorem requests_inspect (d : Detector) (ns : Namespace) :
    ((d.inspect ns).steps.filterMap triedName?).Sublist [ns.name] ∧
      ((d.inspect ns).steps.filterMap listedName?).Sublist [ns.name] := by
  unfold inspect
  cases hr : (resolve ns).result with
  | error e => simp [hr]
  | ok resolved =>
    have hv := d.requests_attributeViolation ns.name (Category.classify ns) resolved
    have hs : (d.simulate ns.name resolved.value).steps =
      [.dryRun (d.request ns.name resolved.value)] := rfl
    simp only [Trace.steps_bind, Trace.steps_mapSteps, Trace.result_mapSteps, hr, hs,
      List.filterMap_append, filterMap_triedName?_logged, filterMap_listedName?_logged]
    split
    · simp [request]
    · simp [request]
    · obtain ⟨ht, hl⟩ := hv
      simp only [Trace.steps_bind, List.filterMap_append, ht]
      have hd (r : DryRunRequest) : [dryRun r].filterMap listedName? = [] := rfl
      have he (e : Log.Event) : [logged e].filterMap listedName? = [] := rfl
      split
      · exact ⟨List.Sublist.refl _, by simpa [hd] using hl⟩
      · exact ⟨List.Sublist.refl _, by simpa [hd, he] using hl⟩

end Detector

end AdmissionForecast
