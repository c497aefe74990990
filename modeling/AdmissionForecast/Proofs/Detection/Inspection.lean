import AdmissionForecast.Detection
import AdmissionForecast.Proofs.Resolution

/-! # The course of an inspection

What an inspection answers is decided step by step: by the value asked for, by the dry run, and
last by the first listed pod that decides whose violation it is.
-/

namespace AdmissionForecast.Detector

variable {d : Detector} {ns : Namespace} {value : String}

/-- A listed pod ends the search: it names another namespace, or an end user's pod fails. -/
def decides (d : Detector) (inNamespace : String) (level : LevelVersion) (pod : Pod) : Bool :=
  (foreignNamespace? inNamespace pod).isSome || (pod.isUserWorkload && d.forbids level pod)

/-- Whose violation the pods tell: the first one that decides, or else an operator. -/
def attributionOf (d : Detector) (inNamespace : String) (level : LevelVersion) (pods : List Pod) :
    Except DetectError Attribution :=
  match pods.find? (d.decides inNamespace level) with
  | none => .ok .operatorWorkload
  | some pod =>
    match foreignNamespace? inNamespace pod with
    | some other => .error (.internal inNamespace
        s!"pod {quote pod.name} listed from namespace {quote other}")
    | none => .ok .userWorkload

def attribution (d : Detector) (ns : Namespace) (value : String) :
    Except DetectError Attribution :=
  if ¬ ns.IsCustomer ∨ d.attributeUserWorkloads = false then .ok .unknown
  else match Level.parseAnyCase value with
    | .error e => .error (.internal ns.name e.message)
    | .ok level =>
      match d.client.pods ns.name with
      | .error e => .error (.collaborator e)
      | .ok pods => d.attributionOf ns.name ⟨level, d.version⟩ pods

theorem result_attributePods (inNamespace : String) (level : LevelVersion) (pods : List Pod) :
    (d.attributePods inNamespace level pods).result = d.attributionOf inNamespace level pods := by
  unfold attributionOf
  induction pods with
  | nil => rfl
  | cons pod rest ih =>
    rw [attributePods, List.find?_cons]
    cases hf : foreignNamespace? inNamespace pod with
    | some other => simp [decides, hf]
    | none =>
      cases hu : pod.isUserWorkload with
      | false => simpa [decides, hf, hu] using ih
      | true =>
        cases hb : d.forbids level pod with
        | false => simpa [decides, hf, hu, hb] using ih
        | true => simp [decides, hf, hu, hb]

theorem result_attributeViolation (resolved : ResolvedLevel) :
    (d.attributeViolation ns.name (Category.classify ns) resolved).result =
      d.attribution ns resolved.value := by
  have hc : (!(Category.classify ns).allowsUserAttribution || !d.attributeUserWorkloads) = true ↔
      ¬ ns.IsCustomer ∨ d.attributeUserWorkloads = false := by
    simp [Category.allowsUserAttribution, Category.classify_eq_customer_iff]
  unfold attributeViolation attribution
  simp only [hc]
  split
  · rfl
  · unfold ResolvedLevel.level
    cases Level.parseAnyCase resolved.value with
    | error e => rfl
    | ok level =>
      simp only [Trace.result_bind]
      cases d.client.pods ns.name with
      | error e => rfl
      | ok pods => exact result_attributePods ..

theorem exists_resolved (h : ns.askedValue? = some value) :
    ∃ source, (resolve ns).result = .ok ⟨value, source⟩ := by
  have hv := value_resolve ns
  rw [h] at hv
  cases hr : (resolve ns).result with
  | error e => rw [hr] at hv; cases hv
  | ok resolved =>
    rw [hr] at hv
    cases hv
    exact ⟨resolved.source, rfl⟩

theorem result_inspect_of_unasked (h : ns.askedValue? = none) :
    (d.inspect ns).result =
      .ok ⟨ns.name, Category.classify ns, none, .inconclusive .noSignal, []⟩ := by
  have hv := value_resolve ns
  rw [h] at hv
  cases hr : (resolve ns).result with
  | ok resolved => rw [hr] at hv; cases hv
  | error e => simp [inspect, hr]

theorem result_inspect_of_refused {e : ClientError} (h : ns.askedValue? = some value)
    (hs : (d.simulate ns.name value).result = .error e) :
    (d.inspect ns).result = .error (.collaborator e) := by
  obtain ⟨source, hr⟩ := exists_resolved h
  simp [inspect, hr, hs]

theorem result_inspect_of_silent (h : ns.askedValue? = some value)
    (hs : (d.simulate ns.name value).result = .ok []) :
    (d.inspect ns).result = .ok ⟨ns.name, Category.classify ns, some value, .notViolating, []⟩ := by
  obtain ⟨source, hr⟩ := exists_resolved h
  simp [inspect, hr, hs]

theorem result_inspect_of_warned {warnings : List String} (h : ns.askedValue? = some value)
    (hs : (d.simulate ns.name value).result = .ok warnings) (hw : warnings ≠ []) :
    (d.inspect ns).result = (d.attribution ns value).map fun a =>
      ⟨ns.name, Category.classify ns, some value, .violating a, warnings⟩ := by
  obtain ⟨source, hr⟩ := exists_resolved h
  obtain ⟨w, rest, rfl⟩ := List.exists_cons_of_ne_nil hw
  simp only [inspect, Trace.result_bind, Trace.result_mapSteps, hr, hs, result_attributeViolation]
  cases d.attribution ns value <;> rfl

/-- The ways an inspection can go. -/
theorem inspect_cases (d : Detector) (ns : Namespace) :
    (ns.askedValue? = none ∧ (d.inspect ns).result =
      .ok ⟨ns.name, Category.classify ns, none, .inconclusive .noSignal, []⟩) ∨
    ∃ value, ns.askedValue? = some value ∧
      ((∃ e, (d.simulate ns.name value).result = .error e ∧
          (d.inspect ns).result = .error (.collaborator e)) ∨
        ((d.simulate ns.name value).result = .ok [] ∧ (d.inspect ns).result =
          .ok ⟨ns.name, Category.classify ns, some value, .notViolating, []⟩) ∨
        ∃ warnings, (d.simulate ns.name value).result = .ok warnings ∧ warnings ≠ [] ∧
          (d.inspect ns).result = (d.attribution ns value).map fun a =>
            ⟨ns.name, Category.classify ns, some value, .violating a, warnings⟩) := by
  cases hv : ns.askedValue? with
  | none => exact .inl ⟨rfl, result_inspect_of_unasked hv⟩
  | some value =>
    refine .inr ⟨value, rfl, ?_⟩
    cases hs : (d.simulate ns.name value).result with
    | error e => exact .inl ⟨e, rfl, result_inspect_of_refused hv hs⟩
    | ok warnings =>
      by_cases hw : warnings = []
      · exact .inr (.inl ⟨congrArg _ hw, result_inspect_of_silent hv (hw ▸ hs)⟩)
      · exact .inr (.inr ⟨warnings, rfl, hw, result_inspect_of_warned hv hs hw⟩)

theorem inNamespace_and_category_of_result_inspect {x : Detection}
    (h : (d.inspect ns).result = .ok x) :
    x.inNamespace = ns.name ∧ x.category = Category.classify ns := by
  rcases d.inspect_cases ns with ⟨-, hr⟩ | ⟨value, -, ⟨e, -, hr⟩ | ⟨-, hr⟩ | ⟨ws, -, -, hr⟩⟩ <;>
    rw [hr] at h
  · cases h; exact ⟨rfl, rfl⟩
  · cases h
  · cases h; exact ⟨rfl, rfl⟩
  · cases ha : d.attribution ns value <;> rw [ha] at h <;> cases h
    exact ⟨rfl, rfl⟩

theorem inNamespace_of_result_inspect {x : Detection} (h : (d.inspect ns).result = .ok x) :
    x.inNamespace = ns.name :=
  (inNamespace_and_category_of_result_inspect h).1

end AdmissionForecast.Detector
