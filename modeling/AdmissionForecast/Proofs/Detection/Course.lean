import AdmissionForecast.Proofs.Detection.Inspection

/-! # Outcomes and calls of an inspection

An inspection takes one of nine courses, told apart by what the namespace asks for, by what the
collaborators answer, and by the first listed pod that decides. Each course fixes the result, and
which collaborators are called for what and in which order.
-/

namespace AdmissionForecast

/-- The request that sets the enforce label to a value and no other label. -/
def DryRunRequest.enforcing (inNamespace value fieldManager : String) : DryRunRequest :=
  ⟨inNamespace, ⟨[(WellKnown.enforceLabel, value)], List.pairwise_singleton ..⟩, fieldManager⟩

namespace DetectStep

/-- A step that calls a collaborator, and no event of the log. -/
def isCall : DetectStep → Bool
  | logged _ => false
  | _ => true

end DetectStep

namespace Trace

variable {α β : Type}

def calls (t : Trace DetectStep α) : List DetectStep := t.steps.filter DetectStep.isCall

@[simp] theorem calls_pure (a : α) : (pure a : Trace DetectStep α).calls = [] := rfl

@[simp] theorem calls_bind (t : Trace DetectStep α) (f : α → Trace DetectStep β) :
    (t >>= f).calls = t.calls ++ (f t.result).calls :=
  List.filter_append ..

@[simp] theorem calls_logged (e : Log.Event) : (step (.logged e)).calls = [] := rfl

@[simp] theorem calls_listPods (ns : String) : (step (.listPods ns)).calls = [.listPods ns] := rfl

@[simp] theorem calls_mapSteps_logged (t : Trace Log.Event α) :
    (t.mapSteps DetectStep.logged).calls = [] := by
  simp [calls, DetectStep.isCall]

end Trace

namespace Detector

variable {d : Detector} {ns : Namespace} {inNamespace value : String} {level : LevelVersion}
  {pod : Pod} {pods before rest : List Pod} {calls : List DetectStep}
  {attribution : Except DetectError Attribution} {result : Except DetectError Detection}

/-- The evaluations of those pods that were admitted for an end user. -/
def evaluations (level : LevelVersion) (pods : List Pod) : List DetectStep :=
  (pods.filter (·.isUserWorkload)).map fun pod => .evaluatePod level pod.metadata

/-- A pod that names a namespace other than the one that was asked for. -/
def IsForeign (inNamespace : String) (pod : Pod) : Prop :=
  ∃ other, pod.metadata.inNamespace = some other ∧ other ≠ inNamespace

/-- A pod that was admitted for an end user and has a check result that does not allow it. -/
def IsFailing (d : Detector) (level : LevelVersion) (pod : Pod) : Prop :=
  pod.isUserWorkload = true ∧ ∃ r ∈ d.evaluator level pod.metadata pod.spec, r.isAllowed = false

/-- A pod after which the search goes on. -/
def Passes (d : Detector) (inNamespace : String) (level : LevelVersion) (pod : Pod) : Prop :=
  ¬ IsForeign inNamespace pod ∧ ¬ d.IsFailing level pod

/-- The calls and the result of the search through the listed pods: the first one that does not
pass decides. -/
inductive Search (d : Detector) (inNamespace : String) (level : LevelVersion) (pods : List Pod) :
    List DetectStep → Except DetectError Attribution → Prop where
  | exhausted : (∀ pod ∈ pods, d.Passes inNamespace level pod) →
      Search d inNamespace level pods (evaluations level pods) (.ok .operatorWorkload)
  | foreign {before rest : List Pod} {pod : Pod} {other : String} :
      pods = before ++ pod :: rest → (∀ pod ∈ before, d.Passes inNamespace level pod) →
      pod.metadata.inNamespace = some other → other ≠ inNamespace →
      Search d inNamespace level pods (evaluations level before) (.error (.internal inNamespace
        s!"pod {quote pod.name} listed from namespace {quote other}"))
  | failing {before rest : List Pod} {pod : Pod} :
      pods = before ++ pod :: rest → (∀ pod ∈ before, d.Passes inNamespace level pod) →
      ¬ IsForeign inNamespace pod → d.IsFailing level pod →
      Search d inNamespace level pods (evaluations level (before ++ [pod])) (.ok .userWorkload)

/-- The calls and the result once a dry run of a value gave warnings. -/
inductive Attributing (d : Detector) (ns : Namespace) (value : String) :
    List DetectStep → Except DetectError Attribution → Prop where
  | unattributed : ¬ ns.IsCustomer ∨ d.attributeUserWorkloads = false →
      Attributing d ns value [] (.ok .unknown)
  | levelless : ns.IsCustomer → d.attributeUserWorkloads = true →
      Level.ofName? value.toLower = none →
      Attributing d ns value [] (.error (.internal ns.name (InvalidLevel.message ⟨value.toLower⟩)))
  | unlisted {level : Level} {e : ClientError} : ns.IsCustomer → d.attributeUserWorkloads = true →
      Level.ofName? value.toLower = some level → d.client.pods ns.name = .error e →
      Attributing d ns value [.listPods ns.name] (.error (.collaborator e))
  | searched {level : Level} {pods : List Pod} {evaluated : List DetectStep}
      {attribution : Except DetectError Attribution} :
      ns.IsCustomer → d.attributeUserWorkloads = true →
      Level.ofName? value.toLower = some level → d.client.pods ns.name = .ok pods →
      d.Search ns.name ⟨level, d.version⟩ pods evaluated attribution →
      Attributing d ns value (.listPods ns.name :: evaluated) attribution

/-- The calls and the result of an inspection. -/
inductive Course (d : Detector) (ns : Namespace) :
    List DetectStep → Except DetectError Detection → Prop where
  | unasked : ns.annotated? WellKnown.sufficientLevelKey = none →
      (∀ l : Level, ns.label? WellKnown.warnLabel ≠ some l.name ∧
        ns.label? WellKnown.auditLabel ≠ some l.name) →
      Course d ns [] (.ok ⟨ns.name, Category.classify ns, none, .inconclusive .noSignal, []⟩)
  | refused {value : String} {e : ClientError} {sink : WarningSink} :
      ns.askedValue? = some value →
      d.client.dryRun (.enforcing ns.name value d.fieldManager) {} = (.error e, sink) →
      Course d ns [.dryRun (.enforcing ns.name value d.fieldManager)] (.error (.collaborator e))
  | silent {value : String} : ns.askedValue? = some value →
      d.client.dryRun (.enforcing ns.name value d.fieldManager) {} = (.ok (), ⟨[]⟩) →
      Course d ns [.dryRun (.enforcing ns.name value d.fieldManager)]
        (.ok ⟨ns.name, Category.classify ns, some value, .notViolating, []⟩)
  | warned {value : String} {warnings : List String} {further : List DetectStep}
      {attribution : Except DetectError Attribution} : ns.askedValue? = some value →
      d.client.dryRun (.enforcing ns.name value d.fieldManager) {} = (.ok (), ⟨warnings⟩) →
      warnings ≠ [] → d.Attributing ns value further attribution →
      Course d ns (.dryRun (.enforcing ns.name value d.fieldManager) :: further)
        (attribution.map fun a =>
          ⟨ns.name, Category.classify ns, some value, .violating a, warnings⟩)

theorem foreignNamespace?_eq_none_iff :
    foreignNamespace? inNamespace pod = none ↔ ¬ IsForeign inNamespace pod := by
  unfold foreignNamespace? IsForeign
  cases pod.metadata.inNamespace <;> simp

theorem foreignNamespace?_eq_some {other : String} (h : pod.metadata.inNamespace = some other)
    (hne : other ≠ inNamespace) : foreignNamespace? inNamespace pod = some other := by
  simp [foreignNamespace?, h, hne]

theorem forbids_iff : d.forbids level pod = true ↔
    ∃ r ∈ d.evaluator level pod.metadata pod.spec, r.isAllowed = false := by
  simp [forbids]

theorem attributePods_cons_of_passes (h : d.Passes inNamespace level pod) (rest : List Pod) :
    d.attributePods inNamespace level (pod :: rest) =
      ⟨evaluations level [pod] ++ (d.attributePods inNamespace level rest).steps,
        (d.attributePods inNamespace level rest).result⟩ := by
  obtain ⟨hforeign, hfailing⟩ := h
  rw [attributePods, foreignNamespace?_eq_none_iff.mpr hforeign]
  cases hu : pod.isUserWorkload with
  | false => simp [evaluations, hu]
  | true =>
    have hf : d.forbids level pod = false := by
      rw [← Bool.not_eq_true, forbids_iff]
      exact fun hr => hfailing ⟨hu, hr⟩
    simp only [hf]
    simp [evaluations, hu]
    rfl

theorem evaluations_append (level : LevelVersion) (pods rest : List Pod) :
    evaluations level (pods ++ rest) = evaluations level pods ++ evaluations level rest := by
  simp [evaluations]

theorem attributePods_append_of_passes (h : ∀ pod ∈ before, d.Passes inNamespace level pod)
    (rest : List Pod) : d.attributePods inNamespace level (before ++ rest) =
      ⟨evaluations level before ++ (d.attributePods inNamespace level rest).steps,
        (d.attributePods inNamespace level rest).result⟩ := by
  induction before with
  | nil => rfl
  | cons pod before ih =>
    obtain ⟨hpod, hbefore⟩ := List.forall_mem_cons.mp h
    rw [List.cons_append, attributePods_cons_of_passes hpod, ih hbefore, ← List.append_assoc,
      ← evaluations_append, List.singleton_append]

theorem attributePods_cons_of_foreign {other : String}
    (h : pod.metadata.inNamespace = some other) (hne : other ≠ inNamespace) (rest : List Pod) :
    d.attributePods inNamespace level (pod :: rest) = pure (.error (.internal inNamespace
      s!"pod {quote pod.name} listed from namespace {quote other}")) := by
  rw [attributePods, foreignNamespace?_eq_some h hne]

theorem attributePods_cons_of_failing (h : ¬ IsForeign inNamespace pod)
    (hf : d.IsFailing level pod) (rest : List Pod) :
    d.attributePods inNamespace level (pod :: rest) =
      ⟨evaluations level [pod] ++ [.logged (userWorkloadEvent inNamespace pod.name)],
        .ok .userWorkload⟩ := by
  obtain ⟨hu, hr⟩ := hf
  rw [attributePods, foreignNamespace?_eq_none_iff.mpr h]
  simp only [hu, forbids_iff.mpr hr]
  simp [evaluations, hu]
  rfl

theorem filter_isCall_evaluations (level : LevelVersion) (pods : List Pod) :
    (evaluations level pods).filter DetectStep.isCall = evaluations level pods := by
  refine List.filter_eq_self.mpr fun e he => ?_
  obtain ⟨pod, -, rfl⟩ := List.mem_map.mp he
  rfl

theorem Search.eq (h : d.Search inNamespace level pods calls attribution) :
    calls = (d.attributePods inNamespace level pods).calls ∧
      attribution = (d.attributePods inNamespace level pods).result := by
  cases h with
  | exhausted hall =>
    have ht := attributePods_append_of_passes hall []
    rw [List.append_nil] at ht
    rw [ht]
    simp [Trace.calls, attributePods, filter_isCall_evaluations]
  | foreign hpods hbefore hother hne =>
    rw [hpods, attributePods_append_of_passes hbefore, attributePods_cons_of_foreign hother hne]
    simp [Trace.calls, filter_isCall_evaluations]
  | failing hpods hbefore hforeign hfailing =>
    rw [hpods, attributePods_append_of_passes hbefore,
      attributePods_cons_of_failing hforeign hfailing]
    simp [Trace.calls, evaluations_append, filter_isCall_evaluations, DetectStep.isCall]

theorem exists_search (d : Detector) (inNamespace : String) (level : LevelVersion)
    (pods : List Pod) : ∃ calls attribution, d.Search inNamespace level pods calls attribution := by
  classical
  cases hf : pods.find? fun pod => ¬ d.Passes inNamespace level pod with
  | none =>
    refine ⟨_, _, .exhausted fun pod hpod => ?_⟩
    simpa using List.find?_eq_none.mp hf pod hpod
  | some pod =>
    obtain ⟨hp, before, rest, hpods, hb⟩ := List.find?_eq_some_iff_append.mp hf
    have hbefore : ∀ pod ∈ before, d.Passes inNamespace level pod := fun pod hpod => by
      simpa using hb pod hpod
    by_cases hforeign : IsForeign inNamespace pod
    · obtain ⟨other, hother, hne⟩ := hforeign
      exact ⟨_, _, .foreign hpods hbefore hother hne⟩
    · have hfailing : d.IsFailing level pod := by
        by_contra hn
        exact (of_decide_eq_true hp) ⟨hforeign, hn⟩
      exact ⟨_, _, .failing hpods hbefore hforeign hfailing⟩

theorem exists_attributing (d : Detector) (ns : Namespace) (value : String) :
    ∃ calls attribution, d.Attributing ns value calls attribution := by
  by_cases hu : ¬ ns.IsCustomer ∨ d.attributeUserWorkloads = false
  · exact ⟨_, _, .unattributed hu⟩
  · obtain ⟨hc, ha⟩ : ns.IsCustomer ∧ d.attributeUserWorkloads = true := by simpa using hu
    cases hl : Level.ofName? value.toLower with
    | none => exact ⟨_, _, .levelless hc ha hl⟩
    | some level =>
      cases hp : d.client.pods ns.name with
      | error e => exact ⟨_, _, .unlisted hc ha hl hp⟩
      | ok pods =>
        obtain ⟨calls, attribution, hs⟩ := d.exists_search ns.name ⟨level, d.version⟩ pods
        exact ⟨_, _, .searched hc ha hl hp hs⟩

theorem not_attributed_iff :
    (!(Category.classify ns).allowsUserAttribution || !d.attributeUserWorkloads) = true ↔
      ¬ ns.IsCustomer ∨ d.attributeUserWorkloads = false := by
  simp [Category.allowsUserAttribution, Category.classify_eq_customer_iff]

/-- Where users are told apart, the value has to name a level before the pods are listed. -/
theorem attributeViolation_of_customer (hc : ns.IsCustomer) (ha : d.attributeUserWorkloads = true)
    (source : LevelSource) :
    d.attributeViolation ns.name (Category.classify ns) ⟨value, source⟩ =
      match Level.parseAnyCase value with
      | .error e => pure (.error (.internal ns.name e.message))
      | .ok level => Trace.step (.listPods ns.name) >>= fun _ =>
        match d.client.pods ns.name with
        | .error e => pure (.error (.collaborator e))
        | .ok pods => d.attributePods ns.name ⟨level, d.version⟩ pods := by
  rw [attributeViolation, if_neg (mt not_attributed_iff.mp (by simp [hc, ha]))]
  rfl

theorem parseAnyCase_of_ofName?_eq_none (h : Level.ofName? value.toLower = none) :
    Level.parseAnyCase value = .error ⟨value.toLower⟩ := by
  simp [Level.parseAnyCase, Level.parse, h]

theorem parseAnyCase_of_ofName?_eq_some {l : Level} (h : Level.ofName? value.toLower = some l) :
    Level.parseAnyCase value = .ok l := by
  simp [Level.parseAnyCase, Level.parse, h]

theorem Attributing.eq (h : d.Attributing ns value calls attribution) (source : LevelSource) :
    calls = (d.attributeViolation ns.name (Category.classify ns) ⟨value, source⟩).calls ∧
      attribution =
        (d.attributeViolation ns.name (Category.classify ns) ⟨value, source⟩).result := by
  cases h with
  | unattributed hu =>
    rw [attributeViolation, if_pos (not_attributed_iff.mpr hu)]
    exact ⟨rfl, rfl⟩
  | levelless hc ha hl =>
    rw [attributeViolation_of_customer hc ha, parseAnyCase_of_ofName?_eq_none hl]
    exact ⟨rfl, rfl⟩
  | unlisted hc ha hl hp =>
    rw [attributeViolation_of_customer hc ha, parseAnyCase_of_ofName?_eq_some hl]
    simp [hp]
  | searched hc ha hl hp hs =>
    obtain ⟨rfl, rfl⟩ := hs.eq
    rw [attributeViolation_of_customer hc ha, parseAnyCase_of_ofName?_eq_some hl]
    simp [hp]

theorem exists_course (d : Detector) (ns : Namespace) :
    ∃ calls result, d.Course ns calls result := by
  cases hv : ns.askedValue? with
  | none =>
    obtain ⟨ha, hl⟩ := Namespace.askedValue?_eq_none_iff.mp hv
    exact ⟨_, _, .unasked ha hl⟩
  | some value =>
    rcases hd : d.client.dryRun (.enforcing ns.name value d.fieldManager) {} with
      ⟨e | _, ⟨warnings⟩⟩
    · exact ⟨_, _, .refused hv hd⟩
    · by_cases hw : warnings = []
      · exact ⟨_, _, .silent hv (hw ▸ hd)⟩
      · obtain ⟨further, attribution, ha⟩ := d.exists_attributing ns value
        exact ⟨_, _, .warned hv hd hw ha⟩

theorem exists_unresolved (h : ns.askedValue? = none) : ∃ e, (resolve ns).result = .error e := by
  have hv := value_resolve ns
  rw [h] at hv
  cases hr : (resolve ns).result with
  | error e => exact ⟨e, rfl⟩
  | ok resolved =>
    rw [hr] at hv
    cases hv

theorem calls_simulate (d : Detector) (inNamespace value : String) :
    (d.simulate inNamespace value).calls =
      [.dryRun (.enforcing inNamespace value d.fieldManager)] :=
  rfl

theorem result_simulate {answer : Except ClientError Unit} {sink : WarningSink}
    (h : d.client.dryRun (.enforcing ns.name value d.fieldManager) {} = (answer, sink)) :
    (d.simulate ns.name value).result = answer.map fun _ => sink.pending := by
  have hr : d.request ns.name value = .enforcing ns.name value d.fieldManager := rfl
  simp only [simulate, hr, h]
  rfl

theorem Course.eq (h : d.Course ns calls result) :
    calls = (d.inspect ns).calls ∧ result = (d.inspect ns).result := by
  cases h with
  | unasked ha hl =>
    have hv := Namespace.askedValue?_eq_none_iff.mpr ⟨ha, hl⟩
    obtain ⟨e, hr⟩ := exists_unresolved hv
    refine ⟨?_, (result_inspect_of_unasked hv).symm⟩
    simp [inspect, hr]
  | refused hv hd =>
    have hs := result_simulate hd
    obtain ⟨source, hr⟩ := exists_resolved hv
    refine ⟨?_, (result_inspect_of_refused hv hs).symm⟩
    simp [inspect, hr, hs, calls_simulate, Except.map]
  | silent hv hd =>
    have hs := result_simulate hd
    obtain ⟨source, hr⟩ := exists_resolved hv
    refine ⟨?_, (result_inspect_of_silent hv hs).symm⟩
    simp [inspect, hr, hs, calls_simulate, Except.map]
  | @warned value _ _ _ hv hd hw ha =>
    have hs := result_simulate hd
    obtain ⟨source, hr⟩ := exists_resolved hv
    obtain ⟨w, rest, rfl⟩ := List.exists_cons_of_ne_nil hw
    obtain ⟨rfl, rfl⟩ := ha.eq source
    simp only [inspect, Trace.calls_bind, Trace.result_bind, Trace.result_mapSteps, hr, hs,
      Except.map, calls_simulate]
    cases (d.attributeViolation ns.name (Category.classify ns) ⟨value, source⟩).result <;> simp

/-- An inspection takes exactly one course: it makes the calls of that course in their order, no
other ones, and has its result. -/
theorem course_iff : d.Course ns calls result ↔
    calls = (d.inspect ns).calls ∧ result = (d.inspect ns).result := by
  refine ⟨Course.eq, ?_⟩
  rintro ⟨rfl, rfl⟩
  obtain ⟨calls, result, h⟩ := d.exists_course ns
  obtain ⟨rfl, rfl⟩ := h.eq
  exact h

end Detector

end AdmissionForecast
