import AdmissionForecast.Detection

/-! # Events of an inspection

Whatever course an inspection takes, all it logs on the way is meant for debugging and has no
stable name.
-/

namespace AdmissionForecast

/-- An event that is logged in the course of an inspection. -/
structure Log.Event.IsInner (e : Log.Event) : Prop where
  severity : e.severity = .debug
  component : e.component = .resolution ∨ e.component = .detection
  unnamed : "event" ∉ e.fields.map Prod.fst

namespace Trace

variable {α β : Type}

def events (t : Trace DetectStep α) : List Log.Event := t.steps.filterMap DetectStep.event?

@[simp] theorem events_pure (a : α) : (pure a : Trace DetectStep α).events = [] := rfl

@[simp] theorem events_bind (t : Trace DetectStep α) (f : α → Trace DetectStep β) :
    (t >>= f).events = t.events ++ (f t.result).events :=
  List.filterMap_append

@[simp] theorem events_logged (e : Log.Event) : (step (.logged e)).events = [e] := rfl

@[simp] theorem events_listPods (ns : String) : (step (.listPods ns)).events = [] := rfl

@[simp] theorem events_evaluatePod (level : LevelVersion) (pod : ObjectMeta) :
    (step (.evaluatePod level pod)).events = [] := rfl

@[simp] theorem events_mapSteps_logged (t : Trace Log.Event α) :
    (t.mapSteps DetectStep.logged).events = t.steps := by
  have hsome : DetectStep.event? ∘ DetectStep.logged = some := rfl
  rw [events, steps_mapSteps, List.filterMap_map, hsome, List.filterMap_some]

end Trace

theorem Resolution.isInner_ignoredEvent (inNamespace label value : String) (e : InvalidLevel) :
    (ignoredEvent inNamespace label value e).IsInner :=
  ⟨rfl, .inl rfl, by simp [ignoredEvent]⟩

theorem isInner_steps_resolve (ns : Namespace) : ∀ e ∈ (resolve ns).steps, e.IsInner := by
  unfold resolve
  split
  · exact nofun
  · simp only [Trace.steps_bind, Trace.steps_pure, List.append_nil, Resolution.pickStrictest]
    intro e he
    obtain ⟨c, -, hc⟩ := List.mem_filterMap.mp he
    unfold Resolution.ignored? at hc
    split at hc <;> cases hc
    exact Resolution.isInner_ignoredEvent ..

namespace Detector

variable {d : Detector}

theorem isInner_inconclusiveEvent (ns : Namespace) (c : Category) (e : ResolveError) :
    (inconclusiveEvent ns c e).IsInner :=
  ⟨rfl, .inr rfl, by simp [inconclusiveEvent]⟩

theorem isInner_violationEvent (ns : Namespace) (c : Category) (level : String) (warnings : Nat)
    (a : Attribution) : (violationEvent ns c level warnings a).IsInner :=
  ⟨rfl, .inr rfl, by simp [violationEvent]⟩

theorem isInner_userWorkloadEvent (inNamespace pod : String) :
    (userWorkloadEvent inNamespace pod).IsInner :=
  ⟨rfl, .inr rfl, by simp [userWorkloadEvent]⟩

theorem isInner_events_attributePods (inNamespace : String) (level : LevelVersion)
    (pods : List Pod) : ∀ e ∈ (d.attributePods inNamespace level pods).events, e.IsInner := by
  induction pods with
  | nil => exact nofun
  | cons pod rest ih =>
    rw [attributePods]
    split
    · exact nofun
    · split
      · rw [Trace.events_bind, Trace.events_evaluatePod, List.nil_append]
        split
        · simpa using isInner_userWorkloadEvent inNamespace pod.name
        · exact ih
      · exact ih

theorem isInner_events_attributeViolation (inNamespace : String) (c : Category)
    (resolved : ResolvedLevel) :
    ∀ e ∈ (d.attributeViolation inNamespace c resolved).events, e.IsInner := by
  unfold attributeViolation
  split
  · exact nofun
  · split
    · exact nofun
    · rw [Trace.events_bind, Trace.events_listPods, List.nil_append]
      split
      · exact nofun
      · exact isInner_events_attributePods _ _ _

theorem isInner_events_inspect (d : Detector) (ns : Namespace) :
    ∀ e ∈ (d.inspect ns).events, e.IsInner := by
  simp only [inspect, Trace.events_bind, Trace.events_mapSteps_logged, List.forall_mem_append]
  refine ⟨isInner_steps_resolve ns, ?_⟩
  split
  · simpa using isInner_inconclusiveEvent _ _ _
  · next resolved _ =>
    have hs : (d.simulate ns.name resolved.value).events = [] := rfl
    rw [Trace.events_bind, hs, List.nil_append]
    split
    · exact nofun
    · exact nofun
    · rw [Trace.events_bind, List.forall_mem_append]
      refine ⟨isInner_events_attributeViolation _ _ _, ?_⟩
      split
      · exact nofun
      · simpa using isInner_violationEvent _ _ _ _ _

end Detector

end AdmissionForecast
