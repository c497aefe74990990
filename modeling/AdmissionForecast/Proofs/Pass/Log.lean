import AdmissionForecast.Proofs.Detection.Events
import AdmissionForecast.Proofs.Pass.Reports

/-! # The log of a pass

A pass that goes through its namespaces alone logs one event about each listed namespace, in the
order of the listing: that it was skipped, or how its evaluation went. The counts in the other
events are those of the report.
-/

namespace AdmissionForecast

namespace Log

namespace Event

def IsNamed (names : List String) (e : Event) : Prop :=
  ∃ name ∈ names, ("event", .text name) ∈ e.fields

instance (names : List String) : DecidablePred (IsNamed names) := fun e =>
  inferInstanceAs (Decidable (∃ name ∈ names, ("event", .text name) ∈ e.fields))

/-- The event has the stable name and the fields, and it has no field twice. -/
structure Says (name : String) (fields : List (String × FieldValue)) (e : Event) : Prop where
  name : ("event", .text name) ∈ e.fields
  fields : fields ⊆ e.fields
  once : (e.fields.map Prod.fst).Nodup

variable {name : String} {names : List String} {fields : List (String × FieldValue)} {e : Event}

theorem Says.isNamed_iff (h : e.Says name fields) : e.IsNamed names ↔ name ∈ names := by
  constructor
  · rintro ⟨name', hmem, hfield⟩
    have heq := List.inj_on_of_nodup_map h.once hfield h.name rfl
    injection heq with _ hvalue
    injection hvalue with hname
    exact hname ▸ hmem
  · intro hmem
    exact ⟨name, hmem, h.name⟩

theorem IsInner.not_isNamed (h : e.IsInner) : ¬ e.IsNamed names := by
  rintro ⟨name, -, hfield⟩
  exact h.unnamed (List.mem_map_of_mem hfield)

end Event

/-- What an event of a pass says, as long as its own fields are not called like those that all of
them have. -/
theorem Context.says_event (ctx : Context) (component : Component) (severity : Severity)
    (name : String) (stage : Stage) (message : String) {fields : List (String × FieldValue)}
    (h : (["event", "run_id", "host_id", "stage"] ++ fields.map Prod.fst).Nodup) :
    (ctx.event component severity name stage message fields).Says name fields where
  name := List.mem_cons_self
  fields := List.subset_append_right ..
  once := h

end Log

def Namespace.labelled (all : List Namespace) : List Namespace :=
  all.filter fun ns => ns.label? WellKnown.enforceLabel ≠ none

theorem Namespace.length_unlabelled_add_labelled (all : List Namespace) :
    (unlabelled all).length + (labelled all).length = all.length := by
  simp only [unlabelled, labelled, ne_eq, decide_not]
  exact (List.length_eq_length_filter_add _).symm

theorem Namespace.filter_isEnforcing (all : List Namespace) :
    all.filter (·.isEnforcing) = labelled all := by
  refine List.filter_congr fun ns _ => ?_
  rw [Bool.eq_iff_iff, decide_eq_true_iff, ne_eq, ← isEnforcing_eq_false_iff, Bool.not_eq_false]

/-- An event tells how the inspection of a namespace went. -/
inductive Concludes (ns : Namespace) : Except DetectError Detection → Log.Event → Prop where
  | evaluated {x : Detection} {e : Log.Event} :
      e.Says "simulate.namespace_evaluated" [("namespace", .text ns.name),
        ("category", .text x.category.name), ("outcome", .text x.outcome.verdict)] →
      Concludes ns (.ok x) e
  | failed {cause : ClientError} {e : Log.Event} :
      e.Says "simulate.namespace_failed"
        [("namespace", .text ns.name), ("error", .plain cause.message)] →
      Concludes ns (.error (.collaborator cause)) e
  | internal {inNamespace reason : String} {e : Log.Event} :
      e.Says "internal_error" [("namespace", .text ns.name),
        ("error", .plain (DetectError.internal inNamespace reason).message)] →
      Concludes ns (.error (.internal inNamespace reason)) e

/-- The events of a pass in their parts. -/
structure PassLog where
  started : Log.Event
  skipped : List Log.Event
  listed : Log.Event
  /-- What is logged in the course of each inspection, and about its end. -/
  evaluations : List (List Log.Event × Log.Event)
  rendered : Log.Event
  finished : Log.Event

namespace PassLog

def events (g : PassLog) : List Log.Event :=
  g.started :: g.skipped ++ [g.listed] ++ g.evaluations.flatMap (fun x => x.1 ++ [x.2]) ++
    [g.rendered, g.finished]

/-- What is logged about a namespace: what its inspection logs, none of it under a name, and at once
how this went. -/
structure Evaluates (d : Detector) (ns : Namespace) (x : List Log.Event × Log.Event) : Prop where
  inspected : x.1 = (d.inspect ns).events
  inner : ∀ e ∈ x.1, e.IsInner
  concludes : Concludes ns (d.inspect ns).result x.2

/-- The events of a pass over a listing account for each namespace and for the report. -/
structure Accounts (p : Pass) (all : List Namespace) (r : PassReport) (g : PassLog) : Prop where
  started : g.started.Says "pass.started" [("workers", .count p.config.workers.toNat)]
  skipped : List.Forall₂ (fun ns => Log.Event.Says "resolve.namespace_skipped"
    [("namespace", .text ns.name)]) (Namespace.labelled all) g.skipped
  listed : g.listed.Says "resolve.namespaces_listed" [("listed", .count all.length),
    ("selected", .count g.evaluations.length), ("skipped", .count g.skipped.length)]
  split : all.length = g.evaluations.length + g.skipped.length
  evaluations : List.Forall₂ (Evaluates p.detector) (Namespace.unlabelled all) g.evaluations
  rendered : g.rendered.Says "aggregate.conditions_rendered"
    [("firing", .count r.conditions.firing.length)]
  finished : g.finished.Says "pass.finished" [("evaluated", .count r.evaluated),
    ("violating", .count r.violating), ("inconclusive", .count r.inconclusive),
    ("failed", .count r.failures.length)]

/-- The names of the events that conclude an evaluation. -/
def concluding : List String :=
  ["simulate.namespace_evaluated", "simulate.namespace_failed", "internal_error"]

def failing : List String := ["simulate.namespace_failed", "internal_error"]

variable {d : Detector} {p : Pass} {all nss : List Namespace} {ns : Namespace} {r : PassReport}
  {g : PassLog} {names : List String} {result : Except DetectError Detection} {e : Log.Event}

theorem isNamed_concluding (h : Concludes ns result e) : e.IsNamed concluding := by
  cases h with
  | evaluated hs => exact hs.isNamed_iff.mpr (by decide)
  | failed hs => exact hs.isNamed_iff.mpr (by decide)
  | internal hs => exact hs.isNamed_iff.mpr (by decide)

theorem isNamed_failing_iff (h : Concludes ns result e) :
    e.IsNamed failing ↔ ∃ cause, result = .error cause := by
  cases h with
  | evaluated hs => exact hs.isNamed_iff.trans (by simp [failing])
  | failed hs => exact hs.isNamed_iff.trans (by simp [failing])
  | internal hs => exact hs.isNamed_iff.trans (by simp [failing])

theorem countP_skipped {es : List Log.Event}
    (h : List.Forall₂ (fun ns => Log.Event.Says "resolve.namespace_skipped"
      [("namespace", .text ns.name)]) nss es) (hn : "resolve.namespace_skipped" ∉ names) :
    es.countP (Log.Event.IsNamed names ·) = 0 := by
  induction h with
  | nil => rfl
  | cons hs _ ih => simp [hs.isNamed_iff, hn, ih]

/-- Each evaluation counts by its conclusion, as nothing before that has a name. -/
theorem countP_evaluations {xs : List (List Log.Event × Log.Event)}
    (h : List.Forall₂ (Evaluates d) nss xs) {q : Namespace → Bool}
    (hq : ∀ ns x, Evaluates d ns x → (x.2.IsNamed names ↔ q ns = true)) :
    (xs.flatMap fun x => x.1 ++ [x.2]).countP (Log.Event.IsNamed names ·) = nss.countP q := by
  induction h with
  | nil => rfl
  | @cons ns x nss xs hx _ ih =>
    have hinner : x.1.countP (Log.Event.IsNamed names ·) = 0 := by
      rw [List.countP_eq_zero]
      exact fun e he => by simpa using (hx.inner e he).not_isNamed
    simp [List.countP_cons, hinner, ih, hq ns x hx]

theorem Accounts.countP_events (h : g.Accounts p all r) (hn : names ⊆ concluding)
    {q : Namespace → Bool}
    (hq : ∀ ns x, Evaluates p.detector ns x → (x.2.IsNamed names ↔ q ns = true)) :
    g.events.countP (Log.Event.IsNamed names ·) = (Namespace.unlabelled all).countP q := by
  -- what is logged before and after the evaluations goes by other names
  have hother {name : String} (hname : name ∉ concluding) : name ∉ names :=
    fun hmem => hname (hn hmem)
  have hs := h.started.isNamed_iff.not.mpr (hother (by decide))
  have hl := h.listed.isNamed_iff.not.mpr (hother (by decide))
  have hr := h.rendered.isNamed_iff.not.mpr (hother (by decide))
  have hf := h.finished.isNamed_iff.not.mpr (hother (by decide))
  rw [← countP_evaluations h.evaluations hq]
  simp [events, countP_skipped h.skipped (hother (by decide)), hs, hl, hr, hf]

theorem Accounts.countP_concluding (h : g.Accounts p all r) (ht : r.Tells p.detector all) :
    g.events.countP (Log.Event.IsNamed concluding ·) = r.evaluated := by
  have hall (ns : Namespace) (x : List Log.Event × Log.Event) (hx : Evaluates p.detector ns x) :
      x.2.IsNamed concluding ↔ true = true := by
    simpa using isNamed_concluding hx.concludes
  rw [h.countP_events (List.Subset.refl _) hall, List.countP_true, ht.evaluated]

theorem Accounts.countP_failing (h : g.Accounts p all r) (ht : r.Tells p.detector all) :
    g.events.countP (Log.Event.IsNamed failing ·) = r.failures.length := by
  have hfails (ns : Namespace) (x : List Log.Event × Log.Event) (hx : Evaluates p.detector ns x) :
      x.2.IsNamed failing ↔ (p.detector.failure? ns).isSome = true := by
    rw [isNamed_failing_iff hx.concludes, Option.isSome_iff_exists]
    simp [Detector.failure?_eq_some_iff]
  rw [h.countP_events (by decide) hfails, ht.failures.length_eq, List.length_filterMap_eq_countP]

end PassLog

namespace Pass

variable {p : Pass} {all : List Namespace} {r : PassReport}

theorem exists_startedEvent (p : Pass) : ∃ e, p.startedEvent = .logged e ∧
    e.Says "pass.started" [("workers", .count p.config.workers.toNat)] :=
  ⟨_, rfl, p.context.says_event _ _ _ _ _ (by simp)⟩

theorem exists_skippedEvent (p : Pass) (ns : Namespace) : ∃ e, p.skippedEvent ns = .logged e ∧
    e.Says "resolve.namespace_skipped" [("namespace", .text ns.name)] :=
  ⟨_, rfl, p.context.says_event _ _ _ _ _ (by simp)⟩

theorem exists_listedEvent (p : Pass) (listed selected skipped : Nat) :
    ∃ e, p.listedEvent listed selected skipped = .logged e ∧
      e.Says "resolve.namespaces_listed" [("listed", .count listed),
        ("selected", .count selected), ("skipped", .count skipped)] :=
  ⟨_, rfl, p.context.says_event _ _ _ _ _ (by simp)⟩

theorem exists_evaluatedEvent (p : Pass) (ns : Namespace)
    (result : Except DetectError Detection) :
    ∃ e, p.evaluatedEvent ns result = .logged e ∧ Concludes ns result e := by
  match result with
  | .ok x => exact ⟨_, rfl, .evaluated (p.context.says_event _ _ _ _ _ (by simp))⟩
  | .error (.collaborator cause) =>
    exact ⟨_, rfl, .failed (p.context.says_event _ _ _ _ _ (by simp))⟩
  | .error (.internal inNamespace reason) =>
    exact ⟨_, rfl, .internal (p.context.says_event _ _ _ _ _ (by simp))⟩

theorem exists_renderedEvent (p : Pass) (firing : Nat) : ∃ e, p.renderedEvent firing = .logged e ∧
    e.Says "aggregate.conditions_rendered" [("firing", .count firing)] :=
  ⟨_, rfl, p.context.says_event _ _ _ _ _ (by simp)⟩

theorem exists_finishedEvent (p : Pass) (evaluated violating inconclusive failed : Nat) :
    ∃ e, p.finishedEvent evaluated violating inconclusive failed = .logged e ∧
      e.Says "pass.finished" [("evaluated", .count evaluated), ("violating", .count violating),
        ("inconclusive", .count inconclusive), ("failed", .count failed)] :=
  ⟨_, rfl, p.context.says_event _ _ _ _ _ (by simp)⟩

theorem opening_eq (p : Pass) (all : List Namespace) : p.opening all =
    p.startedEvent :: (Namespace.labelled all).map p.skippedEvent ++
      [p.listedEvent all.length (Namespace.unlabelled all).length
        (Namespace.labelled all).length] := by
  have hlen := Namespace.length_unlabelled_add_labelled all
  have hskipped : all.length - (Namespace.unlabelled all).length =
      (Namespace.labelled all).length := by omega
  rw [← hskipped, ← Namespace.selectNonEnforcing_fst, ← Namespace.filter_isEnforcing]
  rfl

theorem events_evaluateOne (p : Pass) (ns : Namespace) : (p.evaluateOne ns).events =
    (p.detector.inspect ns).events ++
      (p.evaluatedEvent ns (p.detector.inspect ns).result).event?.toList := by
  rw [evaluateOne, Trace.events_bind, Trace.events_bind, Trace.events_pure, List.append_nil]
  rfl

theorem events_evaluate (h : p.client.namespaces = .ok all) (hr : p.evaluate.result = .ok r) :
    p.evaluate.events = (p.opening all).filterMap DetectStep.event? ++
      (Namespace.unlabelled all).flatMap (fun ns => (p.evaluateOne ns).events) ++
      (p.closing r).filterMap DetectStep.event? := by
  obtain rfl := Except.ok.inj ((result_evaluate h).symm.trans hr)
  rw [Trace.events, steps_evaluate h, List.filterMap_append, List.filterMap_append, stepsOf,
    List.filterMap_flatMap, Namespace.selectNonEnforcing_fst]
  rfl

theorem exists_log (h : p.client.namespaces = .ok all) (hr : p.evaluate.result = .ok r) :
    ∃ g : PassLog, p.evaluate.events = g.events ∧ g.Accounts p all r := by
  obtain ⟨started, hstarted, hstarts⟩ := p.exists_startedEvent
  choose skipped hskipped hskips using p.exists_skippedEvent
  obtain ⟨listed, hlisted, hlists⟩ := p.exists_listedEvent all.length
    (Namespace.unlabelled all).length (Namespace.labelled all).length
  choose concluded hconcluded hconcludes using p.exists_evaluatedEvent
  obtain ⟨rendered, hrendered, hrenders⟩ := p.exists_renderedEvent r.conditions.firing.length
  obtain ⟨finished, hfinished, hfinishes⟩ :=
    p.exists_finishedEvent r.evaluated r.violating r.inconclusive r.failures.length
  refine ⟨⟨started, (Namespace.labelled all).map skipped, listed,
    (Namespace.unlabelled all).map fun ns => ((p.detector.inspect ns).events,
      concluded ns (p.detector.inspect ns).result), rendered, finished⟩, ?_, ?_⟩
  · have hopening : (p.opening all).filterMap DetectStep.event? =
        started :: (Namespace.labelled all).map skipped ++ [listed] := by
      simp [opening_eq, hstarted, hskipped, hlisted, DetectStep.event?, Function.comp_def]
    have hclosing : (p.closing r).filterMap DetectStep.event? = [rendered, finished] := by
      simp [closing, hrendered, hfinished, DetectStep.event?]
    rw [events_evaluate h hr, hopening, hclosing]
    simp [events_evaluateOne, hconcluded, PassLog.events, List.flatMap_map, DetectStep.event?]
  · constructor
    case started => exact hstarts
    case skipped =>
      rw [List.forall₂_map_right_iff, List.forall₂_same]
      exact fun ns _ => hskips ns
    case listed => simpa using hlists
    case split => simpa using (Namespace.length_unlabelled_add_labelled all).symm
    case evaluations =>
      rw [List.forall₂_map_right_iff, List.forall₂_same]
      exact fun ns _ => ⟨rfl, p.detector.isInner_events_inspect ns, hconcludes ns _⟩
    case rendered => exact hrenders
    case finished => exact hfinishes

theorem eq_evaluate_of_yields {steps : List DetectStep} {r' : PassReport}
    (h : p.client.namespaces = .ok all) (hr : p.evaluate.result = .ok r)
    (hw : p.workerCount? (Namespace.unlabelled all).length = some 1) (hy : p.Yields steps r') :
    steps = p.evaluate.steps ∧ r' = r := by
  obtain ⟨hn, hg⟩ := hy
  obtain rfl := Except.ok.inj (h.symm.trans hn)
  obtain rfl := Except.ok.inj ((result_evaluate h).symm.trans hr)
  cases hg with
  | alone => exact ⟨by rw [steps_evaluate h, steps_evaluateAll], rfl⟩
  | together hc hne =>
    rw [Namespace.selectNonEnforcing_fst, hw] at hc
    exact absurd (Option.some.inj hc).symm hne

/-- The events of a pass with one worker account for its namespaces and its report: one of the
events that conclude an evaluation for each namespace evaluated, and one of those that tell of a
failure for each failure. -/
theorem accounts_events_alone (h : p.client.namespaces = .ok all)
    (hw : p.workerCount? (Namespace.unlabelled all).length = some 1) :
    ∃ r, p.evaluate.result = .ok r ∧ p.Yields p.evaluate.steps r ∧
      (∀ steps r', p.Yields steps r' → steps = p.evaluate.steps ∧ r' = r) ∧
      ∃ g : PassLog, p.evaluate.events = g.events ∧ g.Accounts p all r ∧
        g.events.countP (Log.Event.IsNamed PassLog.concluding ·) = r.evaluated ∧
        g.events.countP (Log.Event.IsNamed PassLog.failing ·) = r.failures.length := by
  have hr := result_evaluate h
  have ht := (Reports.alone hr).tells h
  obtain ⟨g, hevents, hg⟩ := exists_log h hr
  refine ⟨_, hr, ?_, fun _ _ => eq_evaluate_of_yields h hr hw, g, hevents, hg,
    hg.countP_concluding ht, hg.countP_failing ht⟩
  rw [steps_evaluate h, ← steps_evaluateAll]
  exact .intro h (.alone (by rw [Namespace.selectNonEnforcing_fst, hw]))

/-- No worker at all counts as one. -/
theorem accounts_events_alone_without_workers :
    let a := (Namespace.named "team-a").addLabel WellKnown.warnLabel "baseline"
    let b := Namespace.named "team-b"
    let c := (Namespace.named "team-c").addLabel WellKnown.enforceLabel "baseline"
    let failing : StringMap Unit := .ofList [("team-a", ())]
    let p : Pass := ⟨Admission.client { namespaces := [c, b, a], dryRunFailures := failing }
      "latest", Admission.evaluator, { (default : Config) with workers := 0 }, ⟨"run", "host"⟩⟩
    p.client.namespaces = .ok [c, b, a] ∧
    p.workerCount? (Namespace.unlabelled [c, b, a]).length = some 1 ∧
    (p.evaluate.events.countP (Log.Event.IsNamed PassLog.concluding ·),
      p.evaluate.events.countP (Log.Event.IsNamed PassLog.failing ·)) = (2, 1) := by
  intro a b c failing p
  have h : p.client.namespaces = .ok [c, b, a] := rfl
  have hw : p.workerCount? (Namespace.unlabelled [c, b, a]).length = some 1 := by decide +kernel
  have hcounts : p.evaluate.result.map (fun r => (r.evaluated, r.failures.length)) =
      .ok (2, 1) := by
    decide +kernel
  obtain ⟨r, hr, -, -, g, hevents, -, hconcluding, hfailing⟩ := accounts_events_alone h hw
  rw [hr] at hcounts
  refine ⟨h, hw, ?_⟩
  rw [hevents, hconcluding, hfailing]
  exact Except.ok.inj hcounts

end Pass

end AdmissionForecast
