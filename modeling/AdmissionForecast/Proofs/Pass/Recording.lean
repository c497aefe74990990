import AdmissionForecast.Pass
import AdmissionForecast.Proofs.Detection.Inspection
import Mathlib.Data.List.Induction

/-! # Recorded results

Each result that a pass records is kept once, as a detection or as a failure, and a detection
with a finding is also filed under its category and verdict. These are kept in step with each
other whichever namespaces were recorded so far and in whichever order.
-/

namespace AdmissionForecast

/-- The verdict under which an outcome is filed. -/
def Outcome.finding? : Outcome → Option Verdict
  | notViolating => none
  | violating _ => some .violating
  | inconclusive _ => some .inconclusive

theorem Outcome.isViolating_eq (o : Outcome) :
    o.isViolating = decide (o.finding? = some .violating) := by
  cases o <;> rfl

theorem Outcome.isInconclusive_eq (o : Outcome) :
    o.isInconclusive = decide (o.finding? = some .inconclusive) := by
  cases o <;> rfl

namespace Findings

/-- The names that detections file under a category and verdict. -/
def filed (c : Category) (v : Verdict) (ds : List Detection) : List String :=
  (ds.filter fun d => d.category = c ∧ d.outcome.finding? = some v).map (·.inNamespace)

theorem names_record (f : Findings) (c c' : Category) (o : Outcome) (name : String)
    (v : Verdict) : (f.record c o name).names c' v =
      f.names c' v ++ if c = c' ∧ o.finding? = some v then [name] else [] := by
  cases o <;> cases c <;> cases c' <;> cases v <;> simp [record, add, Outcome.finding?]

theorem filed_perm {ds ds' : List Detection} (h : ds.Perm ds') (c : Category) (v : Verdict) :
    (filed c v ds).Perm (filed c v ds') :=
  (h.filter _).map _

end Findings

namespace Detector

variable {d : Detector} {ns : Namespace} {nss : List Namespace}

def detection? (d : Detector) (ns : Namespace) : Option Detection := (d.inspect ns).result.toOption

def failure? (d : Detector) (ns : Namespace) : Option NamespaceFailure :=
  match (d.inspect ns).result with
  | .ok _ => none
  | .error e => some ⟨ns.name, Category.classify ns, e.message⟩

theorem detection?_eq_some_iff {x : Detection} :
    d.detection? ns = some x ↔ (d.inspect ns).result = .ok x := by
  unfold detection?
  cases (d.inspect ns).result <;> simp [Except.toOption]

theorem failure?_eq_some_iff {f : NamespaceFailure} : d.failure? ns = some f ↔
    ∃ e, (d.inspect ns).result = .error e ∧ f = ⟨ns.name, Category.classify ns, e.message⟩ := by
  unfold failure?
  cases (d.inspect ns).result <;> simp [eq_comm]

theorem detection?_or_failure? (d : Detector) (ns : Namespace) :
    (∃ x, d.detection? ns = some x ∧ x.inNamespace = ns.name ∧ d.failure? ns = none) ∨
      ∃ f, d.detection? ns = none ∧ d.failure? ns = some f ∧ f.inNamespace = ns.name := by
  unfold detection? failure?
  cases h : (d.inspect ns).result with
  | ok x => exact .inl ⟨x, rfl, inNamespace_of_result_inspect h, rfl⟩
  | error e => exact .inr ⟨_, rfl, rfl, rfl⟩

theorem names_perm (d : Detector) (nss : List Namespace) :
    ((nss.filterMap d.detection?).map (·.inNamespace) ++
      (nss.filterMap d.failure?).map (·.inNamespace)).Perm (nss.map (·.name)) := by
  induction nss with
  | nil => exact .nil
  | cons ns rest ih =>
    rcases d.detection?_or_failure? ns with ⟨x, hd, hn, hf⟩ | ⟨f, hd, hf, hn⟩
    · simpa [hd, hf, hn] using ih
    · simpa [hd, hf, hn] using List.perm_middle.trans (ih.cons ns.name)

theorem length_detections_add_length_failures (d : Detector) (nss : List Namespace) :
    (nss.filterMap d.detection?).length + (nss.filterMap d.failure?).length = nss.length := by
  simpa using (d.names_perm nss).length_eq

end Detector

namespace Pass

variable {p : Pass} {d : Detector} {nss : List Namespace} {done : Progress}

/-- What is known is what the inspections of some namespaces found, in that order. -/
structure Progress.Covers (d : Detector) (nss : List Namespace) (done : Progress) : Prop where
  detections : done.detections = nss.filterMap d.detection?
  failures : done.failures = nss.filterMap d.failure?
  names : ∀ c v, done.findings.names c v = Findings.filed c v done.detections

theorem Progress.covers_nil (d : Detector) : Covers d [] {} := ⟨rfl, rfl, fun _ _ => rfl⟩

theorem Progress.Covers.record (h : done.Covers d nss) (ns : Namespace) :
    (done.record ns (d.inspect ns).result).Covers d (nss ++ [ns]) := by
  cases hr : (d.inspect ns).result with
  | error e =>
    refine ⟨?_, ?_, h.names⟩
    · simpa [Progress.record, Detector.detection?, hr, Except.toOption] using h.detections
    · simp [Progress.record, Detector.failure?, hr, h.failures]
  | ok x =>
    refine ⟨?_, ?_, fun c v => ?_⟩
    · simp [Progress.record, Detector.detection?, hr, h.detections, Except.toOption]
    · simpa [Progress.record, Detector.failure?, hr] using h.failures
    · simp only [Progress.record, Findings.names_record, h.names, Findings.filed,
        List.filter_append, List.map_append, List.filter_cons, List.filter_nil]
      split <;> simp_all

def stepsOf (p : Pass) (nss : List Namespace) : List DetectStep :=
  nss.flatMap fun ns => (p.evaluateOne ns).steps

theorem stepsOf_append (p : Pass) (nss nss' : List Namespace) :
    p.stepsOf (nss ++ nss') = p.stepsOf nss ++ p.stepsOf nss' :=
  List.flatMap_append

theorem stepsOf_singleton (p : Pass) (ns : Namespace) :
    p.stepsOf [ns] = (p.evaluateOne ns).steps :=
  List.flatMap_singleton ..

theorem steps_evaluateAll (p : Pass) (nss : List Namespace) :
    (p.evaluateAll nss).steps = p.stepsOf nss :=
  List.append_nil _

theorem result_evaluateAll (p : Pass) (nss : List Namespace) : (p.evaluateAll nss).result =
    nss.foldl (fun done ns => done.record ns (p.detector.inspect ns).result) {} := by
  have hz : nss.zip (nss.map fun ns => (p.evaluateOne ns).result) =
      nss.map fun ns => (ns, (p.detector.inspect ns).result) := by
    calc nss.zip (nss.map fun ns => (p.evaluateOne ns).result)
        = (nss.map id).zip (nss.map fun ns => (p.evaluateOne ns).result) := by rw [List.map_id]
      _ = nss.map fun ns => (ns, (p.detector.inspect ns).result) := List.zip_map'
  simp only [evaluateAll, Trace.result_bind, Trace.forEach, hz, Trace.result_pure, List.foldl_map]

theorem covers_evaluateAll (p : Pass) (nss : List Namespace) :
    (p.evaluateAll nss).result.Covers p.detector nss := by
  rw [result_evaluateAll]
  induction nss using List.reverseRecOn with
  | nil => exact Progress.covers_nil _
  | append_singleton nss ns ih =>
    rw [List.foldl_append]
    exact ih.record ns

end Pass

end AdmissionForecast
