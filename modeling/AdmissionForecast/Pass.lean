import AdmissionForecast.Condition
import AdmissionForecast.Config.Basic

/-! # Passes

A pass over a cluster: the namespaces that do not enforce a level yet are inspected one by
one, and what is found is put into conditions. A namespace that cannot be evaluated is counted
as a failure and does not stop the pass; only the listing can.
-/

namespace AdmissionForecast

/-- A namespace whose evaluation failed. -/
structure NamespaceFailure where
  inNamespace : String
  category : Category
  error : String
  deriving DecidableEq, Repr

def NamespaceFailure.toJson (f : NamespaceFailure) : Json :=
  .record [Json.field "namespace" (.string f.inNamespace),
    Json.field "category" f.category.toJson, Json.field "error" (.string f.error)]

structure PassReport where
  runId : String
  /-- The number of namespaces in the listing. -/
  listed : Nat
  skippedEnforcing : Nat
  evaluated : Nat
  violating : Nat
  inconclusive : Nat
  failures : List NamespaceFailure
  detections : List Detection
  conditions : ConditionSet
  deriving DecidableEq, Repr

namespace PassReport

def hasFailures (r : PassReport) : Bool := !r.failures.isEmpty

def toJson (r : PassReport) : Json :=
  .record [Json.field "run_id" (.string r.runId), Json.field "listed" (.int r.listed),
    Json.field "skipped_enforcing" (.int r.skippedEnforcing),
    Json.field "evaluated" (.int r.evaluated), Json.field "violating" (.int r.violating),
    Json.field "inconclusive" (.int r.inconclusive),
    Json.field "failures" (.array (r.failures.map NamespaceFailure.toJson)),
    Json.field "detections" (.array (r.detections.map Detection.toJson)),
    Json.field "conditions" (ConditionSet.toJson r.conditions)]

end PassReport

/-- Why a pass as a whole fails. -/
inductive PassError where
  | listNamespaces (cause : ClientError)
  | publish (cause : ClientError)
  deriving DecidableEq, Repr

def PassError.message : PassError → String
  | listNamespaces cause => s!"failed to list namespaces: {cause.message}"
  | publish cause => s!"failed to publish conditions: {cause.message}"

structure Pass where
  client : Client
  evaluator : PodEvaluator
  config : Config
  context : Log.Context

namespace Pass

/-- What is known at some point of a pass, in the order it became known. -/
structure Progress where
  findings : Findings := {}
  detections : List Detection := []
  failures : List NamespaceFailure := []

/-- Takes in the result for one namespace. -/
def Progress.record (p : Progress) (ns : Namespace) (result : Except DetectError Detection) :
    Progress :=
  match result with
  | .ok d =>
    { p with
      findings := p.findings.record d.category d.outcome d.inNamespace
      detections := p.detections ++ [d] }
  | .error e =>
    { p with failures := p.failures ++ [⟨ns.name, Category.classify ns, e.message⟩] }

def detector (p : Pass) : Detector where
  client := p.client
  evaluator := p.evaluator
  fieldManager := p.config.fieldManager
  version := p.config.policyVersion
  attributeUserWorkloads := p.config.attributeUserWorkloads

def event (p : Pass) (severity : Log.Severity) (name : String) (stage : Log.Stage)
    (message : String) (fields : List (String × Log.FieldValue)) : DetectStep :=
  .logged (p.context.event .pass severity name stage message fields)

def startedEvent (p : Pass) : DetectStep :=
  p.event .info "pass.started" .start "starting readiness pass"
    [("workers", .count p.config.workers.toNat)]

def skippedEvent (p : Pass) (ns : Namespace) : DetectStep :=
  p.event .debug "resolve.namespace_skipped" .resolution "namespace already enforces a level"
    [("namespace", .text ns.name)]

def listedEvent (p : Pass) (listed selected skipped : Nat) : DetectStep :=
  p.event .debug "resolve.namespaces_listed" .resolution "selected non-enforcing namespaces"
    [("listed", .count listed), ("selected", .count selected), ("skipped", .count skipped)]

def evaluatedEvent (p : Pass) (ns : Namespace) (result : Except DetectError Detection) :
    DetectStep :=
  match result with
  | .ok d =>
    p.event .debug "simulate.namespace_evaluated" .simulation "namespace evaluated"
      [("namespace", .text ns.name), ("category", .text d.category.name),
        ("outcome", .text d.outcome.verdict)]
  | .error (.internal n reason) =>
    p.event .error "internal_error" .attribution "namespace evaluation hit an internal error"
      [("namespace", .text ns.name), ("error", .plain (DetectError.internal n reason).message)]
  | .error (.collaborator cause) =>
    p.event .warn "simulate.namespace_failed" .simulation "namespace evaluation failed"
      [("namespace", .text ns.name), ("error", .plain cause.message)]

def renderedEvent (p : Pass) (firing : Nat) : DetectStep :=
  p.event .debug "aggregate.conditions_rendered" .aggregation "rendered readiness conditions"
    [("firing", .count firing)]

def finishedEvent (p : Pass) (evaluated violating inconclusive failed : Nat) : DetectStep :=
  p.event .info "pass.finished" .aggregation "readiness pass finished"
    [("evaluated", .count evaluated), ("violating", .count violating),
      ("inconclusive", .count inconclusive), ("failed", .count failed)]

def evaluateOne (p : Pass) (ns : Namespace) : Trace DetectStep (Except DetectError Detection) := do
  let result ← p.detector.inspect ns
  Trace.step (p.evaluatedEvent ns result)
  return result

def evaluateAll (p : Pass) (nss : List Namespace) : Trace DetectStep Progress := do
  let results ← Trace.forEach nss p.evaluateOne
  return (nss.zip results).foldl (fun acc (ns, result) => acc.record ns result) {}

/-- The report on what is known after the last namespace. -/
def report (p : Pass) (listed skipped evaluated : Nat) (done : Progress) : PassReport where
  runId := p.context.runId
  listed := listed
  skippedEnforcing := skipped
  evaluated := evaluated
  violating := done.detections.countP fun d => d.outcome.isViolating
  inconclusive := done.detections.countP fun d => d.outcome.isInconclusive
  failures := done.failures.mergeSort fun a b => decide (a.inNamespace ≤ b.inNamespace)
  detections := done.detections.mergeSort fun a b => decide (a.inNamespace ≤ b.inNamespace)
  conditions := done.findings.render

/-- Evaluates every namespace that does not enforce a level yet. -/
def evaluate (p : Pass) : Trace DetectStep (Except PassError PassReport) := do
  Trace.step p.startedEvent
  match p.client.namespaces with
  | .error e => return .error (.listNamespaces e)
  | .ok all =>
    let _ ← Trace.forEach (all.filter (·.isEnforcing)) fun ns => Trace.step (p.skippedEvent ns)
    let (selected, skipped) := Namespace.selectNonEnforcing all
    Trace.step (p.listedEvent all.length selected.length skipped)
    let done ← p.evaluateAll selected
    let report := p.report all.length skipped selected.length done
    Trace.step (p.renderedEvent (ConditionSet.firing report.conditions).length)
    Trace.step (p.finishedEvent report.evaluated report.violating report.inconclusive
      report.failures.length)
    return .ok report

def publishFailedEvent (p : Pass) (e : ClientError) : DetectStep :=
  p.event .error "publish.failed" .publication "failed to publish conditions"
    [("error", .plain e.message)]

def publishedEvent (p : Pass) : DetectStep :=
  p.event .info "publish.conditions_published" .publication "readiness conditions published" []

/-- Evaluates and then publishes the conditions, with a publisher that gives some result. -/
def sync {m : Type → Type} [Monad m] {ρ : Type} (p : Pass)
    (publish : ConditionSet → m (Trace Log.Event (Except ClientError ρ))) :
    m (Trace DetectStep (Except PassError (PassReport × ρ))) := do
  let evaluated := p.evaluate
  match evaluated.result with
  | .error e => return ⟨evaluated.steps, .error e⟩
  | .ok report =>
    let published ← publish report.conditions
    let steps := evaluated.steps ++ published.steps.map .logged
    match published.result with
    | .error e => return ⟨steps ++ [p.publishFailedEvent e], .error (.publish e)⟩
    | .ok r => return ⟨steps ++ [p.publishedEvent], .ok (report, r)⟩

end Pass

end AdmissionForecast
