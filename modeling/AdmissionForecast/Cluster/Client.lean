import AdmissionForecast.Check.Basic
import AdmissionForecast.Namespace
import AdmissionForecast.WarningSink

/-! # Clients of a cluster

What the forecast asks of a cluster, whether it is a live one or stands in for one: a listing
of namespaces, dry runs of a change to a namespace's labels, and listings of pods. Every
answer is a function of the request.
-/

namespace AdmissionForecast

inductive ClientError where
  | request (operation inNamespace reason : String)
  | listNamespaces (reason : String)
  | publish (reason : String)
  deriving DecidableEq, Repr

def ClientError.message : ClientError → String
  | request operation ns reason => s!"{operation} failed for namespace {quote ns}: {reason}"
  | listNamespaces reason => s!"list namespaces failed: {reason}"
  | publish reason => s!"publish failed: {reason}"

/-- A change of labels that must not be kept. -/
structure DryRunRequest where
  inNamespace : String
  labels : StringMap String
  fieldManager : String
  deriving DecidableEq

structure Client where
  namespaces : Except ClientError (List Namespace)
  /-- Warnings go to the sink; an error is about the request itself. -/
  dryRun : DryRunRequest → WarningSink → Except ClientError Unit × WarningSink
  pods : String → Except ClientError (List Pod)

abbrev PodEvaluator := LevelVersion → ObjectMeta → PodSpec → List CheckResult

end AdmissionForecast
