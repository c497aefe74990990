import AdmissionForecast.ExitCode
import AdmissionForecast.Json.Print
import AdmissionForecast.OutputFormat
import AdmissionForecast.Status.Basic

/-! # Reports

How the results of commands are presented: as JSON with sorted members, as lines for people,
or as a one-line summary.
-/

namespace AdmissionForecast.Report

def line (s : String) : String := s ++ "\n"

/-- A value on indented lines, with sorted members. -/
def prettyLine (j : Json) : String := line j.normal.pretty

/-- A value on one line, with sorted members. -/
def compactLine (j : Json) : String := line j.normal.compact

def faultJson (f : Fault) : Json :=
  .record [Json.field "status" (.string "error"),
    Json.field "error" (.record [Json.field "code" (.int f.code),
      Json.field "category" (.string f.category.name), Json.field "message" (.string f.message),
      Json.field "remediation" (.string f.remediation)]),
    Json.field "exit_code" (.string (ExitCode.ofFault f).name)]

def summaryJson (r : PassReport) : Json :=
  .record [Json.field "listed" (.int r.listed),
    Json.field "skipped_enforcing" (.int r.skippedEnforcing),
    Json.field "evaluated" (.int r.evaluated), Json.field "violating" (.int r.violating),
    Json.field "inconclusive" (.int r.inconclusive), Json.field "failed" (.int r.failures.length)]

/-- The report of a pass, with the merged status if there is one. -/
def passJson (r : PassReport) (status : Option Status) : Json :=
  .record [Json.field "run_id" (.string r.runId),
    Json.field "exit_code" (.string (ExitCode.ofReport r).name),
    Json.field "summary" (summaryJson r), Json.field "conditions" (ConditionSet.toJson r.conditions),
    Json.field "namespaces" (.array (r.detections.map Detection.toJson)),
    Json.field "failures" (.array (r.failures.map NamespaceFailure.toJson)),
    Json.field? "status" (status.map Status.toJson)]

def conditionLines (c : Condition) : List String :=
  let marker := match c.status with
    | .true => "✗"
    | .false => "✓"
  s!"{marker} {c.type} [{c.reason}]" :: (c.message.map ("    " ++ ·)).toList

def failureLine (f : NamespaceFailure) : String := s!"! {f.inNamespace}: {f.error}"

def humanLines (r : PassReport) : List String :=
  [s!"Pod Security readiness ({r.runId})",
    s!"  evaluated {r.evaluated} of {r.listed} namespaces ({r.skippedEnforcing} already enforcing)",
    ""] ++ r.conditions.flatMap conditionLines ++ r.failures.map failureLine

def summaryLine (r : PassReport) : String :=
  let code := (ExitCode.ofReport r).name
  s!"{code}: evaluated={r.evaluated} violating={r.violating} inconclusive={r.inconclusive} " ++
    s!"failed={r.failures.length} skipped={r.skippedEnforcing}"

def pass (format : OutputFormat) (r : PassReport) (status : Option Status) : String :=
  match format with
  | .json => prettyLine (passJson r status)
  | .human => String.join ((humanLines r).map line)
  | .summary => line (summaryLine r)

structure ResolvedRow where
  ns : Namespace
  resolved : Except ResolveError ResolvedLevel

def rowJson (row : ResolvedRow) : Json :=
  let known := [Json.field "namespace" (.string row.ns.name),
    Json.field "category" (Category.classify row.ns).toJson,
    Json.field "enforcing" (.bool row.ns.isEnforcing)]
  match row.resolved with
  | .ok r =>
    .record (known ++ [Json.field "level" (.string r.value),
      Json.field "source" (.string r.source.name)])
  | .error e =>
    .record (known ++ [Json.field "level" .null, Json.field "error" (.string e.message)])

def aligned (width : Nat) (s : String) : String :=
  s ++ String.ofList (List.replicate (width - s.length) ' ')

def rowLine (row : ResolvedRow) : String :=
  let level := match row.resolved with
    | .ok r => r.value
    | .error _ => "-"
  aligned 40 row.ns.name ++ " " ++ aligned 18 (Category.classify row.ns).name ++ " " ++ level

def resolved (format : OutputFormat) (rows : List ResolvedRow) : String :=
  match format with
  | .json => prettyLine (.array (rows.map rowJson))
  | .human | .summary => String.join (rows.map fun row => line (rowLine row))

end AdmissionForecast.Report
