import AdmissionForecast.Cluster.Admission
import AdmissionForecast.Proofs.Keys
import AdmissionForecast.Proofs.Level

/-! # Shared sinks

Dry runs over a snapshot may share one sink that is drained now and then. What a dry run answers
and pushes does not depend on the sink, so every warning is drained once or is still pending, in
the order of the dry runs, and a dry run that fails leaves no trace.
-/

namespace AdmissionForecast

/-- What is done with a sink that dry runs share. -/
inductive SinkUse where
  | dryRun (request : DryRunRequest)
  | drain

/-- A shared sink, with the results of the dry runs and the lists that were drained so far. -/
structure SharedSink where
  sink : WarningSink := {}
  results : List (Except ClientError Unit) := []
  drained : List (List String) := []

/-- Admission takes the request: its namespace is listed and not marked as failing, and the value
of the enforce label, if there is one, spells the name of a level. -/
structure Snapshot.Takes (s : Snapshot) (request : DryRunRequest) : Prop where
  listed : ∃ ns ∈ s.namespaces, ns.name = request.inNamespace
  working : request.inNamespace ∉ s.dryRunFailures.keys
  level : ∀ value, request.labels.get? WellKnown.enforceLabel = some value →
    ∃ l : Level, l.SpeltBy value

namespace Admission

variable {s : Snapshot} {version : String} {request : DryRunRequest} {sink : WarningSink}
  {e : ClientError}

theorem dryRun_eq_alone (s : Snapshot) (version : String) (request : DryRunRequest)
    (sink : WarningSink) : dryRun s version request sink =
      ((dryRun s version request {}).1,
        sink.pushAll (dryRun s version request {}).2.pending) := by
  unfold dryRun
  cases answer s version request with
  | ok ws => rfl
  | error e => simp [WarningSink.pushAll]

theorem dryRun_of_error (h : (dryRun s version request sink).1 = .error e) :
    (dryRun s version request {}).2.pending = [] ∧ (dryRun s version request sink).2 = sink := by
  unfold dryRun at h ⊢
  cases ha : answer s version request with
  | ok ws => rw [ha] at h; cases h
  | error e => exact ⟨rfl, rfl⟩

theorem exists_answer_iff : (∃ ws, answer s version request = .ok ws) ↔ s.Takes request := by
  simp only [answer]
  split_ifs with hfails hunlisted
  · have hmem := StringMap.contains_iff_mem_keys.mp hfails
    exact ⟨nofun, fun h => absurd hmem h.working⟩
  · refine ⟨nofun, fun h => ?_⟩
    obtain ⟨ns, hns, hname⟩ := h.listed
    simp only [Bool.not_eq_true', List.any_eq_false, decide_eq_true_eq] at hunlisted
    exact absurd hname (hunlisted ns hns)
  · have hworks : request.inNamespace ∉ s.dryRunFailures.keys :=
      mt StringMap.contains_iff_mem_keys.mpr hfails
    have hlisted : ∃ ns ∈ s.namespaces, ns.name = request.inNamespace := by simpa using hunlisted
    -- what is left to refuse is the value of the label
    cases hv : request.labels.get? WellKnown.enforceLabel with
    | none => exact ⟨fun _ => ⟨hlisted, hworks, by simp [hv]⟩, fun _ => ⟨[], rfl⟩⟩
    | some value =>
      dsimp only
      cases hp : Level.parseAnyCase value with
      | error e =>
        refine ⟨nofun, fun h => ?_⟩
        obtain ⟨l, hl⟩ := h.level value hv
        cases hp.symm.trans (Level.parseAnyCase_eq_ok_iff.mpr hl)
      | ok l =>
        have hl : l.SpeltBy value := Level.parseAnyCase_eq_ok_iff.mp hp
        refine ⟨fun _ => ⟨hlisted, hworks, ?_⟩, fun _ => ⟨_, rfl⟩⟩
        simpa [hv] using ⟨l, hl⟩

theorem dryRun_eq_ok_iff : (dryRun s version request sink).1 = .ok () ↔ s.Takes request := by
  refine Iff.trans ?_ (exists_answer_iff : (∃ ws, answer s version request = .ok ws) ↔ _)
  unfold dryRun
  cases answer s version request <;> simp

end Admission

namespace SharedSink

variable (s : Snapshot) (version : String)

def use (x : SharedSink) : SinkUse → SharedSink
  | .dryRun request =>
    let (result, sink) := Admission.dryRun s version request x.sink
    { x with sink, results := x.results ++ [result] }
  | .drain =>
    let (warnings, sink) := x.sink.drain
    { x with sink, drained := x.drained ++ [warnings] }

def useAll (x : SharedSink) (uses : List SinkUse) : SharedSink := uses.foldl (use s version) x

/-- All warnings that came in, whether they were drained or are still pending. -/
def received (x : SharedSink) : List String := x.drained.flatten ++ x.sink.pending

/-- What a use pushes into a sink of its own. -/
def pushed : SinkUse → List String
  | .dryRun request => (Admission.dryRun s version request {}).2.pending
  | .drain => []

def result? : SinkUse → Option (Except ClientError Unit)
  | .dryRun request => some (Admission.dryRun s version request {}).1
  | .drain => none

/-- What one use receives and answers does not depend on the sink it finds. -/
theorem received_use (x : SharedSink) (u : SinkUse) :
    (x.use s version u).received = x.received ++ pushed s version u ∧
      (x.use s version u).results = x.results ++ (result? s version u).toList := by
  cases u with
  | dryRun request =>
    simp [use, received, pushed, result?, Admission.dryRun_eq_alone s version request x.sink,
      WarningSink.pushAll]
  | drain => simp [use, received, pushed, result?, WarningSink.drain]

theorem received_useAll (x : SharedSink) (uses : List SinkUse) :
    (x.useAll s version uses).received = x.received ++ uses.flatMap (pushed s version) ∧
      (x.useAll s version uses).results = x.results ++ uses.filterMap (result? s version) := by
  induction uses generalizing x with
  | nil => simp [useAll]
  | cons u rest ih =>
    obtain ⟨hreceived, hresults⟩ := received_use s version x u
    obtain ⟨hrest, hrests⟩ := ih (x.use s version u)
    constructor
    · calc (x.useAll s version (u :: rest)).received
          = ((x.use s version u).useAll s version rest).received := rfl
        _ = x.received ++ (u :: rest).flatMap (pushed s version) := by
          rw [hrest, hreceived, List.append_assoc, List.flatMap_cons]
    · calc (x.useAll s version (u :: rest)).results
          = ((x.use s version u).useAll s version rest).results := rfl
        _ = x.results ++ (u :: rest).filterMap (result? s version) := by
          rw [hrests, hresults, List.append_assoc]
          cases h : result? s version u <;> simp [h]

/-- Dry runs that share a sink lose no warning, give none twice and do not see what the others
left there. The ones that fail push nothing, and admission takes the ones it says it does. -/
theorem conserved_useAll (s : Snapshot) (version : String) :
    (∀ uses, let x := useAll s version {} uses
      x.drained.flatten ++ x.sink.pending = uses.flatMap (pushed s version) ∧
      x.results = uses.filterMap (result? s version)) ∧
    (∀ request sink e, (Admission.dryRun s version request sink).1 = .error e →
      pushed s version (.dryRun request) = [] ∧
      (Admission.dryRun s version request sink).2 = sink) ∧
    ∀ request sink, (Admission.dryRun s version request sink).1 = .ok () ↔ s.Takes request := by
  refine ⟨fun uses => ?_, fun _ _ _ h => Admission.dryRun_of_error h,
    fun _ _ => Admission.dryRun_eq_ok_iff⟩
  simpa [received] using received_useAll s version {} uses

theorem conserved_useAll_failing_between :
    let pod : Pod := ⟨{ name := "web", inNamespace := some "team-a" },
      { hostNetwork := true }⟩
    let s : Snapshot := { namespaces := [Namespace.named "team-a"], pods := [pod] }
    let enforcing (name value : String) : DryRunRequest :=
      ⟨name, .ofList [(WellKnown.enforceLabel, value)], "forecast"⟩
    let tight := enforcing "team-a" "Baseline"
    let unlisted := enforcing "team-b" "Baseline"
    let unnamed := enforcing "team-a" "strict"
    let x := useAll s "latest" {} [.dryRun tight, .dryRun unlisted, .drain, .dryRun unnamed]
    (pushed s "latest" (.dryRun tight) ≠ [] ∧
      x.drained.flatten ++ x.sink.pending = pushed s "latest" (.dryRun tight)) ∧
    (Admission.dryRun s "latest" unlisted ⟨["kept"]⟩).2 = ⟨["kept"]⟩ ∧
    s.Takes tight ∧ ¬ s.Takes unnamed := by
  intro pod s enforcing tight unlisted unnamed x
  obtain ⟨hrun, hfail, htakes⟩ := conserved_useAll s "latest"
  obtain ⟨hnone, hkept⟩ := hfail unlisted ⟨["kept"]⟩
    (.request "dry-run apply" "team-b" "namespace not found") rfl
  obtain ⟨hnone', -⟩ := hfail unnamed {}
    (.request "dry-run apply" "team-a" (InvalidLevel.message ⟨"strict"⟩)) (by decide +kernel)
  have hrefused : (Admission.dryRun s "latest" unnamed {}).1 ≠ .ok () := by decide +kernel
  refine ⟨⟨by decide +kernel, ?_⟩, hkept, (htakes tight {}).mp (by decide +kernel),
    fun h => hrefused ((htakes unnamed {}).mpr h)⟩
  calc x.drained.flatten ++ x.sink.pending
      = pushed s "latest" (.dryRun tight) ++ (pushed s "latest" (.dryRun unlisted) ++
          ([] ++ (pushed s "latest" (.dryRun unnamed) ++ []))) := (hrun _).1
    _ = pushed s "latest" (.dryRun tight) := by simp only [hnone, hnone', List.append_nil]

end SharedSink

end AdmissionForecast
