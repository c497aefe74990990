import AdmissionForecast.Proofs.Check.Strictness
import AdmissionForecast.Proofs.Cluster.Admission

/-! # Silent dry runs

A dry run at a level is silent if it adds nothing to the sink. What a stricter level is silent
about, a weaker one is silent about too, and the other way round with pods that fail.
-/

namespace AdmissionForecast

/-- The reasons that an evaluator gives against a pod. -/
def PodEvaluator.reasons (evaluator : PodEvaluator) (level : LevelVersion) (metadata : ObjectMeta)
    (spec : PodSpec) : List String :=
  ((evaluator level metadata spec).filter fun r => !r.isAllowed).map (·.reason)

/-- A request that tries a level, spelled in any case. -/
def DryRunRequest.Tries (request : DryRunRequest) (level : Level) : Prop :=
  ∃ value, request.labels.get? WellKnown.enforceLabel = some value ∧
    Level.parseAnyCase value = .ok level

namespace Admission

variable {s : Snapshot} {request : DryRunRequest} {version : String} {level : Level}
  {sink : WarningSink}

theorem reasons_evaluator (level : LevelVersion) (metadata : ObjectMeta) (spec : PodSpec) :
    evaluator.reasons level metadata spec = Check.forbiddenReasons level.level spec := rfl

theorem exists_not_isAllowed_iff {level : LevelVersion} {metadata : ObjectMeta} {spec : PodSpec} :
    (∃ r ∈ evaluator level metadata spec, r.isAllowed = false) ↔
      Check.Forbids level.level spec := by
  rw [← Check.any_evaluateAll_iff]
  simp [evaluator]

theorem dryRun_eq_iff :
    dryRun s version request sink = (.ok (), sink) ↔ answer s version request = .ok [] := by
  unfold dryRun
  cases answer s version request with
  | error e => simp
  | ok ws =>
    cases sink
    simp [WarningSink.pushAll]

theorem answer_of_tries (htries : request.Tries level)
    (hn : ∃ ns ∈ s.namespaces, ns.name = request.inNamespace) :
    answer s version request =
      if s.dryRunFailures.contains request.inNamespace then
        .error (.request dryRunOperation request.inNamespace "simulated failure")
      else .ok (warnings request.inNamespace ⟨level, version⟩ (s.podsIn request.inNamespace)) := by
  obtain ⟨value, hv, hp⟩ := htries
  have ho : Level.ofName? value.toLower = some level := by
    cases hk : Level.ofName? value.toLower <;> simp_all [Level.parseAnyCase, Level.parse]
  rw [answer_of_listed hn hv, ho]
  rfl

theorem answer_eq_nil_iff (hl : request.Tries level) :
    answer s version request = .ok [] ↔
      s.dryRunFailures.contains request.inNamespace = false ∧
        (∃ ns ∈ s.namespaces, ns.name = request.inNamespace) ∧
        ∀ pod ∈ s.podsIn request.inNamespace, ¬ Check.Forbids level pod.spec := by
  by_cases hn : ∃ ns ∈ s.namespaces, ns.name = request.inNamespace
  · rw [answer_of_tries hl hn]
    by_cases hf : s.dryRunFailures.contains request.inNamespace
    · simp [hf]
    · simp [hf, hn, warnings_eq_nil_iff]
  · have ha : s.namespaces.any (fun n => n.name = request.inNamespace) = false := by
      simpa using hn
    unfold answer
    simp only [ha]
    split <;> simp_all

/-- A stricter level gives at least the reasons of a weaker one, in the same order, for any
versions of the policy, although one check of the baseline is not enforced any more. So its silence
is silence at the weaker level too, and a pod that fails at the weaker level fails. -/
theorem forbids_more_of_le {weaker stricter : Level} (h : weaker ≤ stricter) :
    (∀ version metadata spec, evaluator.reasons ⟨.privileged, version⟩ metadata spec = []) ∧
    (∀ version version' metadata spec,
      (evaluator.reasons ⟨weaker, version⟩ metadata spec).Sublist
        (evaluator.reasons ⟨stricter, version'⟩ metadata spec)) ∧
    Check.Baseline.seccompProfile.id ∉ (Check.enforcedAt .restricted).map (·.id) ∧
    (∀ (s : Snapshot) version version' (request request' : DryRunRequest) sink sink',
      request.inNamespace = request'.inNamespace → request.Tries weaker →
      request'.Tries stricter → (client s version').dryRun request' sink' = (.ok (), sink') →
      (client s version).dryRun request sink = (.ok (), sink)) ∧
    ∀ version version' metadata spec,
      (∃ r ∈ evaluator ⟨weaker, version⟩ metadata spec, r.isAllowed = false) →
      ∃ r ∈ evaluator ⟨stricter, version'⟩ metadata spec, r.isAllowed = false := by
  refine ⟨fun version metadata spec => rfl, fun version version' metadata spec => ?_, by decide,
    ?_, ?_⟩
  · rw [reasons_evaluator, reasons_evaluator]
    exact Check.sublist_forbiddenReasons h spec
  · intro s version version' request request' sink sink' hn hw hs hsilent
    have ha := (answer_eq_nil_iff hs).mp (dryRun_eq_iff.mp hsilent)
    rw [← hn] at ha
    obtain ⟨hf, hl, hpods⟩ := ha
    refine dryRun_eq_iff.mpr ((answer_eq_nil_iff hw).mpr ⟨hf, hl, fun pod hpod hforbids => ?_⟩)
    exact hpods pod hpod (hforbids.of_le h)
  · intro version version' metadata spec hfails
    rw [exists_not_isAllowed_iff] at hfails ⊢
    exact hfails.of_le h

theorem forbids_more_of_le_hardened :
    let hardened : SecurityContext :=
      ⟨none, some false, some true, none, some ⟨[], ["ALL"]⟩, some .runtimeDefault, none⟩
    let unconfined : SecurityContext :=
      { hardened with seccompProfile := some ⟨"Unconfined", none⟩ }
    let spec (context : SecurityContext) (hostPID : Bool) : PodSpec :=
      { hostPID, initContainers := [{ name := "setup", securityContext := some context }] }
    let pod : Pod := ⟨{ name := "app", inNamespace := some "team-a" }, spec hardened false⟩
    let s : Snapshot := ⟨[.named "team-a"], [pod], .empty⟩
    let request (value : String) : DryRunRequest :=
      ⟨"team-a", StringMap.empty.insert WellKnown.enforceLabel value, "manager"⟩
    Level.baseline ≤ Level.restricted ∧
      (["host namespaces", "seccompProfile"].Sublist
        (evaluator.reasons ⟨.restricted, "latest"⟩ pod.metadata (spec unconfined true))) ∧
      (client s "latest").dryRun (request "Restricted") {} = (.ok (), {}) ∧
      (client s "v1.30").dryRun (request "baseline") ⟨["old"]⟩ = (.ok (), ⟨["old"]⟩) ∧
      ∃ r ∈ evaluator ⟨.restricted, "v1.30"⟩ pod.metadata (spec hardened true),
        r.isAllowed = false := by
  intro hardened unconfined spec pod s request
  have h : Level.baseline ≤ Level.restricted := by decide
  obtain ⟨-, hsublist, -, hsilent, hfails⟩ := forbids_more_of_le h
  have hreasons : evaluator.reasons ⟨.baseline, "v1.30"⟩ pod.metadata (spec unconfined true) =
      ["host namespaces", "seccompProfile"] := by decide +kernel
  have hw : (request "baseline").Tries .baseline :=
    ⟨"baseline", by decide +kernel, by decide +kernel⟩
  have hs : (request "Restricted").Tries .restricted :=
    ⟨"Restricted", by decide +kernel, by decide +kernel⟩
  have hrestricted : (client s "latest").dryRun (request "Restricted") {} = (.ok (), {}) :=
    dryRun_eq_iff.mpr ((answer_eq_nil_iff hs).mpr
      ⟨rfl, ⟨.named "team-a", by simp [s], rfl⟩, by decide +kernel⟩)
  have hbad : ∃ r ∈ evaluator ⟨.baseline, "latest"⟩ pod.metadata (spec hardened true),
      r.isAllowed = false := by decide +kernel
  refine ⟨h, hreasons ▸ hsublist "v1.30" "latest" pod.metadata (spec unconfined true), hrestricted,
    ?_, hfails _ _ _ _ hbad⟩
  exact hsilent s _ _ (request "baseline") (request "Restricted") _ _ rfl hw hs hrestricted

end Admission

end AdmissionForecast
