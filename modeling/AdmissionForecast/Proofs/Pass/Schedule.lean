import AdmissionForecast.Cluster.Admission
import AdmissionForecast.Proofs.Conditions
import AdmissionForecast.Proofs.Detection.Requests
import AdmissionForecast.Proofs.Pass.Crew

/-! # Independence of the schedule

The report of a pass does not depend on how many workers there are, on how their moves are
interleaved or on the order of the listing, except that detections and failures with one name
may change places among each other.
-/

namespace AdmissionForecast

/-- Reports that list the same, possibly in another order, and otherwise say the same. -/
structure PassReport.Agrees (r r' : PassReport) : Prop where
  runId : r.runId = r'.runId
  listed : r.listed = r'.listed
  skippedEnforcing : r.skippedEnforcing = r'.skippedEnforcing
  evaluated : r.evaluated = r'.evaluated
  violating : r.violating = r'.violating
  inconclusive : r.inconclusive = r'.inconclusive
  conditions : r.conditions = r'.conditions
  failures : r.failures.Perm r'.failures
  detections : r.detections.Perm r'.detections

theorem PassReport.Agrees.eq {r r' : PassReport} (h : r.Agrees r') (hf : r.failures = r'.failures)
    (hd : r.detections = r'.detections) : r = r' := by
  obtain ⟨h₁, h₂, h₃, h₄, h₅, h₆, h₇, -, -⟩ := h
  cases r
  cases r'
  simp_all

/-- Reports on some namespaces agree, and are equal if no two of these share a name. -/
def PassReport.SameOn (nss : List Namespace) (r r' : PassReport) : Prop :=
  r.Agrees r' ∧ ((nss.map (·.name)).Nodup → r = r')

namespace Pass

/-- The pass with another listing of the namespaces and another number of workers. -/
def rearranged (p : Pass) (listing : List Namespace) (workers : UInt64) : Pass :=
  { p with client := p.client.relisted listing, config := { p.config with workers } }

variable {p q : Pass} {d : Detector} {all listing nss nss' : List Namespace}
  {done done' : Progress} {steps : List DetectStep}

theorem Progress.Covers.perm_detections (h : done.Covers d nss) (h' : done'.Covers d nss')
    (hp : nss.Perm nss') : done.detections.Perm done'.detections := by
  rw [h.detections, h'.detections]
  exact hp.filterMap _

theorem Progress.Covers.perm_failures (h : done.Covers d nss) (h' : done'.Covers d nss')
    (hp : nss.Perm nss') : done.failures.Perm done'.failures := by
  rw [h.failures, h'.failures]
  exact hp.filterMap _

theorem agrees_report (h : done.Covers d nss) (h' : done'.Covers d nss') (hp : nss.Perm nss')
    (hc : p.context = q.context) (listed skipped evaluated : Nat) :
    (p.report listed skipped evaluated done).Agrees (q.report listed skipped evaluated done') := by
  have hd := h.perm_detections h' hp
  have hn (c : Category) (v : Verdict) :
      (done.findings.names c v).Perm (done'.findings.names c v) := by
    rw [h.names, h'.names]
    exact Findings.filed_perm hd c v
  exact
    { runId := congrArg (·.runId) hc
      listed := rfl
      skippedEnforcing := rfl
      evaluated := rfl
      violating := hd.countP_eq _
      inconclusive := hd.countP_eq _
      conditions := Findings.render_congr hn
      failures := (perm_sortedBy _ _).trans
        ((h.perm_failures h' hp).trans (perm_sortedBy _ _).symm)
      detections := (perm_sortedBy _ _).trans (hd.trans (perm_sortedBy _ _).symm) }

/-- With distinct names there is only one order of detections and failures. -/
theorem sameOn_report (h : done.Covers d nss) (h' : done'.Covers d nss') (hp : nss.Perm nss')
    (hc : p.context = q.context) (listed skipped evaluated : Nat) :
    (p.report listed skipped evaluated done).SameOn nss
      (q.report listed skipped evaluated done') := by
  have ha := agrees_report h h' hp hc listed skipped evaluated
  refine ⟨ha, fun hn => ?_⟩
  have hnames := (d.names_perm nss).nodup_iff.mpr hn
  rw [← h.detections, ← h.failures] at hnames
  refine ha.eq ?_ ?_
  · refine sortedBy_congr (h.perm_failures h' hp) fun a ha b hb hab => ?_
    exact List.inj_on_of_nodup_map hnames.of_append_right ha hb hab
  · refine sortedBy_congr (h.perm_detections h' hp) fun a ha b hb hab => ?_
    exact List.inj_on_of_nodup_map hnames.of_append_left ha hb hab

theorem Progress.covers_relisted_iff :
    done.Covers (d.relisted listing) nss ↔ done.Covers d nss := by
  have hd : (d.relisted listing).detection? = d.detection? := by
    funext ns
    rw [Detector.detection?, Detector.detection?, d.inspect_relisted]
  have hf : (d.relisted listing).failure? = d.failure? := by
    funext ns
    rw [Detector.failure?, Detector.failure?, d.inspect_relisted]
  constructor
  · intro h
    exact ⟨hd ▸ h.detections, hf ▸ h.failures, h.names⟩
  · intro h
    exact ⟨hd.symm ▸ h.detections, hf.symm ▸ h.failures, h.names⟩

theorem workerCount?_eq (p : Pass) (n : Nat) :
    ∃ k, p.workerCount? n = some k ∧ 0 < k ∧ k ≤ max 1 n := by
  refine ⟨max 1 (min p.config.workers.toNat (max n 1)), ?_, ?_, ?_⟩
  · exact if_pos (Nat.le_max_right ..)
  · omega
  · omega

/-- However a pass comes through some namespaces, it covers them in some order and performs the
steps of their evaluations. -/
theorem Gathers.exists_order (h : Gathers p nss steps done) :
    ∃ order, order.Perm nss ∧ done.Covers p.detector order ∧
      steps.Perm (p.stepsOf nss) := by
  cases h with
  | alone => exact ⟨nss, .refl _, covers_evaluateAll p nss, .of_eq (steps_evaluateAll p nss)⟩
  | @together n moves s hc _ hr hf =>
    obtain ⟨k, hk, hpos, -⟩ := p.workerCount?_eq nss.length
    obtain rfl : n = k := Option.some.inj (hc.symm.trans hk)
    have hs : Crew.Sound p nss n moves s := (Crew.sound_start p nss n).run hr
    obtain ⟨order, ho, hd⟩ := hs.covers_of_finished hpos hf
    exact ⟨order, ho, hd, hs.trace_of_finished hpos hf⟩

theorem result_evaluate (h : p.client.namespaces = .ok all) : p.evaluate.result =
    .ok (p.reportOn all (p.evaluateAll (Namespace.selectNonEnforcing all).1).result) := by
  simp only [evaluate, Trace.result_bind, h]
  rfl

theorem steps_evaluate (h : p.client.namespaces = .ok all) : p.evaluate.steps =
    p.opening all ++ p.stepsOf (Namespace.selectNonEnforcing all).1 ++
      p.closing (p.reportOn all (p.evaluateAll (Namespace.selectNonEnforcing all).1).result) := by
  rw [← steps_evaluateAll]
  simp [evaluate, h, Trace.forEach, opening, closing, reportOn, ← List.map_eq_flatMap]

theorem sameOn_reportOn {order order' : List Namespace} (hl : listing.Perm all)
    (h : done.Covers d order) (h' : done'.Covers d order')
    (ho : order.Perm (Namespace.selectNonEnforcing listing).1)
    (ho' : order'.Perm (Namespace.selectNonEnforcing all).1) (hc : p.context = q.context) :
    (p.reportOn listing done).SameOn (Namespace.selectNonEnforcing listing).1
      (q.reportOn all done') := by
  have hs : (Namespace.selectNonEnforcing listing).1.Perm (Namespace.selectNonEnforcing all).1 :=
    hl.filter _
  have hk : (Namespace.selectNonEnforcing listing).2 = (Namespace.selectNonEnforcing all).2 := by
    simp only [Namespace.selectNonEnforcing, hl.length_eq, (hl.filter _).length_eq]
  have hr := sameOn_report h h' (ho.trans (hs.trans ho'.symm)) hc all.length
    (Namespace.selectNonEnforcing all).2 (Namespace.selectNonEnforcing all).1.length
  rw [PassReport.SameOn, (ho.map _).nodup_iff] at hr
  have he : p.reportOn listing done = p.report all.length (Namespace.selectNonEnforcing all).2
      (Namespace.selectNonEnforcing all).1.length done := by
    rw [← hl.length_eq, ← hk, ← hs.length_eq]
    rfl
  rw [he]
  exact hr

/-- Whatever the number of workers and the order of the listing, a crew never gets stuck or goes
on for ever, takes and records each namespace once, and leads to the report of a single worker,
up to the order among namespaces with one name. -/
theorem sameOn_rearranged (p : Pass) (hl : listing.Perm all) (workers : UInt64) :
    let q := p.rearranged listing workers
    let nss := (Namespace.selectNonEnforcing listing).1
    ∃ single, (p.rearranged all 1).evaluate.result = .ok single ∧
      (∃ n, q.workerCount? nss.length = some n ∧ 0 < n ∧ n ≤ max 1 nss.length ∧
        ∀ moves s, Crew.Run q nss (.start n) moves s →
          moves.length ≤ (Crew.start n).work q nss ∧
          (∃ more t, Crew.Run q nss s more t ∧ t.Finished) ∧
          (s.Finished → (Crew.taken moves).Perm (List.range nss.length) ∧
            (Crew.recorded moves).Perm (List.range nss.length) ∧
            s.trace.Perm (q.stepsOf nss) ∧
            (q.reportOn listing s.progress).SameOn nss single)) ∧
      ∀ steps report, q.Yields steps report → report.SameOn nss single := by
  intro q nss
  have hd {order done} (h : Progress.Covers q.detector order done) :
      Progress.Covers p.detector order done := Progress.covers_relisted_iff.mp h
  have hone : Progress.Covers p.detector (Namespace.selectNonEnforcing all).1
      ((p.rearranged all 1).evaluateAll (Namespace.selectNonEnforcing all).1).result :=
    Progress.covers_relisted_iff.mp (covers_evaluateAll (p.rearranged all 1) _)
  refine ⟨_, result_evaluate rfl, ?_, ?_⟩
  · obtain ⟨n, hn, hpos, hle⟩ := q.workerCount?_eq nss.length
    refine ⟨n, hn, hpos, hle, fun moves s hr => ?_⟩
    have hs : Crew.Sound q nss n moves s := (Crew.sound_start q nss n).run hr
    have hbound : moves.length ≤ (Crew.start n).work q nss := by
      have hw := hr.length_add_work
      omega
    refine ⟨hbound, hs.exists_finished, fun hf => ⟨.of_eq (hs.taken_of_finished hpos hf),
      hs.recorded_of_finished hpos hf, hs.trace_of_finished hpos hf, ?_⟩⟩
    obtain ⟨order, ho, hc⟩ := hs.covers_of_finished hpos hf
    exact sameOn_reportOn hl (hd hc) hone ho (.refl _) rfl
  · rintro _ _ ⟨hlist, hg⟩
    obtain rfl := Except.ok.inj hlist
    obtain ⟨order, ho, hc, -⟩ := hg.exists_order
    exact sameOn_reportOn hl (hd hc) hone ho (.refl _) rfl

theorem sameOn_rearranged_four_workers :
    let a := (Namespace.named "team-a").addLabel WellKnown.warnLabel "baseline"
    let b := (Namespace.named "team-b").addLabel WellKnown.auditLabel "restricted"
    let web : Pod :=
      { metadata := { name := "web", inNamespace := some "team-a" }, spec := { hostIPC := true } }
    let p : Pass := ⟨Admission.client { namespaces := [a, b], pods := [web] } "latest",
      Admission.evaluator, default, ⟨"run", "host"⟩⟩
    [b, a].Perm [a, b] ∧ ∀ steps report, (p.rearranged [b, a] 4).Yields steps report →
      (report.evaluated, report.violating, report.inconclusive) = (2, 1, 0) := by
  intro a b web p
  have hl : [b, a].Perm [a, b] := .swap a b []
  obtain ⟨single, hs, -, hy⟩ := sameOn_rearranged p hl 4
  have hn : ((Namespace.selectNonEnforcing [b, a]).1.map (·.name)).Nodup := by decide +kernel
  have hv : (p.rearranged [a, b] 1).evaluate.result.map
      (fun r => (r.evaluated, r.violating, r.inconclusive)) = .ok (2, 1, 0) := by
    decide +kernel
  refine ⟨hl, fun steps report h => ?_⟩
  rw [(hy steps report h).2 hn]
  rw [hs] at hv
  exact Except.ok.inj hv

end Pass

end AdmissionForecast
