import AdmissionForecast.Proofs.Detection.Findings
import AdmissionForecast.Proofs.Pass.Reports

/-! # Attribution and the conditions

Whether violations are attributed makes no difference to the conditions, except that a namespace
whose violation cannot be attributed is listed as a failure and not as violating.
-/

namespace AdmissionForecast

namespace Detector

/-- The detector with attribution switched on or off. -/
def attributing (d : Detector) (on : Bool) : Detector := { d with attributeUserWorkloads := on }

variable {d : Detector} {ns : Namespace} {e : DetectError}

theorem attributes_attributing_false (d : Detector) (ns : Namespace) :
    (d.attributing false).attributes ns = true := by
  have hnone : (d.attributing false).attributionError? ns = none := by
    unfold attributionError? attribution
    cases ns.askedValue? <;> simp [attributing]
  rw [attributes, hnone, Option.isNone_none, Bool.or_true]

/-- Only violations in namespaces of customers are attributed at all. -/
theorem category_of_attributionError? (h : d.attributionError? ns = some e) :
    Category.classify ns = .customer := by
  by_contra hc
  rw [Category.classify_eq_customer_iff] at hc
  unfold attributionError? attribution at h
  cases hv : ns.askedValue? <;> simp [hv, hc] at h

theorem not_attributes_iff : d.attributes ns = false ↔
    d.warns ns = true ∧ ∃ e, d.attributionError? ns = some e := by
  simp [attributes, Option.isSome_iff_exists]

theorem dryVerdict?_of_warns (h : d.warns ns = true) : d.dryVerdict? ns = some .violating := by
  have hv : ns.askedValue? ≠ none := by
    intro hv
    simp [warns, hv] at h
  rw [dryVerdict?, if_neg hv, if_pos h]

end Detector

theorem PassReport.Tells.conditions_eq {d : Detector} {all : List Namespace} {r : PassReport}
    (h : r.Tells d all) : r.conditions =
      (Findings.ofVerdicts d.dryVerdict? ((Namespace.unlabelled all).filter d.attributes)).render := by
  rw [h.conditions]
  exact congrArg Findings.render
    (Findings.ofVerdicts_filter d.attributes fun ns _ => d.finding?_eq ns)

theorem Findings.names_filter_attributes {d : Detector} {nss : List Namespace} {c : Category}
    {v : Verdict} (h : (c, v) ≠ (.customer, .violating)) :
    (ofVerdicts d.dryVerdict? (nss.filter d.attributes)).names c v =
      (ofVerdicts d.dryVerdict? nss).names c v := by
  dsimp only [ofVerdicts]
  rw [List.filter_filter]
  refine congrArg (List.map _) (List.filter_congr fun ns _ => ?_)
  cases ha : d.attributes ns with
  | true => simp
  | false =>
    obtain ⟨hw, e, he⟩ := Detector.not_attributes_iff.mp ha
    have hc := Detector.category_of_attributionError? he
    have hv := Detector.dryVerdict?_of_warns hw
    simp only [hc, hv, Bool.and_false, Bool.false_eq, decide_eq_false_iff_not]
    rintro ⟨rfl, hv'⟩
    exact h (by rw [Option.some.inj hv'])

namespace Pass

/-- The pass with attribution switched on or off. -/
def attributing (p : Pass) (on : Bool) : Pass :=
  { p with config := { p.config with attributeUserWorkloads := on } }

variable {p : Pass} {all : List Namespace}

/-- With attribution the conditions are those without it, for the namespaces that are left when
those whose violation cannot be attributed are taken out. These are customers' namespaces, and
are listed as failures. -/
theorem conditions_attributing (hn : p.client.namespaces = .ok all) :
    let d := (p.attributing true).detector
    let nss := Namespace.unlabelled all
    (∀ b, ∃ r, (p.attributing b).evaluate.result = .ok r) ∧
      ∀ on off, (p.attributing true).Reports on → (p.attributing false).Reports off →
        off.conditions = (Findings.ofVerdicts d.dryVerdict? nss).render ∧
        on.conditions = (Findings.ofVerdicts d.dryVerdict? (nss.filter d.attributes)).render ∧
        (∀ ns ∈ nss, ∀ e, d.warns ns = true → d.attributionError? ns = some e →
          Category.classify ns = .customer ∧ ⟨ns.name, .customer, e.message⟩ ∈ on.failures) ∧
        (∀ c v, (c, v) ≠ (.customer, .violating) →
          ConditionSet.get? on.conditions (Findings.conditionType c v) =
            ConditionSet.get? off.conditions (Findings.conditionType c v)) ∧
        ((∀ ns ∈ nss, d.warns ns = true → d.attributionError? ns = none) →
          on.conditions = off.conditions) := by
  intro d nss
  refine ⟨fun _ => ⟨_, result_evaluate hn⟩, fun on off hon hoff => ?_⟩
  have hall : nss.filter (p.attributing false).detector.attributes = nss :=
    List.filter_eq_self.mpr fun ns _ => p.detector.attributes_attributing_false ns
  have hoff' : off.conditions = (Findings.ofVerdicts d.dryVerdict? nss).render := by
    have h := (hoff.tells hn).conditions_eq
    rwa [hall] at h
  have hon' : on.conditions =
      (Findings.ofVerdicts d.dryVerdict? (nss.filter d.attributes)).render :=
    (hon.tells hn).conditions_eq
  refine ⟨hoff', hon', ?_, ?_, ?_⟩
  · intro ns hns e hw he
    have hc := Detector.category_of_attributionError? he
    refine ⟨hc, (hon.tells hn).failures.mem_iff.mpr (List.mem_filterMap.mpr ⟨ns, hns, ?_⟩)⟩
    rw [← hc]
    exact Detector.failure?_eq_some_iff.mpr
      ⟨e, Detector.result_inspect_of_unattributed hw he, rfl⟩
  · intro c v h
    rw [hoff', hon', Findings.get?_render, Findings.get?_render,
      Findings.names_filter_attributes h]
  · intro h
    have hkept : nss.filter d.attributes = nss := by
      refine List.filter_eq_self.mpr fun ns hns => ?_
      by_contra ha
      obtain ⟨hw, e, he⟩ := Detector.not_attributes_iff.mp (Bool.eq_false_iff.mpr ha)
      rw [h ns hns hw] at he
      cases he
    rw [hoff', hon', hkept]

/-- A pass over namespaces that are all warned about, where `team-a` does not let its pods be
listed. -/
def hidingPods (nss : List Namespace) : Pass where
  client :=
    { namespaces := .ok nss
      dryRun := fun _ sink => (.ok (), sink.push "host namespaces")
      pods := fun ns =>
        if ns = "team-a" then .error (.request "list pods" ns "forbidden") else .ok [] }
  evaluator := Admission.evaluator
  config := default
  context := ⟨"run", "host"⟩

theorem conditions_attributing_hidden_pods :
    let a := (Namespace.named "team-a").addLabel WellKnown.warnLabel "baseline"
    let b := (Namespace.named "team-b").addLabel WellKnown.auditLabel "restricted"
    let p := hidingPods [a, b]
    let violating names : Findings :=
      ⟨fun c v => if (c, v) = (.customer, .violating) then names else []⟩
    p.client.namespaces = .ok [a, b] ∧ ∃ on off,
      (p.attributing true).Reports on ∧ (p.attributing false).Reports off ∧
      on.conditions = (violating ["team-b"]).render ∧
      off.conditions = (violating ["team-a", "team-b"]).render := by
  intro a b p violating
  have hn : p.client.namespaces = .ok [a, b] := rfl
  have hon : (p.attributing true).Reports _ := .alone (result_evaluate hn)
  have hoff : (p.attributing false).Reports _ := .alone (result_evaluate hn)
  obtain ⟨-, h⟩ := conditions_attributing hn
  obtain ⟨h₁, h₂, -⟩ := h _ _ hon hoff
  refine ⟨hn, _, _, hon, hoff, h₂.trans ?_, h₁.trans ?_⟩ <;>
    refine Findings.render_congr fun c v => .of_eq ?_ <;>
    cases c <;> cases v <;> decide +kernel

/-- So attribution may well take a namespace out of its condition. -/
theorem conditions_attributing_ne :
    let p := hidingPods [(Namespace.named "team-a").addLabel WellKnown.warnLabel "baseline"]
    (p.attributing true).evaluate.result.map (·.conditions) ≠
      (p.attributing false).evaluate.result.map (·.conditions) := by
  decide +kernel

end Pass

end AdmissionForecast
