import AdmissionForecast.Proofs.Pass.Recording

/-! # What inspections file

A namespace is filed as inconclusive if it asks for nothing, and as violating if its dry run gives
warnings, unless the violation then cannot be attributed.
-/

namespace AdmissionForecast

namespace Findings

def ofVerdicts (verdict? : Namespace → Option Verdict) (nss : List Namespace) : Findings where
  names c v := (nss.filter fun ns => Category.classify ns = c ∧ verdict? ns = some v).map (·.name)

variable {verdict? verdict?' : Namespace → Option Verdict} {nss nss' : List Namespace}

theorem ofVerdicts_perm (h : nss.Perm nss') (c : Category) (v : Verdict) :
    ((ofVerdicts verdict? nss).names c v).Perm ((ofVerdicts verdict? nss').names c v) :=
  (h.filter _).map _

theorem ofVerdicts_congr (h : ∀ ns ∈ nss, verdict? ns = verdict?' ns) :
    ofVerdicts verdict? nss = ofVerdicts verdict?' nss := by
  have hnames (c : Category) (v : Verdict) :
      (ofVerdicts verdict? nss).names c v = (ofVerdicts verdict?' nss).names c v :=
    congrArg (List.map _) (List.filter_congr fun ns hns => by rw [h ns hns])
  exact congrArg Findings.mk (funext₂ hnames)

theorem ofVerdicts_filter (kept : Namespace → Bool)
    (h : ∀ ns ∈ nss, verdict? ns = if kept ns then verdict?' ns else none) :
    ofVerdicts verdict? nss = ofVerdicts verdict?' (nss.filter kept) := by
  rw [ofVerdicts_congr h, ofVerdicts, ofVerdicts]
  congr 1
  funext c v
  rw [List.filter_filter]
  refine congrArg (List.map _) (List.filter_congr fun ns _ => ?_)
  cases kept ns <;> simp

end Findings

namespace Detector

variable {d : Detector} {ns : Namespace} {nss : List Namespace} {e : DetectError}

/-- The dry run for the namespace goes through and gives warnings. -/
def warns (d : Detector) (ns : Namespace) : Bool :=
  match ns.askedValue? with
  | none => false
  | some value =>
    match (d.simulate ns.name value).result with
    | .error _ => false
    | .ok warnings => !warnings.isEmpty

/-- The verdict on the namespace before its violation is attributed. -/
def dryVerdict? (d : Detector) (ns : Namespace) : Option Verdict :=
  if ns.askedValue? = none then some .inconclusive
  else if d.warns ns then some .violating
  else none

/-- Why a violation of the namespace cannot be attributed. -/
def attributionError? (d : Detector) (ns : Namespace) : Option DetectError :=
  ns.askedValue?.bind fun value =>
    match d.attribution ns value with
    | .error e => some e
    | .ok _ => none

/-- The namespace is not one whose violation cannot be attributed. -/
def attributes (d : Detector) (ns : Namespace) : Bool :=
  !d.warns ns || (d.attributionError? ns).isNone

def finding? (d : Detector) (ns : Namespace) : Option Verdict :=
  (d.detection? ns).bind fun x => x.outcome.finding?

theorem finding?_eq (d : Detector) (ns : Namespace) :
    d.finding? ns = if d.attributes ns then d.dryVerdict? ns else none := by
  rcases d.inspect_cases ns with
    ⟨hv, hr⟩ | ⟨value, hv, ⟨e, hs, hr⟩ | ⟨hs, hr⟩ | ⟨warnings, hs, hw, hr⟩⟩
  · simp [finding?, detection?, dryVerdict?, attributes, warns, hv, hr, Except.toOption,
      Outcome.finding?]
  · simp [finding?, detection?, dryVerdict?, attributes, warns, hv, hs, hr, Except.toOption]
  · simp [finding?, detection?, dryVerdict?, attributes, warns, hv, hs, hr, Except.toOption,
      Outcome.finding?]
  · cases ha : d.attribution ns value <;>
      simp [finding?, detection?, dryVerdict?, attributes, warns, attributionError?, hv, hs, hr,
        ha, hw, Except.map, Except.toOption, Outcome.finding?]

theorem result_inspect_of_unattributed (hw : d.warns ns = true)
    (he : d.attributionError? ns = some e) : (d.inspect ns).result = .error e := by
  rcases d.inspect_cases ns with
    ⟨hv, -⟩ | ⟨value, hv, ⟨_, hs, -⟩ | ⟨hs, -⟩ | ⟨warnings, -, -, hr⟩⟩
  · simp [warns, hv] at hw
  · simp [warns, hv, hs] at hw
  · simp [warns, hv, hs] at hw
  · simp only [attributionError?, hv, Option.bind_some] at he
    cases ha : d.attribution ns value with
    | ok a => simp [ha] at he
    | error e' =>
      obtain rfl : e' = e := by simpa [ha] using he
      rw [hr, ha]
      rfl

theorem filed_filterMap_detection? (d : Detector) (nss : List Namespace) (c : Category)
    (v : Verdict) : Findings.filed c v (nss.filterMap d.detection?) =
      (Findings.ofVerdicts d.finding? nss).names c v := by
  dsimp only [Findings.filed, Findings.ofVerdicts]
  induction nss with
  | nil => rfl
  | cons ns nss ih =>
    rw [List.filterMap_cons, List.filter_cons]
    cases hd : d.detection? ns with
    | none => simpa [finding?, hd] using ih
    | some x =>
      obtain ⟨hn, hc⟩ :=
        inNamespace_and_category_of_result_inspect (detection?_eq_some_iff.mp hd)
      by_cases hf : Category.classify ns = c ∧ x.outcome.finding? = some v
      · simpa [finding?, hd, hc, hn, hf] using ih
      · simpa [finding?, hd, hc, hn, hf] using ih

end Detector

end AdmissionForecast
