import AdmissionForecast.Proofs.Check.Demands
import AdmissionForecast.Proofs.Keys
import AdmissionForecast.Proofs.Text.Quoted

/-! # Capabilities told apart

The check of added capabilities names the containers that add some and lists what they add. The
text does not depend on the names in it for where each of them ends, so it tells the names in their
order and the set of the capabilities.
-/

namespace AdmissionForecast

def Container.added (c : Container) : List String := (c.capabilities?.map (·.add)).getD []

namespace PodSpec

/-- The names of the containers that add some capability beyond the allowed ones, init containers
first. -/
def addersBeyond (allowed : List String) (s : PodSpec) : List String :=
  ((s.initContainers ++ s.containers).filter fun c => ∃ cap ∈ c.added, cap ∉ allowed).map (·.name)

/-- Some container adds a capability, which is not among the allowed ones. -/
def AddsBeyond (allowed : List String) (s : PodSpec) (cap : String) : Prop :=
  cap ∉ allowed ∧ ∃ c ∈ s.initContainers ++ s.containers, cap ∈ c.added

end PodSpec

namespace Check

variable {names names' added added' : List String} {rest rest' : String} {spec spec' : PodSpec}

theorem containersPhrase_append_inj (hrest : EndsList rest) (hrest' : EndsList rest')
    (h : containersPhrase names ++ rest = containersPhrase names' ++ rest') :
    names = names' ∧ rest = rest' := by
  have hlist := congrArg String.toList h
  have hnoun : (counted names "container " "containers ").toList =
      (counted names' "container " "containers ").toList := by
    unfold counted
    by_cases hone : names.length = 1 <;> by_cases hone' : names'.length = 1 <;>
      simp [containersPhrase, counted, hone, hone'] at hlist ⊢
  rw [containersPhrase, containersPhrase, String.toList_inj.mp hnoun, String.append_assoc,
    String.append_assoc] at h
  exact quoteAll_append_inj hrest hrest' ((String.append_right_inj _).mp h)

theorem containersPhrase_injective : Function.Injective containersPhrase := by
  intro names names' h
  exact (containersPhrase_append_inj endsList_empty endsList_empty (by rw [h])).1

theorem pairwise_ascendingOnce (xs : List String) : (ascendingOnce xs).Pairwise (· < ·) :=
  StringMap.pairwise_keys _

theorem mem_ascendingOnce_iff {xs : List String} {x : String} : x ∈ ascendingOnce xs ↔ x ∈ xs := by
  simp [ascendingOnce, StringMap.mem_keys_ofList_iff]

theorem eq_of_ascending (h : added.Pairwise (· < ·)) (h' : added'.Pairwise (· < ·))
    (hmem : ∀ cap, cap ∈ added ↔ cap ∈ added') : added = added' := by
  have hnodup {xs : List String} (hxs : xs.Pairwise (· < ·)) : xs.Nodup := by
    refine hxs.imp fun {a b} hlt => ?_
    rintro rfl
    exact String.lt_irrefl a hlt
  have hperm : added.Perm added' :=
    (List.perm_ext_iff_of_nodup (hnodup h) (hnodup h')).mpr hmem
  exact hperm.eq_of_pairwise (fun _ _ _ _ hlt hgt => absurd hgt (String.lt_asymm hlt)) h h'

namespace Baseline

/-- What is said about containers and the capabilities that they must not add. -/
def capabilitySentence (names added : List String) : String :=
  containersPhrase names ++ (" must not include " ++
    (quoteAll added ++ " in securityContext.capabilities.add"))

theorem capabilitySentence_ne_empty (names added : List String) :
    capabilitySentence names added ≠ "" := by
  simp [capabilitySentence]

/-- The sentence tells the names and the capabilities, whatever is in them: after both lists the
text goes on with a blank. -/
theorem capabilitySentence_inj
    (h : capabilitySentence names added = capabilitySentence names' added') :
    names = names' ∧ added = added' := by
  have hmiddle (added : List String) : EndsList (" must not include " ++
      (quoteAll added ++ " in securityContext.capabilities.add")) := by
    simp [EndsList]
  have hlast : EndsList " in securityContext.capabilities.add" := by simp [EndsList]
  obtain ⟨hnames, hrest⟩ := containersPhrase_append_inj (hmiddle added) (hmiddle added') h
  exact ⟨hnames, (quoteAll_append_inj hlast hlast ((String.append_right_inj _).mp hrest)).1⟩

theorem mem_addedBeyond_iff {allowed : List String} {c : Container} {cap : String} :
    cap ∈ addedBeyond allowed c ↔ cap ∈ c.added ∧ cap ∉ allowed := by
  simp [addedBeyond, Container.added]

theorem offenders_addedBeyond (allowed : List String) (spec : PodSpec) :
    offenders (fun c => !(addedBeyond allowed c).isEmpty) spec = spec.addersBeyond allowed := by
  rw [offenders, PodSpec.addersBeyond, PodSpec.allContainers]
  congr 1
  refine List.filter_congr fun c _ => ?_
  rw [Bool.eq_iff_iff, Bool.not_eq_true', List.isEmpty_eq_false_iff_exists_mem, decide_eq_true_iff]
  simp only [mem_addedBeyond_iff]

theorem details_capabilities (spec : PodSpec) :
    capabilities.details spec = about (spec.addersBeyond allowedCapabilities) fun names =>
      capabilitySentence names
        (ascendingOnce (spec.allContainers.flatMap (addedBeyond allowedCapabilities))) := by
  rw [← offenders_addedBeyond]
  simp [capabilities, capabilityDetails, capabilitySentence, toString, String.append_assoc]

/-- What the check says: nothing where no container adds too much, and else which containers do
and what they add, in ascending order. -/
theorem detail_capabilities (spec : PodSpec) : ∃ added : List String,
    added.Pairwise (· < ·) ∧ (∀ cap, cap ∈ added ↔ spec.AddsBeyond allowedCapabilities cap) ∧
    (capabilities.evaluate spec).detail =
      if spec.addersBeyond allowedCapabilities = [] then ""
      else capabilitySentence (spec.addersBeyond allowedCapabilities) added := by
  refine ⟨ascendingOnce (spec.allContainers.flatMap (addedBeyond allowedCapabilities)),
    pairwise_ascendingOnce _, fun cap => ?_, ?_⟩
  · simp only [mem_ascendingOnce_iff, List.mem_flatMap, mem_addedBeyond_iff, PodSpec.AddsBeyond,
      PodSpec.allContainers]
    exact ⟨fun ⟨c, hc, hcap, hnot⟩ => ⟨hnot, c, hc, hcap⟩,
      fun ⟨hnot, c, hc, hcap⟩ => ⟨c, hc, hcap, hnot⟩⟩
  · rw [Check.evaluate, details_capabilities, about]
    by_cases hnone : spec.addersBeyond allowedCapabilities = []
    · simp [hnone, CheckResult.detail]
    · simp [hnone, CheckResult.detail]

theorem isAllowed_capabilities_iff (spec : PodSpec) :
    (capabilities.evaluate spec).isAllowed = true ↔ spec.addersBeyond allowedCapabilities = [] := by
  rw [isAllowed_evaluate_iff, details_capabilities, about_eq_nil_iff]

theorem detail_capabilities_eq_iff (spec spec' : PodSpec) :
    (capabilities.evaluate spec).detail = (capabilities.evaluate spec').detail ↔
      ((capabilities.evaluate spec).isAllowed = true ∧
        (capabilities.evaluate spec').isAllowed = true) ∨
      (spec.addersBeyond allowedCapabilities = spec'.addersBeyond allowedCapabilities ∧
        ∀ cap, spec.AddsBeyond allowedCapabilities cap ↔
          spec'.AddsBeyond allowedCapabilities cap) := by
  obtain ⟨added, hadded, hmem, hdetail⟩ := detail_capabilities spec
  obtain ⟨added', hadded', hmem', hdetail'⟩ := detail_capabilities spec'
  rw [hdetail, hdetail', isAllowed_capabilities_iff, isAllowed_capabilities_iff]
  by_cases hnone : spec.addersBeyond allowedCapabilities = [] <;>
    by_cases hnone' : spec'.addersBeyond allowedCapabilities = []
  · simp [hnone, hnone']
  · have hne := (capabilitySentence_ne_empty (spec'.addersBeyond allowedCapabilities) added').symm
    simp [hnone, hnone', hne]
  · have hne := capabilitySentence_ne_empty (spec.addersBeyond allowedCapabilities) added
    simp [hnone, hnone', hne]
  · rw [if_neg hnone, if_neg hnone']
    constructor
    · intro h
      obtain ⟨hnames, rfl⟩ := capabilitySentence_inj h
      exact .inr ⟨hnames, fun cap => (hmem cap).symm.trans (hmem' cap)⟩
    · rintro (⟨h, -⟩ | ⟨hnames, hcaps⟩)
      · exact absurd h hnone
      · have hsame : added = added' := eq_of_ascending hadded hadded'
          fun cap => (hmem cap).trans ((hcaps cap).trans (hmem' cap).symm)
        rw [hnames, hsame]

end Baseline

end Check

end AdmissionForecast
