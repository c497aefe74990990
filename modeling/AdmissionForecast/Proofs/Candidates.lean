import AdmissionForecast.Proofs.Level
import AdmissionForecast.Proofs.Resolution
import Mathlib.Data.Set.Basic

/-! # Candidates for a level

Among labels with their values the greatest level counts that a value names exactly. Any other
value is logged and changes nothing, so a choice depends only on which levels are named. Hence a
namespace without the annotation is resolved by the levels its alert labels name, and one with
the annotation may carry any labels.
-/

namespace AdmissionForecast

namespace Namespace

def relabelled (ns : Namespace) (labels : StringMap String) : Namespace :=
  ⟨{ ns.metadata with labels }⟩

/-- One of the alert labels names the level exactly. -/
def Alerts (ns : Namespace) (l : Level) : Prop :=
  ns.label? WellKnown.warnLabel = some l.name ∨ ns.label? WellKnown.auditLabel = some l.name

instance (ns : Namespace) (l : Level) : Decidable (ns.Alerts l) :=
  inferInstanceAs (Decidable (_ ∨ _))

end Namespace

namespace Resolution

variable {inNamespace : String} {cs cs' before after : List (String × String)}
  {c : String × String} {l : Level}

/-- The levels that the values of candidates name exactly. -/
def named (cs : List (String × String)) : Set Level := {l | ∃ c ∈ cs, c.2 = l.name}

/-- A choice of the greatest level that candidates name, which no other candidate disturbs. -/
structure StrictestChoice (pick : List (String × String) → Option Level) : Prop where
  none_iff : ∀ cs, pick cs = none ↔ ∀ c ∈ cs, ¬ Level.IsName c.2
  some_iff : ∀ cs l, pick cs = some l ↔ IsGreatest (named cs) l
  permuted : ∀ cs cs', cs.Perm cs' → pick cs = pick cs'
  repeated : ∀ before c after, c ∈ before ++ after →
    pick (before ++ c :: after) = pick (before ++ after)
  undisturbed : ∀ before c after, ¬ Level.IsName c.2 →
    pick (before ++ c :: after) = pick (before ++ after)
  grown : ∀ before c after l, pick (before ++ after) = some l →
    ∃ l', pick (before ++ c :: after) = some l' ∧ l ≤ l'
  append : ∀ cs cs', pick (cs ++ cs') = Level.strictest ((pick cs).toList ++ (pick cs').toList)

theorem mem_filterMap_ofName?_iff :
    l ∈ cs.filterMap (fun c => Level.ofName? c.2) ↔ l ∈ named cs := by
  simp only [List.mem_filterMap, Level.ofName?_eq_some_iff, named, Set.mem_ofPred_eq]

theorem named_subset (h : cs ⊆ cs') : named cs ⊆ named cs' := by
  rintro l ⟨c, hc, hl⟩
  exact ⟨c, h hc, hl⟩

theorem named_insert (before : List (String × String)) (c : String × String)
    (after : List (String × String)) :
    named (before ++ c :: after) = {l | c.2 = l.name} ∪ named (before ++ after) := by
  ext l
  simp only [named, Set.mem_union, Set.mem_ofPred_eq, List.mem_append, List.mem_cons]
  constructor
  · rintro ⟨x, hx | rfl | hx, hl⟩
    · exact .inr ⟨x, .inl hx, hl⟩
    · exact .inl hl
    · exact .inr ⟨x, .inr hx, hl⟩
  · rintro (hl | ⟨x, hx | hx, hl⟩)
    · exact ⟨c, .inr (.inl rfl), hl⟩
    · exact ⟨x, .inl hx, hl⟩
    · exact ⟨x, .inr (.inr hx), hl⟩

theorem pickStrictest_eq_some_iff :
    (pickStrictest inNamespace cs).result = some l ↔ IsGreatest (named cs) l := by
  rw [pickStrictest, Level.strictest_eq_some_iff]
  simp only [mem_filterMap_ofName?_iff, Set.ofPred_mem_eq]

theorem pickStrictest_eq_none_iff :
    (pickStrictest inNamespace cs).result = none ↔ ∀ c ∈ cs, ¬ Level.IsName c.2 := by
  rw [pickStrictest, Level.strictest_eq_none_iff, List.filterMap_eq_nil_iff]
  exact forall₂_congr fun c _ => Level.ofName?_eq_none_iff

theorem pickStrictest_congr (h : named cs = named cs') (inNamespace' : String) :
    (pickStrictest inNamespace cs).result = (pickStrictest inNamespace' cs').result := by
  refine Option.ext fun l => ?_
  rw [pickStrictest_eq_some_iff, pickStrictest_eq_some_iff, h]

theorem pickStrictest_mono (hsub : named cs ⊆ named cs')
    (h : (pickStrictest inNamespace cs).result = some l) :
    ∃ l', (pickStrictest inNamespace cs').result = some l' ∧ l ≤ l' := by
  refine Level.strictest_mono (fun k hk => ?_) h
  exact mem_filterMap_ofName?_iff.mpr (hsub (mem_filterMap_ofName?_iff.mp hk))

theorem strictestChoice_pickStrictest (inNamespace : String) :
    StrictestChoice fun cs => (pickStrictest inNamespace cs).result where
  none_iff _ := pickStrictest_eq_none_iff
  some_iff _ _ := pickStrictest_eq_some_iff
  permuted cs cs' h :=
    pickStrictest_congr ((named_subset h.subset).antisymm (named_subset h.symm.subset)) _
  repeated before c after h := by
    refine pickStrictest_congr ?_ _
    rw [named_insert, Set.union_eq_right]
    exact fun l hl => ⟨c, h, hl⟩
  undisturbed before c after h := by
    refine pickStrictest_congr ?_ _
    rw [named_insert, Set.union_eq_right]
    exact fun l hl => absurd ⟨l, hl⟩ h
  grown before c after l h := by
    refine pickStrictest_mono ?_ h
    rw [named_insert]
    exact Set.subset_union_right
  append cs cs' := by
    simp only [pickStrictest, List.filterMap_append]
    exact Level.strictest_append ..

theorem steps_pickStrictest (inNamespace : String) (cs : List (String × String)) :
    (pickStrictest inNamespace cs).steps = (cs.filter fun c => ¬ Level.IsName c.2).map fun c =>
      ignoredEvent inNamespace c.1 c.2 ⟨c.2⟩ := by
  rw [pickStrictest, ← List.filterMap_eq_map, List.filterMap_filter]
  refine List.filterMap_congr fun c _ => ?_
  unfold ignored? Level.parse
  cases h : Level.ofName? c.2 with
  | none => simp [Level.ofName?_eq_none_iff.mp h]
  | some l => simp [show Level.IsName c.2 from ⟨l, Level.ofName?_eq_some_iff.mp h⟩]

theorem named_candidates (ns : Namespace) : named (candidates ns) = {l | ns.Alerts l} := by
  ext l
  rw [← mem_filterMap_ofName?_iff, filterMap_candidates]
  simp [Option.bind_eq_some_iff, Level.ofName?_eq_some_iff, Namespace.Alerts]

theorem result_resolve_eq_ok_iff {ns : Namespace} {r : ResolvedLevel}
    (h : ns.annotated? WellKnown.sufficientLevelKey = none) :
    (resolve ns).result = .ok r ↔
      ∃ l, IsGreatest {k | ns.Alerts k} l ∧ r = ⟨l.name, .alertLabels⟩ := by
  have hpicked (l : Level) : IsGreatest {k | ns.Alerts k} l ↔
      (pickStrictest ns.name (candidates ns)).result = some l := by
    rw [pickStrictest_eq_some_iff, named_candidates]
  simp only [hpicked, resolve, h, Trace.result_bind]
  cases (pickStrictest ns.name (candidates ns)).result <;> simp [eq_comm]

theorem result_resolve_congr {ns ns' : Namespace}
    (h : ns.annotated? WellKnown.sufficientLevelKey = none)
    (h' : ns'.annotated? WellKnown.sufficientLevelKey = none)
    (hl : ∀ l, ns.Alerts l ↔ ns'.Alerts l) : (resolve ns).result = (resolve ns').result := by
  have hok (r : ResolvedLevel) : (resolve ns).result = .ok r ↔ (resolve ns').result = .ok r := by
    simp only [result_resolve_eq_ok_iff h, result_resolve_eq_ok_iff h', hl]
  cases hr : (resolve ns').result with
  | ok r => exact (hok r).mpr hr
  | error e =>
    cases hs : (resolve ns).result with
    | ok r => cases ((hok r).mp hs).symm.trans hr
    | error e' => rfl

/-- The choice among candidates is a maximum that other values cannot disturb, and it logs each of
these once. A namespace with the annotation is resolved by it whatever its labels are, and one
without it by the levels that its alert labels name. -/
theorem strictestChoice_and_resolve :
    (∀ inNamespace, StrictestChoice fun cs => (pickStrictest inNamespace cs).result) ∧
    (∀ inNamespace cs,
      (pickStrictest inNamespace cs).steps = (cs.filter fun c => ¬ Level.IsName c.2).map
        (fun c => ignoredEvent inNamespace c.1 c.2 ⟨c.2⟩) ∧
      ∀ e ∈ (pickStrictest inNamespace cs).steps, e.severity = .debug) ∧
    (∀ (ns : Namespace) value, ns.annotated? WellKnown.sufficientLevelKey = some value →
      ∀ labels, resolve (ns.relabelled labels) = pure (.ok ⟨value, .sufficientLevel⟩)) ∧
    ∀ ns ns' : Namespace, ns.annotated? WellKnown.sufficientLevelKey = none →
      ns'.annotated? WellKnown.sufficientLevelKey = none →
      (∀ l, ns.Alerts l ↔ ns'.Alerts l) → (resolve ns).result = (resolve ns').result := by
  refine ⟨strictestChoice_pickStrictest, fun inNamespace cs => ?_, fun ns value h labels => ?_,
    fun ns ns' => result_resolve_congr⟩
  · have hsteps := steps_pickStrictest inNamespace cs
    refine ⟨hsteps, fun e he => ?_⟩
    rw [hsteps] at he
    obtain ⟨c, -, rfl⟩ := List.mem_map.mp he
    rfl
  · have hlabels : (ns.relabelled labels).annotated? WellKnown.sufficientLevelKey = some value := h
    rw [resolve, hlabels]

theorem strictestChoice_and_resolve_beside_junk :
    let pick := fun cs => (pickStrictest "team-a" cs).result
    let a := ((Namespace.named "team-a").addLabel WellKnown.warnLabel "baseline").addLabel
      WellKnown.auditLabel "Restricted"
    let b := (Namespace.named "team-b").addLabel WellKnown.auditLabel "baseline"
    let c := (Namespace.named "team-c").annotate WellKnown.sufficientLevelKey "Baseline"
    (¬ Level.IsName "Restricted" ∧
      pick [(WellKnown.auditLabel, "Restricted"), (WellKnown.warnLabel, "baseline")] =
        some .baseline) ∧
    (∀ labels, resolve (c.relabelled labels) = pure (.ok ⟨"Baseline", .sufficientLevel⟩)) ∧
    (∀ l, a.Alerts l ↔ b.Alerts l) ∧ (resolve a).result = (resolve b).result := by
  intro pick a b c
  obtain ⟨hchoice, -, hannotated, halerts⟩ := strictestChoice_and_resolve
  have hjunk : ¬ Level.IsName "Restricted" := by decide
  have hl : ∀ l, a.Alerts l ↔ b.Alerts l := by
    intro l
    cases l <;> decide +kernel
  refine ⟨⟨hjunk, ?_⟩, hannotated c "Baseline" (by decide +kernel), hl,
    halerts a b (by decide +kernel) (by decide +kernel) hl⟩
  exact (hchoice "team-a").undisturbed [] _ [(WellKnown.warnLabel, "baseline")] hjunk

end Resolution

end AdmissionForecast
