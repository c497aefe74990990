import AdmissionForecast.Proofs.Check.Demands

/-! # Stricter levels

A stricter level forbids a pod for all the reasons of a weaker one, in the same order. One check
of the baseline gives way at the restricted level, and the check in its place has the same reason
and is at least as hard to pass.
-/

namespace AdmissionForecast

namespace Check

variable {weaker stricter : Level} {spec : PodSpec}

/-- The reasons of the checks that find fault with a spec. -/
def failingReasons (checks : List Check) (spec : PodSpec) : List String :=
  (checks.filter fun c => c.details spec ≠ []).map (·.reason)

theorem reasons_evaluate (checks : List Check) (spec : PodSpec) :
    ((checks.map fun c => c.evaluate spec).filter fun r => !r.isAllowed).map (·.reason) =
      failingReasons checks spec := by
  have hr (c : Check) : (c.evaluate spec).isAllowed = false →
      (c.evaluate spec).reason = c.reason := by
    unfold evaluate
    split
    · intro h; cases h
    · intro _; rfl
  have hf (c : Check) : (!(c.evaluate spec).isAllowed) = decide (c.details spec ≠ []) := by
    rw [Bool.eq_iff_iff, Bool.not_eq_true', decide_eq_true_iff, ne_eq, ← isAllowed_evaluate_iff,
      Bool.not_eq_true]
  rw [List.filter_map, List.map_map, failingReasons]
  simp only [Function.comp_def, hf]
  refine List.map_congr_left fun c hc => hr c ?_
  simpa [← isAllowed_evaluate_iff] using (List.mem_filter.mp hc).2

theorem forbiddenReasons_eq (level : Level) (spec : PodSpec) :
    forbiddenReasons level spec = failingReasons (enforcedAt level) spec :=
  reasons_evaluate (enforcedAt level) spec

theorem failingReasons_append (checks others : List Check) (spec : PodSpec) :
    failingReasons (checks ++ others) spec =
      failingReasons checks spec ++ failingReasons others spec := by
  simp [failingReasons]

theorem enforcedAt_baseline : enforcedAt .baseline = Baseline.all := rfl

/-- The last check of the baseline is the one that gives way. -/
theorem enforcedAt_restricted :
    enforcedAt .restricted = Baseline.all.dropLast ++ Restricted.all := rfl

/-- A pod whose profiles all confine has no unconfined one: neither its own nor one of its
containers, whether or not a container leaves the choice to the pod. -/
theorem details_seccompProfile_eq_nil (h : Restricted.seccompProfile.details spec = []) :
    Baseline.seccompProfile.details spec = [] := by
  obtain ⟨hpod, hcontainers⟩ := Restricted.details_seccompProfile_eq_nil_iff.mp h
  have hno : Restricted.isConfining "Unconfined" ≠ true := by decide
  refine Baseline.details_seccompProfile_eq_nil_iff.mpr ⟨fun hk => hno (hpod _ hk), ?_⟩
  intro c hc hk
  obtain ⟨kind, hkind, hconfining⟩ := hcontainers c hc
  rw [Container.confinement?, hk] at hkind
  obtain rfl : "Unconfined" = kind := Option.some.inj hkind
  exact hno hconfining

/-- Where a check gives way to one with the same reason that is at least as hard to pass, the
reasons that follow still contain its own. -/
theorem sublist_failingReasons_of_mem {weak strong : Check} {checks : List Check}
    (hs : strong ∈ checks) (hr : weak.reason = strong.reason)
    (h : strong.details spec = [] → weak.details spec = []) :
    (failingReasons [weak] spec).Sublist (failingReasons checks spec) := by
  by_cases hw : weak.details spec = []
  · simp [failingReasons, hw]
  · have hm : weak.reason ∈ failingReasons checks spec := by
      rw [hr]
      exact List.mem_map_of_mem (List.mem_filter.mpr ⟨hs, by simpa using mt h hw⟩)
    simpa [failingReasons, hw] using hm

theorem sublist_forbiddenReasons_restricted (spec : PodSpec) :
    (forbiddenReasons .baseline spec).Sublist (forbiddenReasons .restricted spec) := by
  have hb : forbiddenReasons .baseline spec = failingReasons Baseline.all.dropLast spec ++
      failingReasons [Baseline.seccompProfile] spec := by
    rw [forbiddenReasons_eq, enforcedAt_baseline, ← failingReasons_append]
    rfl
  have hm : Restricted.seccompProfile ∈ Restricted.all := by simp [Restricted.all]
  have hr : Baseline.seccompProfile.reason = Restricted.seccompProfile.reason := rfl
  rw [hb, forbiddenReasons_eq, enforcedAt_restricted, failingReasons_append]
  exact (sublist_failingReasons_of_mem hm hr details_seccompProfile_eq_nil).append_left _

theorem sublist_forbiddenReasons (h : weaker ≤ stricter) (spec : PodSpec) :
    (forbiddenReasons weaker spec).Sublist (forbiddenReasons stricter spec) := by
  cases weaker with
  | privileged => exact List.nil_sublist _
  | baseline =>
    cases stricter with
    | privileged => exact absurd h (by decide)
    | baseline => exact List.Sublist.refl _
    | restricted => exact sublist_forbiddenReasons_restricted spec
  | restricted =>
    cases stricter with
    | privileged | baseline => exact absurd h (by decide)
    | restricted => exact List.Sublist.refl _

theorem Forbids.of_le (h : weaker ≤ stricter) (hf : Forbids weaker spec) :
    Forbids stricter spec := by
  by_contra hn
  have hs := sublist_forbiddenReasons h spec
  rw [forbiddenReasons_eq_nil_iff.mpr hn, List.sublist_nil, forbiddenReasons_eq_nil_iff] at hs
  exact hs hf

end Check

end AdmissionForecast
