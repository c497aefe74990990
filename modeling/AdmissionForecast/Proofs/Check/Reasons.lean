import AdmissionForecast.Proofs.Check.Strictness
import Mathlib.Data.List.Basic
import Mathlib.Data.List.Nodup

/-! # Reasons in one text

The reasons of the checks of a level all differ and none has a comma in it. So the one text that
lists the reasons against a pod tells which checks the pod fails.
-/

namespace AdmissionForecast

namespace Text

variable {part : String} {parts parts' : List String}

/-- The blank after a comma can as well stand before the part that follows. -/
theorem intercalate_comma (part : String) (parts : List String) :
    ", ".intercalate (part :: parts) = ",".intercalate (part :: parts.map (" " ++ ·)) := by
  induction parts generalizing part with
  | nil => rfl
  | cons next parts ih =>
    have hsep : ", " = "," ++ " " := rfl
    rw [String.intercalate_cons_cons, ih, List.map_cons, String.intercalate_cons_cons,
      String.intercalate_cons_append, hsep]
    simp only [String.append_assoc]

theorem split_intercalate (hne : parts ≠ []) (h : ∀ part ∈ parts, ',' ∉ part.toList) :
    ((",".intercalate parts).split ',').toList.map (·.copy) = parts := by
  have hs := String.toList_split_intercalate h
  rwa [if_neg hne] at hs

theorem eq_of_intercalate (hne : parts ≠ []) (hne' : parts' ≠ [])
    (h : ∀ part ∈ parts, ',' ∉ part.toList) (h' : ∀ part ∈ parts', ',' ∉ part.toList)
    (heq : ", ".intercalate parts = ", ".intercalate parts') : parts = parts' := by
  have hblank (part : String) (hp : ',' ∉ part.toList) : ',' ∉ (" " ++ part).toList := by
    simpa using hp
  obtain ⟨part, parts, rfl⟩ := List.exists_cons_of_ne_nil hne
  obtain ⟨part', parts', rfl⟩ := List.exists_cons_of_ne_nil hne'
  obtain ⟨hpart, hparts⟩ := List.forall_mem_cons.mp h
  obtain ⟨hpart', hparts'⟩ := List.forall_mem_cons.mp h'
  rw [intercalate_comma, intercalate_comma] at heq
  have hcons : part :: parts.map (" " ++ ·) = part' :: parts'.map (" " ++ ·) := by
    rw [← split_intercalate (List.cons_ne_nil part _), heq,
      split_intercalate (List.cons_ne_nil part' _)]
    · exact List.forall_mem_cons.mpr
        ⟨hpart', List.forall_mem_map.mpr fun p hp => hblank p (hparts' p hp)⟩
    · exact List.forall_mem_cons.mpr
        ⟨hpart, List.forall_mem_map.mpr fun p hp => hblank p (hparts p hp)⟩
  obtain ⟨rfl, hrest⟩ := List.cons.inj hcons
  have hinj : Function.Injective (" " ++ · : String → String) :=
    fun _ _ => (String.append_right_inj " ").mp
  rw [List.map_injective_iff.mpr hinj hrest]

end Text

namespace Check

variable {c : Check} {level : Level} {spec spec' : PodSpec}

/-- The specs fail the same checks of a level. -/
def FailAlike (level : Level) (spec spec' : PodSpec) : Prop :=
  ∀ c ∈ enforcedAt level, (c.evaluate spec).isAllowed = (c.evaluate spec').isAllowed

def reasonText (level : Level) (spec : PodSpec) : String :=
  ", ".intercalate (forbiddenReasons level spec)

theorem nodup_reasons (level : Level) : ((enforcedAt level).map (·.reason)).Nodup := by
  cases level <;> decide

theorem comma_not_mem_reason (level : Level) :
    ∀ c ∈ enforcedAt level, ',' ∉ c.reason.toList := by
  cases level <;> decide

theorem mem_forbiddenReasons_iff {reason : String} :
    reason ∈ forbiddenReasons level spec ↔
      ∃ c ∈ enforcedAt level, c.details spec ≠ [] ∧ c.reason = reason := by
  simp [forbiddenReasons_eq, failingReasons, and_assoc]

/-- A check is failed exactly if its reason is given, as no other check has this reason. -/
theorem reason_mem_forbiddenReasons_iff (h : c ∈ enforcedAt level) :
    c.reason ∈ forbiddenReasons level spec ↔ c.details spec ≠ [] := by
  rw [mem_forbiddenReasons_iff]
  constructor
  · rintro ⟨c', hc', hfails, hreason⟩
    obtain rfl : c' = c := List.inj_on_of_nodup_map (nodup_reasons level) hc' h hreason
    exact hfails
  · intro hfails
    exact ⟨c, h, hfails, rfl⟩

theorem forbiddenReasons_eq_iff :
    forbiddenReasons level spec = forbiddenReasons level spec' ↔ FailAlike level spec spec' := by
  constructor
  · intro h c hc
    rw [Bool.eq_iff_iff, isAllowed_evaluate_iff, isAllowed_evaluate_iff, ← not_iff_not,
      ← ne_eq, ← ne_eq, ← reason_mem_forbiddenReasons_iff hc,
      ← reason_mem_forbiddenReasons_iff hc, h]
  · intro h
    rw [forbiddenReasons_eq, forbiddenReasons_eq, failingReasons, failingReasons]
    congr 1
    refine List.filter_congr fun c hc => ?_
    rw [decide_eq_decide, ne_eq, ne_eq, ← isAllowed_evaluate_iff, ← isAllowed_evaluate_iff, h c hc]

theorem reasonText_eq_iff (h : Forbids level spec) (h' : Forbids level spec') :
    reasonText level spec = reasonText level spec' ↔ FailAlike level spec spec' := by
  have hne {spec : PodSpec} (h : Forbids level spec) : forbiddenReasons level spec ≠ [] :=
    fun hnil => forbiddenReasons_eq_nil_iff.mp hnil h
  have hcomma (spec : PodSpec) : ∀ reason ∈ forbiddenReasons level spec, ',' ∉ reason.toList := by
    intro reason hr
    obtain ⟨c, hc, -, rfl⟩ := mem_forbiddenReasons_iff.mp hr
    exact comma_not_mem_reason level c hc
  rw [← forbiddenReasons_eq_iff]
  constructor
  · exact Text.eq_of_intercalate (hne h) (hne h') (hcomma spec) (hcomma spec')
  · exact congrArg _

end Check

end AdmissionForecast
