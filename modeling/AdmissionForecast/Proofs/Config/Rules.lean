import AdmissionForecast.Config.Basic
import Mathlib.Data.List.TakeWhile
import Mathlib.Data.String.Basic

/-! # The rules for a configuration

Checking a configuration goes through five rules in order and reports the first one that is
broken. The rules together say that the configuration is sound.
-/

namespace AdmissionForecast

variable {α : Type} {p : α → Prop} {x y : α} {xs : List α}

/-- Something has a property, and nothing before it does. -/
def FirstAfter (p : α → Prop) (before : List α) (x : α) : Prop := (∀ y ∈ before, ¬ p y) ∧ p x

/-- The first member of a list that has a property. -/
def IsFirst (p : α → Prop) (xs : List α) (x : α) : Prop :=
  ∃ before after, xs = before ++ x :: after ∧ FirstAfter p before x

namespace IsFirst

theorem not_nil : ¬ IsFirst p [] x := by
  rintro ⟨before, after, h, -⟩
  simp at h

theorem cons_iff : IsFirst p (y :: xs) x ↔ (p y ∧ x = y) ∨ (¬ p y ∧ IsFirst p xs x) := by
  constructor
  · rintro ⟨_ | ⟨z, before⟩, after, h, hbefore, hx⟩
    · obtain ⟨rfl, -⟩ := List.cons.inj h
      exact .inl ⟨hx, rfl⟩
    · obtain ⟨rfl, rfl⟩ := List.cons.inj h
      obtain ⟨hy, hrest⟩ := List.forall_mem_cons.mp hbefore
      exact .inr ⟨hy, before, after, rfl, hrest, hx⟩
  · rintro (⟨hy, rfl⟩ | ⟨hy, before, after, rfl, hbefore, hx⟩)
    · exact ⟨[], xs, rfl, by simp, hy⟩
    · exact ⟨y :: before, after, rfl, List.forall_mem_cons.mpr ⟨hy, hbefore⟩, hx⟩

end IsFirst

theorem Text.trim_eq_nil_iff {cs : List Char} : trim cs = [] ↔ ∀ c ∈ cs, isBlank c = true := by
  simp only [trim, trimEnd, List.reverse_eq_nil_iff, List.dropWhile_eq_nil_iff, List.mem_reverse]
  refine ⟨fun h => ?_, fun h c hc => h c (List.dropWhile_subset _ hc)⟩
  by_contra hcs
  have hne : trimStart cs ≠ [] := fun he => hcs (List.dropWhile_eq_nil_iff.mp he)
  have hhead := List.head_dropWhile_not isBlank hne
  exact absurd (h _ (List.head_mem hne)) (by simp [trimStart, hhead])

namespace Config

variable {c : Config} {v : Violation}

theorem isPolicyVersion_iff {s : String} : isPolicyVersion s = true ↔
    s = "latest" ∨
      ∃ minor, s = "v1." ++ minor ∧ minor ≠ "" ∧ ∀ ch ∈ minor.toList, ch.isDigit = true := by
  rw [isPolicyVersion, Bool.or_eq_true, decide_eq_true_eq]
  refine or_congr_right ⟨fun h => ?_, ?_⟩
  · split at h
    · next minor hs =>
      simp only [Bool.and_eq_true, Bool.not_eq_true', List.isEmpty_eq_false_iff,
        List.all_eq_true] at h
      refine ⟨String.ofList minor, String.toList_inj.mp (by simp [hs]), ?_, by simpa using h.2⟩
      simpa [← String.toList_inj] using h.1
    · cases h
  · rintro ⟨minor, rfl, hne, hdigits⟩
    have hlist : ("v1." ++ minor).toList = 'v' :: '1' :: '.' :: minor.toList :=
      String.toList_append
    rw [hlist]
    simpa using And.intro hne hdigits

/-- What a configuration has to be. -/
structure IsSound (c : Config) : Prop where
  schema : c.schemaVersion = "1.0.0"
  workers : 1 ≤ c.workers.toNat ∧ c.workers.toNat ≤ 64
  manager : c.fieldManager ≠ "" ∧ ∀ ch ∈ c.fieldManager.toList, Text.isBlank ch = false
  policy : c.policyVersion = "latest" ∨
    ∃ minor, c.policyVersion = "v1." ++ minor ∧ minor ≠ "" ∧
      ∀ ch ∈ minor.toList, ch.isDigit = true

/-- The rules that are checked one by one. -/
inductive Rule where
  | schema
  | workers
  | managerPresent
  | managerUnbroken
  | policy
  deriving DecidableEq, Repr

namespace Rule

def inOrder : List Rule := [schema, workers, managerPresent, managerUnbroken, policy]

/-- What a rule demands. A field manager of blanks alone counts as none. -/
def Holds (c : Config) : Rule → Prop
  | schema => c.schemaVersion = "1.0.0"
  | workers => 1 ≤ c.workers.toNat ∧ c.workers.toNat ≤ 64
  | managerPresent => ∃ ch ∈ c.fieldManager.toList, Text.isBlank ch = false
  | managerUnbroken => ∀ ch ∈ c.fieldManager.toList, Text.isBlank ch = false
  | policy => c.policyVersion = "latest" ∨
      ∃ minor, c.policyVersion = "v1." ++ minor ∧ minor ≠ "" ∧
        ∀ ch ∈ minor.toList, ch.isDigit = true

def violation (c : Config) : Rule → Violation
  | schema => .versionMismatch "1.0.0" c.schemaVersion
  | workers => .invalidValue "workers" ("must be between 1 and 64, got " ++ toString c.workers)
  | managerPresent => .invalidValue "field_manager" "must not be empty"
  | managerUnbroken => .invalidValue "field_manager" "must not contain whitespace"
  | policy => .invalidValue "pod_security_version"
      ("expected \"latest\" or \"v1.<minor>\", got " ++ quote c.policyVersion)

end Rule

theorem isSound_iff_rules : c.IsSound ↔ ∀ rule ∈ Rule.inOrder, rule.Holds c := by
  simp only [Rule.inOrder, List.forall_mem_cons, Rule.Holds, List.not_mem_nil, false_imp_iff,
    implies_true, and_true]
  constructor
  · intro h
    obtain ⟨ch, hch⟩ := List.exists_mem_of_ne_nil _
      (mt String.toList_eq_nil_iff.mp h.manager.1)
    exact ⟨h.schema, h.workers, ⟨ch, hch, h.manager.2 ch hch⟩, h.manager.2, h.policy⟩
  · rintro ⟨hs, hw, ⟨ch, hch, -⟩, hm, hp⟩
    refine ⟨hs, hw, ⟨fun he => ?_, hm⟩, hp⟩
    rw [he] at hch
    exact absurd hch (by simp)

theorem workers_test_iff :
    (c.workers = 0 || maxWorkers < c.workers) = true ↔ ¬ Rule.workers.Holds c := by
  have hmax : maxWorkers.toNat = 64 := rfl
  simp only [Rule.Holds, Bool.or_eq_true, decide_eq_true_eq, ← UInt64.toNat_inj,
    UInt64.lt_iff_toNat_lt, hmax, UInt64.toNat_zero]
  omega

theorem managerPresent_test_iff :
    (Text.trim c.fieldManager.toList).isEmpty = true ↔ ¬ Rule.managerPresent.Holds c := by
  rw [List.isEmpty_iff, Text.trim_eq_nil_iff]
  simp [Rule.Holds]

theorem managerUnbroken_test_iff :
    c.fieldManager.toList.any Text.isBlank = true ↔ ¬ Rule.managerUnbroken.Holds c := by
  simp [Rule.Holds]

theorem policy_test_iff :
    (!isPolicyVersion c.policyVersion) = true ↔ ¬ Rule.policy.Holds c := by
  rw [Bool.not_eq_true', ← Bool.not_eq_true, isPolicyVersion_iff]
  rfl

instance (rule : Rule) : Decidable (rule.Holds c) :=
  match rule with
  | .schema => inferInstanceAs (Decidable (c.schemaVersion = "1.0.0"))
  | .workers => inferInstanceAs (Decidable (1 ≤ c.workers.toNat ∧ c.workers.toNat ≤ 64))
  | .managerPresent =>
    inferInstanceAs (Decidable (∃ ch ∈ c.fieldManager.toList, Text.isBlank ch = false))
  | .managerUnbroken =>
    inferInstanceAs (Decidable (∀ ch ∈ c.fieldManager.toList, Text.isBlank ch = false))
  | .policy => decidable_of_iff _ isPolicyVersion_iff

def checkRules (c : Config) : List Rule → Except Violation Unit
  | [] => .ok ()
  | rule :: rules => if rule.Holds c then checkRules c rules else .error (rule.violation c)

theorem validate_eq_checkRules : c.validate = c.checkRules Rule.inOrder := by
  have hbounds : toString "must be between 1 and " ++ toString maxWorkers ++ toString ", got " =
      "must be between 1 and 64, got " := by decide
  simp only [validate, workers_test_iff, managerPresent_test_iff, managerUnbroken_test_iff,
    policy_test_iff, Rule.inOrder, checkRules, ite_not, hbounds]
  rfl

theorem checkRules_eq_ok_iff {rules : List Rule} :
    c.checkRules rules = .ok () ↔ ∀ rule ∈ rules, rule.Holds c := by
  induction rules with
  | nil => simp [checkRules]
  | cons rule rules ih =>
    by_cases h : rule.Holds c <;> simp [checkRules, h, ih]

theorem checkRules_eq_error_iff {rules : List Rule} :
    c.checkRules rules = .error v ↔
      ∃ rule, IsFirst (fun rule => ¬ rule.Holds c) rules rule ∧ rule.violation c = v := by
  induction rules with
  | nil => simp [checkRules, IsFirst.not_nil]
  | cons rule rules ih =>
    by_cases h : rule.Holds c <;> simp [checkRules, h, ih, IsFirst.cons_iff]

theorem validate_eq_ok_iff : c.validate = .ok () ↔ c.IsSound := by
  rw [validate_eq_checkRules, checkRules_eq_ok_iff, isSound_iff_rules]

theorem validate_eq_error_iff : c.validate = .error v ↔
    ∃ rule, IsFirst (fun rule => ¬ rule.Holds c) Rule.inOrder rule ∧ rule.violation c = v := by
  rw [validate_eq_checkRules, checkRules_eq_error_iff]

theorem isSound_default : default.IsSound := validate_eq_ok_iff.mp rfl

end Config

end AdmissionForecast
