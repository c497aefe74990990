import AdmissionForecast.Proofs.Conditions
import AdmissionForecast.Proofs.Pass.Recording
import Mathlib.Data.List.TakeWhile

/-! # Rendering as a normal form

Names without blanks can be read back from the message that lists them, so a condition tells the
names in its place up to their order. Hence two courses of recording are rendered alike exactly if
they put the same names, as often, under each category and verdict.
-/

namespace AdmissionForecast

/-- One outcome that is recorded for a namespace. -/
structure Recording where
  category : Category
  outcome : Outcome
  name : String

def Recording.names (c : Category) (v : Verdict) (rs : List Recording) : List String :=
  (rs.filter fun r => r.category = c ∧ r.outcome.finding? = some v).map (·.name)

def Findings.ofRecordings (rs : List Recording) : Findings :=
  rs.foldl (fun f r => f.record r.category r.outcome r.name) {}

namespace Verdict

/-- The text between the first opening bracket of a message and its last character. -/
def bracketed (message : String) : String :=
  String.ofList ((message.toList.dropWhile (· ≠ '[')).drop 1).dropLast

/-- The names that a message lists: its bracketed text, split at the blanks. -/
def listedNames (message : String) : List String :=
  ((bracketed message).split ' ').toList.map (·.copy)

variable {v : Verdict} {names : List String}

theorem bracketed_append (opening text : String) (h : '[' ∉ opening.toList) :
    bracketed (opening ++ "[" ++ text ++ "]") = text := by
  have hdrop : opening.toList.dropWhile (fun c => decide (c ≠ '[')) = [] := by
    rw [List.dropWhile_eq_nil_iff]
    exact fun c hc => decide_eq_true fun hbracket => h (hbracket ▸ hc)
  have htext : (opening ++ "[" ++ text ++ "]").toList =
      opening.toList ++ '[' :: (text.toList ++ [']']) := by simp
  rw [bracketed, htext, List.dropWhile_append, hdrop]
  simp

theorem bracketed_message (v : Verdict) (names : List String) :
    bracketed (v.message names) = " ".intercalate names := by
  cases v with
  | violating => exact bracketed_append "Violations detected in namespaces: " _ (by decide)
  | inconclusive =>
    exact bracketed_append "Could not evaluate violations for namespaces: " _ (by decide)

theorem listedNames_message (hne : names ≠ []) (h : ∀ name ∈ names, ' ' ∉ name.toList) :
    listedNames (v.message names) = names := by
  have hs := String.toList_split_intercalate h
  rw [listedNames, bracketed_message]
  rwa [if_neg hne] at hs

end Verdict

/-- A condition is true with a message exactly if there are names, and the message lists these in
ascending order if none of them has a blank in it. -/
structure Condition.Lists (names : List String) (cond : Condition) : Prop where
  status : cond.status = .true ↔ names ≠ []
  message : cond.message.isSome = true ↔ names ≠ []
  listed : (∀ name ∈ names, ' ' ∉ name.toList) → ∀ m ∈ cond.message,
    (Verdict.listedNames m).Perm names ∧ (Verdict.listedNames m).Pairwise (· ≤ ·)

theorem Condition.Lists.perm {names names' : List String} {cond : Condition}
    (h : cond.Lists names) (h' : cond.Lists names') (hb : ∀ name ∈ names, ' ' ∉ name.toList)
    (hb' : ∀ name ∈ names', ' ' ∉ name.toList) : names.Perm names' := by
  cases hm : cond.message with
  | none =>
    have hnil : names = [] := by simpa [hm] using h.message
    have hnil' : names' = [] := by simpa [hm] using h'.message
    rw [hnil, hnil']
  | some m => exact (h.listed hb m hm).1.symm.trans (h'.listed hb' m hm).1

namespace Findings

variable {f g : Findings} {rs : List Recording}

theorem names_ofRecordings (rs : List Recording) (c : Category) (v : Verdict) :
    (ofRecordings rs).names c v = Recording.names c v rs := by
  induction rs using List.reverseRecOn with
  | nil => rfl
  | append_singleton rs r ih =>
    rw [ofRecordings, List.foldl_append] at *
    simp only [List.foldl_cons, List.foldl_nil, names_record, ih, Recording.names,
      List.filter_append, List.map_append, List.filter_cons, List.filter_nil, decide_eq_true_eq]
    split <;> rfl

theorem not_mem_names_ofRecordings {x : Char} (h : ∀ r ∈ rs, x ∉ r.name.toList) (c : Category)
    (v : Verdict) : ∀ name ∈ (ofRecordings rs).names c v, x ∉ name.toList := by
  rw [names_ofRecordings]
  intro name hname
  obtain ⟨r, hr, rfl⟩ := List.mem_map.mp hname
  exact h r (List.mem_filter.mp hr).1

theorem lists_condition (type : String) (v : Verdict) (names : List String) :
    (condition type v names).Lists names := by
  have hperm := perm_sortedBy (fun name => name) names
  have hsorted := pairwise_sortedBy (fun name => name) names
  rw [condition_of_sorted hperm hsorted]
  generalize sortedBy (fun name => name) names = sorted at hperm hsorted
  by_cases hs : sorted = []
  · obtain rfl : names = [] := (hs ▸ hperm).nil_eq.symm
    rw [if_pos hs]
    exact ⟨by simp, by simp, nofun⟩
  · have hne : names ≠ [] := fun hnil => hs (hnil ▸ hperm).eq_nil
    rw [if_neg hs]
    refine ⟨by simpa using hne, by simpa using hne, fun hb m hm => ?_⟩
    obtain rfl := Option.some.inj hm
    rw [Verdict.listedNames_message hs fun name hm => hb name (hperm.mem_iff.mp hm)]
    exact ⟨hperm, hsorted⟩

theorem mem_table (c : Category) (v : Verdict) : (c, v) ∈ table := by
  cases c <;> cases v <;> decide

theorem render_eq_iff (hf : ∀ c v, ∀ name ∈ f.names c v, ' ' ∉ name.toList)
    (hg : ∀ c v, ∀ name ∈ g.names c v, ' ' ∉ name.toList) :
    f.render = g.render ↔ ∀ c v, (f.names c v).Perm (g.names c v) := by
  constructor
  · intro h c v
    have hcond : condition (conditionType c v) v (f.names c v) =
        condition (conditionType c v) v (g.names c v) :=
      List.map_inj_left.mp h (c, v) (mem_table c v)
    have hlists := lists_condition (conditionType c v) v (f.names c v)
    rw [hcond] at hlists
    exact hlists.perm (lists_condition _ v _) (hf c v) (hg c v)
  · exact render_congr

theorem length_firing_render (f : Findings) :
    (ConditionSet.firing f.render).length = table.countP fun x => f.names x.1 x.2 ≠ [] := by
  rw [ConditionSet.firing, ← List.countP_eq_length_filter, render, List.countP_map]
  refine List.countP_congr fun x _ => ?_
  simpa using (lists_condition (conditionType x.1 x.2) x.2 (f.names x.1 x.2)).status

/-- Courses of recording names without blanks are rendered alike exactly if they recorded the same
names, as often, under each category and verdict. Any course is rendered as eight conditions with
types of their own in the order of the table, each of which lists the names in its place. -/
theorem render_ofRecordings_eq_iff (rs rs' : List Recording) :
    ((∀ r ∈ rs, ' ' ∉ r.name.toList) → (∀ r ∈ rs', ' ' ∉ r.name.toList) →
      ((ofRecordings rs).render = (ofRecordings rs').render ↔
        ∀ c v, (Recording.names c v rs).Perm (Recording.names c v rs'))) ∧
    (ofRecordings rs).render.length = 8 ∧
    (ofRecordings rs).render.map (·.type) = table.map (fun x => conditionType x.1 x.2) ∧
    ((ofRecordings rs).render.map (·.type)).Nodup ∧
    (∀ (i : Nat) c v, table[i]? = some (c, v) → ∃ cond : Condition,
      (ofRecordings rs).render[i]? = some cond ∧ cond.Lists (Recording.names c v rs)) ∧
    (ConditionSet.firing (ofRecordings rs).render).length =
      table.countP fun x => Recording.names x.1 x.2 rs ≠ [] := by
  have hfiring := length_firing_render (ofRecordings rs)
  simp only [names_ofRecordings] at hfiring
  refine ⟨fun h h' => ?_, rfl, map_type_render _, nodup_types_render _, fun i c v hi => ?_, hfiring⟩
  · have hiff := render_eq_iff (not_mem_names_ofRecordings h) (not_mem_names_ofRecordings h')
    simpa only [names_ofRecordings] using hiff
  · refine ⟨condition (conditionType c v) v (Recording.names c v rs), ?_, lists_condition _ v _⟩
    rw [← names_ofRecordings, render, List.getElem?_map, hi]
    rfl

/-- Another order, other attributions and a namespace without violations make no difference, and an
empty name that is recorded twice does. -/
theorem render_ofRecordings_eq_iff_shuffled :
    let rs : List Recording := [⟨.customer, .violating .userWorkload, "zeta"⟩,
      ⟨.syncDisabled, .inconclusive .noSignal, ""⟩, ⟨.customer, .violating .unknown, "alpha"⟩]
    let shuffled : List Recording := [⟨.customer, .violating .operatorWorkload, "alpha"⟩,
      ⟨.openshiftManaged, .notViolating, "clean"⟩, ⟨.customer, .violating .unknown, "zeta"⟩,
      ⟨.syncDisabled, .inconclusive .noSignal, ""⟩]
    let repeated := rs ++ [⟨.syncDisabled, .inconclusive .noSignal, ""⟩]
    ((∀ r ∈ rs, ' ' ∉ r.name.toList) ∧ (∀ r ∈ shuffled, ' ' ∉ r.name.toList) ∧
      ∀ r ∈ repeated, ' ' ∉ r.name.toList) ∧
    (ofRecordings rs).render = (ofRecordings shuffled).render ∧
    (ofRecordings rs).render ≠ (ofRecordings repeated).render := by
  intro rs shuffled repeated
  have hrs : ∀ r ∈ rs, ' ' ∉ r.name.toList := by decide
  have hshuffled : ∀ r ∈ shuffled, ' ' ∉ r.name.toList := by decide
  have hrepeated : ∀ r ∈ repeated, ' ' ∉ r.name.toList := by decide
  refine ⟨⟨hrs, hshuffled, hrepeated⟩, ?_, fun heq => ?_⟩
  · refine ((render_ofRecordings_eq_iff rs shuffled).1 hrs hshuffled).mpr fun c v => ?_
    cases c <;> cases v <;> decide
  · have hperm := ((render_ofRecordings_eq_iff rs repeated).1 hrs hrepeated).mp heq
    exact absurd (hperm .syncDisabled .inconclusive) (by decide)

end Findings

end AdmissionForecast
