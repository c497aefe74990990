import AdmissionForecast.Proofs.Conditions
import AdmissionForecast.Proofs.Status.Merge

/-! # Histories of a status

Sets of conditions are merged into a status one after the other. The time of an entry is that of
the last merge that flipped its type, however many merges came in between, and whatever the
sets do not mention stays where and as it is.
-/

namespace AdmissionForecast.Status

/-- Sets of conditions, each with the time at which it is merged. -/
abbrev Run := List (ConditionSet × Timestamp)

def applyAll (s : Status) (run : Run) : Status := run.foldl (fun s r => (s.apply r.1 r.2).1) s

/-- What the merge of a set into a status leaves and counts. -/
structure Merged (s : Status) (set : ConditionSet) (after : Status) (count : Nat) : Prop where
  current : ∀ c ∈ set, ∃ e, after.get? c.type = some e ∧ e.status = c.status ∧
    e.reason = c.reason ∧ e.message = c.message
  count_eq : count = set.countP s.flips
  /-- Foreign entries and later duplicates stay in place. -/
  kept : ∀ (i : Nat) (e : StatusCondition), s.conditions[i]? = some e →
    (e.type ∈ set.map (·.type) → ∃ j < i, s.types[j]? = some e.type) →
    after.conditions[i]? = some e
  types_eq : after.types = s.types ++ (set.map (·.type)).filter (· ∉ s.types)
  again : ∀ later, after.apply set later = (after, 0)

/-- The merge at an index of a run flips a type, or adds it. -/
def FlipsAt (s : Status) (run : Run) (type : String) (j : Nat) : Prop :=
  ∃ r, run[j]? = some r ∧ ∃ c ∈ r.1, c.type = type ∧ (s.applyAll (run.take j)).flips c = true

/-- The time of the last flip of a type before an index, or else its time at the start. -/
inductive TimedBy (s : Status) (run : Run) (type : String) (k : Nat) : Timestamp → Prop where
  | flip {j : Nat} {set : ConditionSet} {now : Timestamp} : j < k → run[j]? = some (set, now) →
      s.FlipsAt run type j → (∀ i, j < i → i < k → ¬ s.FlipsAt run type i) →
      TimedBy s run type k now.truncate
  | initial {e : StatusCondition} : (∀ j < k, ¬ s.FlipsAt run type j) → s.get? type = some e →
      TimedBy s run type k e.lastTransitionTime

variable {s : Status} {c : Condition} {set : ConditionSet} {now t : Timestamp} {run : Run}
  {type : String} {k : Nat} {e : StatusCondition}

theorem entryOf_current (s : Status) (c : Condition) (now : Timestamp) :
    (s.entryOf c now).status = c.status ∧ (s.entryOf c now).reason = c.reason ∧
      (s.entryOf c now).message = c.message := by
  unfold entryOf
  cases s.get? c.type <;> exact ⟨rfl, rfl, rfl⟩

theorem merged_apply (s : Status) (now : Timestamp) (hn : (set.map (·.type)).Nodup) :
    Merged s set (s.apply set now).1 (s.apply set now).2 := by
  have hcurrent : ∀ c ∈ set, ∃ e, (s.apply set now).1.get? c.type = some e ∧
      e.status = c.status ∧ e.reason = c.reason ∧ e.message = c.message := by
    intro c hc
    exact ⟨_, get?_apply_of_mem hn hc, entryOf_current s c now.truncate⟩
  exact
    { current := hcurrent
      count_eq := count_apply hn
      kept := fun i e hi h => getElem?_apply hi h
      types_eq := types_apply hn
      again := fun later => apply_eq_self hcurrent later }

theorem applyAll_take_succ (s : Status) {r : ConditionSet × Timestamp} (hr : run[k]? = some r) :
    s.applyAll (run.take (k + 1)) = ((s.applyAll (run.take k)).apply r.1 r.2).1 := by
  rw [applyAll, List.take_add_one, hr, List.foldl_append]
  rfl

theorem TimedBy.succ (h : TimedBy s run type k t) (hk : ¬ s.FlipsAt run type k) :
    TimedBy s run type (k + 1) t := by
  cases h with
  | flip hj hr hf hno =>
    refine .flip (Nat.lt_succ_of_lt hj) hr hf fun i hi hik => ?_
    rcases Nat.lt_succ_iff_lt_or_eq.mp hik with hlt | rfl
    · exact hno i hi hlt
    · exact hk
  | initial hno he =>
    refine .initial (fun j hj => ?_) he
    rcases Nat.lt_succ_iff_lt_or_eq.mp hj with hlt | rfl
    · exact hno j hlt
    · exact hk

theorem lastTransitionTime_entryOf (s : Status) (c : Condition) (now : Timestamp) :
    (s.flips c = true ∧ (s.entryOf c now).lastTransitionTime = now) ∨
      (s.flips c = false ∧ ∃ e, s.get? c.type = some e ∧
        (s.entryOf c now).lastTransitionTime = e.lastTransitionTime) := by
  unfold flips entryOf
  cases s.get? c.type with
  | none => exact .inl ⟨rfl, rfl⟩
  | some e =>
    by_cases h : e.status = c.status
    · exact .inr ⟨by simp [h], e, rfl, if_pos h⟩
    · exact .inl ⟨by simp [h], if_neg h⟩

/-- One more merge: its time for what it flips, and no change of time for anything else. -/
theorem timedBy_succ (hr : run[k]? = some (set, now)) (hn : (set.map (·.type)).Nodup)
    (ih : ∀ e, (s.applyAll (run.take k)).get? type = some e →
      TimedBy s run type k e.lastTransitionTime)
    (he : (s.applyAll (run.take (k + 1))).get? type = some e) :
    TimedBy s run type (k + 1) e.lastTransitionTime := by
  rw [applyAll_take_succ s hr] at he
  by_cases hm : ∃ c ∈ set, c.type = type
  · obtain ⟨c, hc, rfl⟩ := hm
    rw [get?_apply_of_mem hn hc] at he
    obtain rfl := Option.some.inj he
    rcases lastTransitionTime_entryOf (s.applyAll (run.take k)) c now.truncate with
      ⟨hf, ht⟩ | ⟨hf, e₀, he₀, ht⟩
    · rw [ht]
      refine .flip (Nat.lt_succ_self k) hr ⟨_, hr, c, hc, rfl, hf⟩ fun i hi hik => ?_
      omega
    · rw [ht]
      refine (ih e₀ he₀).succ ?_
      rintro ⟨r, hr', c', hc', htype, hf'⟩
      obtain rfl := Option.some.inj (hr.symm.trans hr')
      -- No other condition of the set has this type.
      obtain rfl := List.inj_on_of_nodup_map hn hc' hc htype
      exact absurd hf' (by simp [hf])
  · have hnm : type ∉ set.map (·.type) := by simpa using hm
    rw [get?_apply_of_not_mem hnm] at he
    refine (ih e he).succ ?_
    rintro ⟨r, hr', c', hc', htype, -⟩
    obtain rfl := Option.some.inj (hr.symm.trans hr')
    exact hm ⟨c', hc', htype⟩

theorem timedBy_applyAll (hn : ∀ r ∈ run, (r.1.map (·.type)).Nodup) (hk : k ≤ run.length)
    (he : (s.applyAll (run.take k)).get? type = some e) :
    TimedBy s run type k e.lastTransitionTime := by
  induction k generalizing e with
  | zero => exact .initial (fun j hj => absurd hj (Nat.not_lt_zero j)) he
  | succ k ih =>
    have hr : run[k]? = some (run[k].1, run[k].2) := List.getElem?_eq_getElem hk
    exact timedBy_succ hr (hn _ (List.getElem_mem hk)) (fun e he => ih (Nat.le_of_succ_le hk) he) he

theorem nodup_types_applyAll (hn : ∀ r ∈ run, (r.1.map (·.type)).Nodup) (hs : s.types.Nodup) :
    (s.applyAll run).types.Nodup := by
  induction run generalizing s with
  | nil => exact hs
  | cons r run ih =>
    have hr := List.forall_mem_cons.mp hn
    exact ih hr.2 (nodup_types_apply hr.1 hs)

/-- A run of merges, each of a set with distinct types: what each merge leaves and counts, when
each entry was last dated, and that types stay unique. Rendered sets are of this kind. -/
theorem merged_applyAll (s : Status) (run : Run) (hn : ∀ r ∈ run, (r.1.map (·.type)).Nodup) :
    (∀ k set now, run[k]? = some (set, now) →
      let after := s.applyAll (run.take (k + 1))
      let before := s.applyAll (run.take k)
      ((before.apply set now).1 = after ∧
        Merged before set after (before.apply set now).2) ∧
      ∀ type e, after.get? type = some e → TimedBy s run type (k + 1) e.lastTransitionTime) ∧
    (s.types.Nodup → ∀ k, (s.applyAll (run.take k)).types.Nodup) ∧
    ∀ f : Findings, (f.render.map (·.type)).Nodup := by
  refine ⟨fun k set now hr => ?_, fun hs k => ?_, Findings.nodup_types_render⟩
  · have ha := applyAll_take_succ s hr
    have hlt : k < run.length := (List.getElem?_eq_some_iff.mp hr).1
    refine ⟨⟨ha.symm, ?_⟩, fun type e he => timedBy_applyAll hn hlt he⟩
    rw [ha]
    exact merged_apply _ now (hn _ (List.mem_of_getElem? hr))
  · exact nodup_types_applyAll (fun r hr => hn r (List.mem_of_mem_take hr)) hs

theorem merged_applyAll_unflipped :
    let found : Condition := ⟨"Degraded", .true, "Found", some "team-a"⟩
    let more : Condition := ⟨"Degraded", .true, "Found", some "team-a team-b"⟩
    let run : Run := [([found], .ofClock 60 7), ([more], .ofClock 90 0)]
    (∀ r ∈ run, (r.1.map (·.type)).Nodup) ∧
      ∃ e, (applyAll {} run).get? "Degraded" = some e ∧
        e = ⟨"Degraded", .true, .ofClock 60 0, "Found", some "team-a team-b"⟩ ∧
        TimedBy {} run "Degraded" 2 e.lastTransitionTime := by
  intro found more run
  have hn : ∀ r ∈ run, (r.1.map (·.type)).Nodup := by decide
  have he : (applyAll {} run).get? "Degraded" =
      some ⟨"Degraded", .true, .ofClock 60 0, "Found", some "team-a team-b"⟩ := by
    decide +kernel
  obtain ⟨-, ht⟩ := (merged_applyAll {} run hn).1 1 [more] (.ofClock 90 0) rfl
  exact ⟨hn, _, he, rfl, ht "Degraded" _ he⟩

end AdmissionForecast.Status
