import AdmissionForecast.Proofs.Status.Calls

/-! # Publishers with a base

A publisher with a base merges every set into that base, whatever it has written before. So the
file shows what the last set makes of the base alone, and a type that the base shows otherwise is
dated anew by every call, also where its status in the file stays the same.
-/

namespace AdmissionForecast

namespace Status

variable {s : Status} {c : Condition} {set set' : ConditionSet} {now later : Timestamp}
  {type : String} {e e' : StatusCondition}

/-- Some condition of a set has the type and differs from the status stored for it, or the type is
absent. -/
def FlipsType (s : Status) (set : ConditionSet) (type : String) : Prop :=
  ∃ c ∈ set, c.type = type ∧ s.flips c = true

theorem flipsType_of_mem (hc : c ∈ set) (h : s.flips c = true) : s.FlipsType set c.type :=
  ⟨c, hc, rfl, h⟩

theorem flips_eq_true_iff :
    s.flips c = true ↔ ∀ e ∈ s.get? c.type, e.status ≠ c.status := by
  unfold flips
  cases s.get? c.type <;> simp

/-- What a merge leaves for a type: the time of the merge where it flips, or else the status and
the time that were there. -/
theorem get?_apply_cases (hn : (set.map (·.type)).Nodup)
    (he : (s.apply set now).1.get? type = some e) :
    (s.FlipsType set type ∧ (∀ e₀ ∈ s.get? type, e₀.status ≠ e.status) ∧
      e.lastTransitionTime = now.truncate) ∨
    (¬ s.FlipsType set type ∧ ∃ e₀ ∈ s.get? type, e.status = e₀.status ∧
      e.lastTransitionTime = e₀.lastTransitionTime) := by
  by_cases hm : ∃ c ∈ set, c.type = type
  · obtain ⟨c, hc, rfl⟩ := hm
    rw [get?_apply_of_mem hn hc] at he
    obtain rfl := Option.some.inj he
    have hstatus := (entryOf_current s c now.truncate).1
    rcases lastTransitionTime_entryOf s c now.truncate with ⟨hf, ht⟩ | ⟨hf, e₀, he₀, ht⟩
    · exact .inl ⟨flipsType_of_mem hc hf, hstatus ▸ flips_eq_true_iff.mp hf, ht⟩
    · refine .inr ⟨?_, e₀, he₀, ?_, ht⟩
      · rintro ⟨c', hc', htype, hf'⟩
        obtain rfl := List.inj_on_of_nodup_map hn hc' hc htype
        exact absurd hf' (by simp [hf])
      · simp only [flips, he₀, Option.all_some, ne_eq, decide_not, Bool.not_eq_false',
          decide_eq_true_eq] at hf
        exact hstatus.trans hf.symm
  · have hnm : type ∉ set.map (·.type) := by simpa using hm
    rw [get?_apply_of_not_mem hnm] at he
    refine .inr ⟨?_, e, he, rfl, rfl⟩
    rintro ⟨c, hc, htype, -⟩
    exact hm ⟨c, hc, htype⟩

/-- Two sets leave one status for a type. Then the times differ exactly if both flip the type, at
times that differ in whole seconds. -/
theorem time_ne_iff (hn : (set.map (·.type)).Nodup) (hn' : (set'.map (·.type)).Nodup)
    (he : (s.apply set now).1.get? type = some e)
    (he' : (s.apply set' later).1.get? type = some e') (hs : e.status = e'.status) :
    e.lastTransitionTime ≠ e'.lastTransitionTime ↔
      s.FlipsType set type ∧ s.FlipsType set' type ∧ now.truncate ≠ later.truncate := by
  rcases get?_apply_cases hn he with ⟨hf, hne, ht⟩ | ⟨hf, e₀, he₀, hstatus, ht⟩
  · rcases get?_apply_cases hn' he' with ⟨hf', -, ht'⟩ | ⟨-, e₀, he₀, hstatus', -⟩
    · rw [ht, ht']
      exact ⟨fun h => ⟨hf, hf', h⟩, fun h => h.2.2⟩
    · exact absurd (hs.trans hstatus').symm (hne e₀ he₀)
  · rcases get?_apply_cases hn' he' with ⟨-, hne', -⟩ | ⟨-, e₁, he₁, -, ht'⟩
    · exact absurd (hstatus.symm.trans hs) (hne' e₀ he₀)
    · obtain rfl := Option.mem_unique he₀ he₁
      rw [ht, ht']
      exact iff_of_false (fun h => h rfl) fun h => hf h.1

theorem merge_congr_of_not_flips (h : s.flips c = false) (now later : Timestamp) :
    s.merge c now = s.merge c later := by
  obtain ⟨es⟩ := s
  induction es with
  | nil => cases h
  | cons e es ih =>
    by_cases ht : e.type = c.type
    · have hs : e.status = c.status := by simpa [flips, get?_cons, ht] using h
      rw [merge_cons_of_eq ht, merge_cons_of_eq ht]
      simp only [StatusCondition.update, hs, if_true]
    · have hes : flips ⟨es⟩ c = false := by simpa [flips, get?_cons, ht] using h
      rw [merge_cons_of_ne ht, merge_cons_of_ne ht, ih hes]

theorem apply_congr_of_not_flips (hn : (set.map (·.type)).Nodup)
    (h : ∀ c ∈ set, s.flips c = false) (now later : Timestamp) :
    (s.apply set now).1 = (s.apply set later).1 := by
  induction set generalizing s with
  | nil => rfl
  | cons c set ih =>
    rw [List.map_cons, List.nodup_cons] at hn
    obtain ⟨hc, hset⟩ := List.forall_mem_cons.mp h
    rw [apply_cons, apply_cons, merge_congr_of_not_flips hc now.truncate later.truncate]
    refine ih hn.2 fun x hx => ?_
    have hne : c.type ≠ x.type := fun ht => hn.1 (ht ▸ List.mem_map_of_mem hx)
    rw [flips_merge_of_ne hne, hset x hx]

theorem apply_congr_of_truncate (s : Status) (set : ConditionSet)
    (h : now.truncate = later.truncate) : s.apply set now = s.apply set later := by
  unfold apply
  rw [h]

theorem apply_eq_apply_iff (hn : (set.map (·.type)).Nodup) :
    (s.apply set now).1 = (s.apply set later).1 ↔
      (∀ type, ¬ s.FlipsType set type) ∨ now.truncate = later.truncate := by
  constructor
  · intro h
    refine or_iff_not_imp_left.mpr fun hflips => ?_
    push Not at hflips
    obtain ⟨type, c, hc, rfl, hf⟩ := hflips
    have he : (s.apply set now).1.get? c.type = some (s.entryOf c now.truncate) :=
      get?_apply_of_mem hn hc
    have he' : (s.apply set later).1.get? c.type = some (s.entryOf c later.truncate) :=
      get?_apply_of_mem hn hc
    have hentry := Option.some.inj ((he.symm.trans (congrArg (get? · c.type) h)).trans he')
    have htime := congrArg StatusCondition.lastTransitionTime hentry
    rcases lastTransitionTime_entryOf s c now.truncate with ⟨-, ht⟩ | ⟨hf', -⟩
    · rcases lastTransitionTime_entryOf s c later.truncate with ⟨-, ht'⟩ | ⟨hf', -⟩
      · exact ht.symm.trans (htime.trans ht')
      · exact absurd hf (by simp [hf'])
    · exact absurd hf (by simp [hf'])
  · rintro (hnone | htime)
    · refine apply_congr_of_not_flips hn (fun c hc => ?_) now later
      exact Bool.eq_false_iff.mpr fun hf => hnone _ (flipsType_of_mem hc hf)
    · rw [apply_congr_of_truncate s set htime]

end Status

namespace PublisherSession

variable {x : PublisherSession} {base s s' : Status} {set set' : ConditionSet}
  {now now' : Timestamp} {run : Status.Run} {k : Nat} {p p' : StatusPublisher}

/-- A publisher with a base on a tree that is one. -/
structure HasBase (x : PublisherSession) (s : Status) : Prop where
  base : x.publisher.base = some s
  dated : s.IsDated
  tree : x.disk.tree.WellFormed

/-- A status is the one that was written last, it is what the file holds, and it is read back. -/
structure Stores (x : PublisherSession) (s : Status) : Prop where
  written : x.publisher.written = some s
  file : x.file? = some (.file s.render.toUTF8)
  again : Status.parse s.render = .ok s

theorem Stores.unique (h : x.Stores s) (h' : x.Stores s') : s = s' :=
  Option.some.inj (h.written.symm.trans h'.written)

theorem Stores.file?_eq_iff {y : PublisherSession} (h : x.Stores s) (h' : y.Stores s') :
    x.file? = y.file? ↔ s = s' := by
  rw [h.file, h'.file]
  constructor
  · intro hfile
    have hbytes : s.render.toUTF8 = s'.render.toUTF8 := by
      injection hfile with hfile
      injection hfile
    have htext : s.render = s'.render := Option.some.inj
      ((FileTree.fromUTF8?_eq_some_iff.mpr rfl).symm.trans
        (FileTree.fromUTF8?_eq_some_iff.mpr hbytes))
    exact Except.ok.inj (h.again.symm.trans (htext ▸ h'.again))
  · rintro rfl
    rfl

theorem call_over_base (hx : x.HasBase base) (set : ConditionSet) (hn : now.IsValid) :
    (x.call set now).HasBase base ∧
      ((∃ e, x.result set now = .error e ∧ x.Kept (x.call set now)) ∨
        ∃ p, x.result set now = .ok p ∧ (x.call set now).Stores (base.apply set now).1) := by
  obtain ⟨hw, -, hbase, hcases⟩ := call_outcome hx.tree set now
  refine ⟨⟨hbase.trans hx.base, hx.dated, hw⟩, hcases.imp_right ?_⟩
  rintro ⟨p, start, hp, hs, hwritten, hfile⟩
  obtain rfl : start = base := by simpa only [StatusPublisher.StartsFrom, hx.base] using hs
  exact ⟨p, hp, hwritten, hfile, Status.parse_render (hx.dated.apply set hn)⟩

theorem hasBase_callAll (hx : x.HasBase base) (run : Status.Run) (hn : ∀ r ∈ run, r.2.IsValid) :
    (x.callAll run).HasBase base := by
  induction run generalizing x with
  | nil => exact hx
  | cons r run ih =>
    obtain ⟨hr, hrun⟩ := List.forall_mem_cons.mp hn
    exact ih (call_over_base hx r.1 hr).1 hrun

theorem stores_of_isOk (hx : x.HasBase base) (hn : now.IsValid)
    (hok : (x.result set now).isOk = true) :
    (x.call set now).Stores (base.apply set now).1 := by
  obtain ⟨p, hp⟩ := exists_of_isOk hok
  rcases (call_over_base hx set hn).2 with ⟨e, he, -⟩ | ⟨-, -, hstores⟩
  · exact nomatch he.symm.trans hp
  · exact hstores

theorem callAll_cases (hx : x.HasBase base) (hn : ∀ r ∈ run, r.2.IsValid)
    (hr : run[k]? = some (set, now)) :
    (∃ e, (x.callAll (run.take k)).result set now = .error e ∧
      (x.callAll (run.take k)).Kept (x.callAll (run.take (k + 1)))) ∨
    ∃ p, (x.callAll (run.take k)).result set now = .ok p ∧
      (x.callAll (run.take (k + 1))).Stores (base.apply set now).1 := by
  have hbefore := hasBase_callAll hx (run.take k) fun r hr => hn r (List.mem_of_mem_take hr)
  rw [callAll_take_succ x hr]
  exact (call_over_base hbefore set (hn _ (List.mem_of_getElem? hr))).2

theorem stores_of_result (hx : x.HasBase base) (hn : ∀ r ∈ run, r.2.IsValid)
    (hr : run[k]? = some (set, now)) (hp : (x.callAll (run.take k)).result set now = .ok p) :
    (x.callAll (run.take (k + 1))).Stores (base.apply set now).1 := by
  rcases callAll_cases hx hn hr with ⟨e, he, -⟩ | ⟨_, -, hstores⟩
  · exact nomatch he.symm.trans hp
  · exact hstores

/-- Calls of a publisher with a base, whatever goes wrong in them: one that fails leaves the file,
and one that works leaves in it what its set makes of the base. So of any two calls that work, with
distinct types in their sets, the times of a type whose status is the same in both files differ
exactly if both sets flip the base there, at times that differ in whole seconds; and one set leaves
the same file twice exactly if it flips nothing in the base or the seconds agree. -/
theorem stores_over_base (x : PublisherSession) (base : Status) (hx : x.HasBase base)
    (run : Status.Run) (hn : ∀ r ∈ run, r.2.IsValid) :
    (∀ k set now, run[k]? = some (set, now) →
      let before := x.callAll (run.take k)
      let after := x.callAll (run.take (k + 1))
      (∀ e, before.result set now = .error e → before.Kept after) ∧
      ∀ p, before.result set now = .ok p → after.Stores (base.apply set now).1) ∧
    ∀ j k set set' now now' p p', run[j]? = some (set, now) → run[k]? = some (set', now') →
      (x.callAll (run.take j)).result set now = .ok p →
      (x.callAll (run.take k)).result set' now' = .ok p' →
      (set.map (·.type)).Nodup → (set'.map (·.type)).Nodup →
      let after := x.callAll (run.take (j + 1))
      let after' := x.callAll (run.take (k + 1))
      (∀ s s' type e e', after.Stores s → after'.Stores s' → s.get? type = some e →
        s'.get? type = some e' → e.status = e'.status →
        (e.lastTransitionTime ≠ e'.lastTransitionTime ↔
          base.FlipsType set type ∧ base.FlipsType set' type ∧ now.truncate ≠ now'.truncate)) ∧
      (set = set' → (after.file? = after'.file? ↔
        (∀ type, ¬ base.FlipsType set type) ∨ now.truncate = now'.truncate)) := by
  refine ⟨fun k set now hr => ⟨fun e he => ?_, fun p hp => stores_of_result hx hn hr hp⟩,
    fun j k set set' now now' p p' hj hk hp hp' hset hset' => ?_⟩
  · rcases callAll_cases hx hn hr with ⟨-, -, hkept⟩ | ⟨p, hp, -⟩
    · exact hkept
    · exact nomatch he.symm.trans hp
  · have hstores := stores_of_result hx hn hj hp
    have hstores' := stores_of_result hx hn hk hp'
    refine ⟨fun s s' type e e' hs hs' he he' hstatus => ?_, ?_⟩
    · obtain rfl := hs.unique hstores
      obtain rfl := hs'.unique hstores'
      exact Status.time_ne_iff hset hset' he he' hstatus
    · rintro rfl
      exact (hstores.file?_eq_iff hstores').trans (Status.apply_eq_apply_iff hset)

/-- Of three calls with one set the second breaks off, and the third dates the file anew. -/
theorem stores_over_base_broken_off :
    let base : Status := ⟨[⟨"Degraded", .true, .ofClock 0 0, "Found", some "team-a"⟩]⟩
    let set : ConditionSet := [⟨"Degraded", .false, "AsExpected", none⟩]
    let x : PublisherSession := ⟨{ path := "status.json", base := some base },
      ⟨⟨[], []⟩, [none, none, some (.breaksOff .busy .empty)]⟩⟩
    let run : Status.Run := [(set, .ofClock 60 7), (set, .ofClock 90 0), (set, .ofClock 120 0)]
    (x.HasBase base ∧ (∀ r ∈ run, r.2.IsValid) ∧ run[0]? = some (set, .ofClock 60 7) ∧
      run[2]? = some (set, .ofClock 120 0) ∧ (x.result set (.ofClock 60 7)).isOk = true ∧
      ((x.callAll (run.take 2)).result set (.ofClock 120 0)).isOk = true ∧
      (set.map (·.type)).Nodup) ∧
    (x.callAll (run.take 1)).file? ≠ (x.callAll run).file? := by
  intro base set x run
  have hx : x.HasBase base :=
    ⟨rfl, List.forall_mem_singleton.mpr (by decide), FileTree.wellFormed_of_entries_nil rfl⟩
  have hn : ∀ r ∈ run, r.2.IsValid := by decide
  have hfirst : (x.result set (.ofClock 60 7)).isOk = true := by decide +kernel
  have hlast : ((x.callAll (run.take 2)).result set (.ofClock 120 0)).isOk = true := by
    decide +kernel
  have hset : (set.map (·.type)).Nodup := by decide
  obtain ⟨p, hp⟩ := exists_of_isOk hfirst
  obtain ⟨p', hp'⟩ := exists_of_isOk hlast
  obtain ⟨-, hfiles⟩ := (stores_over_base x base hx run hn).2 0 2 set set (.ofClock 60 7)
    (.ofClock 120 0) p p' rfl rfl hp hp' hset hset
  refine ⟨⟨hx, hn, rfl, rfl, hfirst, hlast, hset⟩, fun hsame => ?_⟩
  rcases (hfiles rfl).mp hsame with hnone | htime
  · exact hnone "Degraded" ⟨_, List.mem_singleton_self _, rfl, by decide⟩
  · exact absurd htime (by decide)

/-- Calls that work date a type anew whose status in the file stays the same: with one set that
differs from the base, called twice, and back to the time of the base after a set that flips the
base twice. -/
theorem stores_over_base_dated_anew :
    let base : Status := ⟨[⟨"T", .true, .ofClock 0 0, "", none⟩]⟩
    let x : PublisherSession := ⟨{ path := "s", base := some base }, ⟨⟨[], []⟩, []⟩⟩
    let on : Condition := ⟨"T", .true, "", none⟩
    let off : Condition := ⟨"T", .false, "", none⟩
    let redates (set set' : ConditionSet) : Prop :=
      let x₁ := x.call set (.ofClock 60 0)
      let x₂ := x₁.call set' (.ofClock 120 0)
      (x.result set (.ofClock 60 0)).isOk = true ∧ (x₁.result set' (.ofClock 120 0)).isOk = true ∧
        ∃ s₁ s₂ e₁ e₂, x₁.Stores s₁ ∧ x₂.Stores s₂ ∧ s₁.get? "T" = some e₁ ∧
          s₂.get? "T" = some e₂ ∧ e₁.status = e₂.status ∧
          e₁.lastTransitionTime ≠ e₂.lastTransitionTime
    x.HasBase base ∧ redates [off] [off] ∧ redates [off, on] [on] := by
  intro base x on off redates
  have hx : x.HasBase base :=
    ⟨rfl, List.forall_mem_singleton.mpr (by decide), FileTree.wellFormed_of_entries_nil rfl⟩
  have hvalid : (Timestamp.ofClock 60 0).IsValid ∧ (Timestamp.ofClock 120 0).IsValid := by decide
  have hredates {set set' : ConditionSet} (hok : (x.result set (.ofClock 60 0)).isOk = true)
      (hok' : ((x.call set (.ofClock 60 0)).result set' (.ofClock 120 0)).isOk = true)
      (hentries : ∃ e₁ e₂, (base.apply set (.ofClock 60 0)).1.get? "T" = some e₁ ∧
        (base.apply set' (.ofClock 120 0)).1.get? "T" = some e₂ ∧ e₁.status = e₂.status ∧
        e₁.lastTransitionTime ≠ e₂.lastTransitionTime) : redates set set' := by
    obtain ⟨hx₁, -⟩ := call_over_base hx set hvalid.1
    have hstores := stores_of_isOk hx hvalid.1 hok
    have hstores' := stores_of_isOk hx₁ hvalid.2 hok'
    obtain ⟨e₁, e₂, he⟩ := hentries
    exact ⟨hok, hok', _, _, e₁, e₂, hstores, hstores', he⟩
  refine ⟨hx, hredates (by decide +kernel) (by decide +kernel) ?_,
    hredates (by decide +kernel) (by decide +kernel) ?_⟩
  · exact ⟨_, _, rfl, rfl, by decide +kernel⟩
  · exact ⟨_, _, rfl, rfl, by decide +kernel⟩

end PublisherSession

end AdmissionForecast
