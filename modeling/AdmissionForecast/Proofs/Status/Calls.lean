import AdmissionForecast.Proofs.Status.Document
import AdmissionForecast.Proofs.Status.Publishing
import AdmissionForecast.Proofs.Status.Repetition

/-! # Calls of a publisher

A publisher without a base is called again and again on a disk that fails at will. The status it
wrote last and the one in its file stay together, and no call leaves the file half-written.
-/

namespace AdmissionForecast

open Disk (storage)

theorem exists_of_isOk {ε α : Type} {x : Except ε α} (h : x.isOk = true) : ∃ a, x = .ok a := by
  cases x with
  | ok a => exact ⟨a, rfl⟩
  | error e => cases h

namespace FileTree

variable {t : FileTree} {path text : String} {s s' : Status}

theorem Holds.isDated (h : t.Holds path s) : s.IsDated := by
  cases h with
  | absent h => exact fun e he => nomatch he
  | document h =>
    obtain ⟨text, -, hs⟩ := h
    exact Status.isDated_of_parse hs

theorem Holds.parse_eq (h : t.Holds path s) (ha : t.at? path = some (.file text.toUTF8)) :
    Status.parse text = .ok s := by
  cases h with
  | absent h => exact nomatch h.symm.trans ha
  | document h =>
    obtain ⟨text', h, hp⟩ := h
    have ht : text' = text := Except.ok.inj
      ((read_eq_ok_iff.mpr h).symm.trans (read_eq_ok_iff.mpr ha))
    exact ht ▸ hp

theorem Holds.eq_of_render (h : t.Holds path s') (hs : s.IsDated)
    (ha : t.at? path = some (.file s.render.toUTF8)) : s' = s :=
  Except.ok.inj ((h.parse_eq ha).symm.trans (Status.parse_render hs))

end FileTree

/-- A publisher and the disk it works on. -/
structure PublisherSession where
  publisher : StatusPublisher
  disk : Disk

namespace PublisherSession

variable {x : PublisherSession} {set : ConditionSet} {now : Timestamp} {s : Status}
  {run : Status.Run} {k : Nat}

def result (x : PublisherSession) (set : ConditionSet) (now : Timestamp) :
    Except ClientError StatusPublisher :=
  (x.publisher.publish storage now set x.disk).1.result

/-- The state after a call; where the call fails the publisher is as it was. -/
def call (x : PublisherSession) (set : ConditionSet) (now : Timestamp) : PublisherSession where
  publisher := (x.result set now).toOption.getD x.publisher
  disk := (x.publisher.publish storage now set x.disk).2

def callAll (x : PublisherSession) (run : Status.Run) : PublisherSession :=
  run.foldl (fun x r => x.call r.1 r.2) x

def file? (x : PublisherSession) : Option FileEntry := x.disk.tree.at? x.publisher.path

/-- A publisher without a base on a tree that is one. -/
structure IsProper (x : PublisherSession) : Prop where
  base : x.publisher.base = none
  tree : x.disk.tree.WellFormed

/-- What a call leaves when it works. -/
structure Wrote (x : PublisherSession) (set : ConditionSet) (now : Timestamp)
    (x' : PublisherSession) (status : Status) : Prop where
  merged : ∃ start, x.disk.tree.Holds x.publisher.path start ∧ status = (start.apply set now).1
  written : x'.publisher.written = some status
  file : x'.file? = some (.file status.render.toUTF8)
  /-- The status is read back from the file. -/
  again : Status.parse status.render = .ok status

/-- What a call leaves when it fails. -/
structure Kept (x x' : PublisherSession) : Prop where
  written : x'.publisher.written = x.publisher.written
  file : x'.file? = x.file?

/-- One call of any publisher: it fails and changes nothing, or it merges the set into the status
that it starts from. The path and the base stay as they are. -/
theorem call_outcome (hw : x.disk.tree.WellFormed) (set : ConditionSet) (now : Timestamp) :
    (x.call set now).disk.tree.WellFormed ∧
      (x.call set now).publisher.path = x.publisher.path ∧
      (x.call set now).publisher.base = x.publisher.base ∧
      ((∃ e, x.result set now = .error e ∧ x.Kept (x.call set now)) ∨
        ∃ p start, x.result set now = .ok p ∧ x.publisher.StartsFrom x.disk.tree start ∧
          (x.call set now).publisher.written = some (start.apply set now).1 ∧
          (x.call set now).file? = some (.file (start.apply set now).1.render.toUTF8)) := by
  obtain ⟨hw', ho⟩ := StatusPublisher.outcome_publish hw x.publisher now set
  change StatusPublisher.Outcome x.publisher set now x.disk.tree (x.call set now).disk.tree
    (x.result set now) at ho
  have hp : (x.call set now).publisher = (x.result set now).toOption.getD x.publisher := rfl
  have hfile : (x.call set now).file? =
      (x.call set now).disk.tree.at? (x.call set now).publisher.path := rfl
  generalize x.result set now = r at ho hp ⊢
  cases ho with
  | failed e hf =>
    have hsame : (x.call set now).publisher = x.publisher := hp
    refine ⟨hw', congrArg _ hsame, congrArg _ hsame, .inl ⟨e, rfl, congrArg _ hsame, ?_⟩⟩
    rw [hfile, hsame, hf]
    rfl
  | @wrote start hs ha =>
    have hnew : (x.call set now).publisher =
        { x.publisher with written := some (start.apply set now).1 } := hp
    refine ⟨hw', by rw [hnew], by rw [hnew], .inr ⟨_, start, rfl, hs, by rw [hnew], ?_⟩⟩
    rw [hfile, hnew, ha]

theorem call_cases (hx : x.IsProper) (set : ConditionSet) (hn : now.IsValid) :
    (x.call set now).IsProper ∧ (x.call set now).publisher.path = x.publisher.path ∧
      ((∃ e, x.result set now = .error e ∧ x.Kept (x.call set now)) ∨
        ∃ p status, x.result set now = .ok p ∧ status.IsDated ∧
          x.Wrote set now (x.call set now) status) := by
  obtain ⟨hw, hpath, hbase, hcases⟩ := call_outcome hx.tree set now
  refine ⟨⟨hbase.trans hx.base, hw⟩, hpath, hcases.imp_right ?_⟩
  rintro ⟨p, start, hp, hs, hwritten, hfile⟩
  have hstart : x.disk.tree.Holds x.publisher.path start := by
    simpa only [StatusPublisher.StartsFrom, hx.base] using hs
  have hdated := hstart.isDated.apply set hn
  exact ⟨p, (start.apply set now).1, hp, hdated, ⟨start, hstart, rfl⟩, hwritten, hfile,
    Status.parse_render hdated⟩

theorem callAll_append (x : PublisherSession) (run run' : Status.Run) :
    x.callAll (run ++ run') = (x.callAll run).callAll run' := List.foldl_append

theorem callAll_take_succ (x : PublisherSession) (hr : run[k]? = some (set, now)) :
    x.callAll (run.take (k + 1)) = (x.callAll (run.take k)).call set now := by
  rw [List.take_add_one, hr, callAll_append]
  rfl

theorem isProper_callAll (hx : x.IsProper) (run : Status.Run) (hn : ∀ r ∈ run, r.2.IsValid) :
    (x.callAll run).IsProper ∧ (x.callAll run).publisher.path = x.publisher.path := by
  induction run generalizing x with
  | nil => exact ⟨hx, rfl⟩
  | cons r run ih =>
    obtain ⟨hr, hrun⟩ := List.forall_mem_cons.mp hn
    obtain ⟨hp, hpath, -⟩ := call_cases hx r.1 hr
    obtain ⟨hall, hpath'⟩ := ih hp hrun
    exact ⟨hall, hpath'.trans hpath⟩

theorem file?_callAll_of_stable (hx : x.IsProper) (hs : s.IsDated)
    (hfile : x.file? = some (.file s.render.toUTF8))
    (hstable : ∀ later, (s.apply set later).1 = s) (hn : ∀ r ∈ run, r.2.IsValid)
    (hset : ∀ r ∈ run, r.1 = set) : (x.callAll run).file? = x.file? := by
  induction run generalizing x with
  | nil => rfl
  | cons r run ih =>
    obtain ⟨⟨hr, hrun⟩, hsr, hsrun⟩ := And.intro (List.forall_mem_cons.mp hn)
      (List.forall_mem_cons.mp hset)
    obtain ⟨set', now⟩ := r
    obtain rfl : set' = set := hsr
    obtain ⟨hp, -, ⟨e, -, hkept⟩ | ⟨p, status, -, -, hwrote⟩⟩ := call_cases hx set' hr
    · exact (ih hp (hkept.file.trans hfile) hrun hsrun).trans hkept.file
    · obtain ⟨start, hstart, rfl⟩ := hwrote.merged
      obtain rfl := hstart.eq_of_render hs hfile
      have hsame := hwrote.file
      rw [hstable] at hsame
      exact (ih hp hsame hrun hsrun).trans (hsame.trans hfile.symm)

/-- Calls with any sets at any times, whatever goes wrong in them: one that fails leaves the file
and the status written last, and one that works puts the merged status into both. Where the
conditions of one type agree in status, as in every rendered set, further calls with the set
leave the file. -/
theorem kept_or_wrote_callAll (x : PublisherSession) (hx : x.IsProper) (run : Status.Run)
    (hn : ∀ r ∈ run, r.2.IsValid) :
    (∀ k set now, run[k]? = some (set, now) →
      let before := x.callAll (run.take k)
      let after := x.callAll (run.take (k + 1))
      after.publisher.path = x.publisher.path ∧
      (∀ e, before.result set now = .error e → before.Kept after) ∧
      ∀ p, before.result set now = .ok p → (∃ status, before.Wrote set now after status) ∧
        (set.Agrees → ∀ m, (∀ r ∈ (run.drop (k + 1)).take m, r.1 = set) →
          (x.callAll (run.take (k + 1 + m))).file? = after.file?)) ∧
    ∀ f : Findings, ConditionSet.Agrees f.render := by
  refine ⟨fun k set now hr => ?_, fun f => ConditionSet.agrees_of_nodup f.nodup_types_render⟩
  obtain ⟨hbefore, hpath⟩ := isProper_callAll hx (run.take k)
    fun r hr => hn r (List.mem_of_mem_take hr)
  have hvalid : now.IsValid := hn _ (List.mem_of_getElem? hr)
  obtain ⟨hafter, hpath', hcases⟩ := call_cases hbefore set hvalid
  simp only [callAll_take_succ x hr]
  refine ⟨hpath'.trans hpath, fun e he => ?_, fun p hp => ?_⟩
  · obtain ⟨e', -, hkept⟩ | ⟨p, status, hp, -⟩ := hcases
    · exact hkept
    · exact nomatch he.symm.trans hp
  · obtain ⟨e, he, -⟩ | ⟨p', status, -, hdated, hwrote⟩ := hcases
    · exact nomatch he.symm.trans hp
    · refine ⟨⟨status, hwrote⟩, fun hagrees m hsame => ?_⟩
      obtain ⟨start, -, rfl⟩ := hwrote.merged
      have hrest : ∀ r ∈ (run.drop (k + 1)).take m, r.2.IsValid := fun r hr =>
        hn r (List.mem_of_mem_drop (List.mem_of_mem_take hr))
      rw [List.take_add, callAll_append, callAll_take_succ x hr]
      exact file?_callAll_of_stable hafter hdated hwrote.file
        (fun later => Status.apply_apply start now later hagrees) hrest hsame

/-- Of three calls with one set the second breaks off while it writes. -/
theorem kept_or_wrote_callAll_broken_off :
    let set : ConditionSet := [⟨"Degraded", .true, "Found", some "team-a"⟩]
    let x : PublisherSession :=
      ⟨{ path := "status.json" }, ⟨⟨[], []⟩, [none, none, none, some (.breaksOff .busy .empty)]⟩⟩
    let run : Status.Run := [(set, .ofClock 60 0), (set, .ofClock 90 0), (set, .ofClock 120 0)]
    (x.IsProper ∧ (∀ r ∈ run, r.2.IsValid) ∧ run[0]? = some (set, .ofClock 60 0) ∧
      (x.result set (.ofClock 60 0)).isOk = true ∧ set.Agrees ∧
      ∀ r ∈ (run.drop 1).take 2, r.1 = set) ∧
    (x.callAll run).file? = (x.call set (.ofClock 60 0)).file? := by
  intro set x run
  have hx : x.IsProper := ⟨rfl, FileTree.wellFormed_of_entries_nil rfl⟩
  have hn : ∀ r ∈ run, r.2.IsValid := by decide
  have hok : (x.result set (.ofClock 60 0)).isOk = true := by decide +kernel
  have hagrees : set.Agrees := ConditionSet.agrees_of_nodup (by decide)
  have hsame : ∀ r ∈ (run.drop 1).take 2, r.1 = set := by decide
  obtain ⟨p, hp⟩ : ∃ p, x.result set (.ofClock 60 0) = .ok p := by
    cases h : x.result set (.ofClock 60 0) with
    | ok p => exact ⟨p, rfl⟩
    | error e => rw [h] at hok; cases hok
  obtain ⟨-, -, hwrote⟩ := (kept_or_wrote_callAll x hx run hn).1 0 set (.ofClock 60 0) rfl
  exact ⟨⟨hx, hn, rfl, hok, hagrees, hsame⟩, (hwrote p hp).2 hagrees 2 hsame⟩

/-- A set with both statuses of one type flips it twice in every call, and so moves its time. -/
theorem file?_call_contradictory :
    let set : ConditionSet := [⟨"T", .true, "", none⟩, ⟨"T", .false, "", none⟩]
    let x : PublisherSession := ⟨{ path := "s" }, ⟨⟨[], []⟩, []⟩⟩
    let x₁ := x.call set (.ofClock 60 0)
    x.IsProper ∧ (x.result set (.ofClock 60 0)).isOk = true ∧
      (x₁.result set (.ofClock 90 0)).isOk = true ∧
      (x₁.call set (.ofClock 90 0)).file? ≠ x₁.file? := by
  intro set x x₁
  have hx : x.IsProper := ⟨rfl, FileTree.wellFormed_of_entries_nil rfl⟩
  obtain ⟨hx₁, hpath, -⟩ := call_cases hx set (show (Timestamp.ofClock 60 0).IsValid by decide)
  obtain ⟨-, hpath', hcases⟩ :=
    call_cases hx₁ set (show (Timestamp.ofClock 90 0).IsValid by decide)
  have hread : ((x₁.call set (.ofClock 90 0)).disk.tree.read "s").toOption ≠
      (x₁.disk.tree.read "s").toOption := by
    decide +kernel
  have hne : (x₁.call set (.ofClock 90 0)).file? ≠ x₁.file? := by
    rw [file?, file?, hpath', hpath]
    exact mt FileTree.toOption_read_congr hread
  refine ⟨hx, by decide +kernel, ?_, hne⟩
  -- A call that fails keeps the file.
  obtain ⟨e, -, hkept⟩ | ⟨p, status, hp, -⟩ := hcases
  · exact absurd hkept.file hne
  · rw [hp]
    rfl

end PublisherSession

end AdmissionForecast
