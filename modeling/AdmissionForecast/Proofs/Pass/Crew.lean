import AdmissionForecast.Pass.Workers
import AdmissionForecast.Proofs.Pass.Recording
import Mathlib.Algebra.BigOperators.Group.List.Basic
import Mathlib.Algebra.GroupWithZero.Nat
import Mathlib.Data.List.Perm.Basic

/-! # Runs of a crew

However the moves of the workers are interleaved, the indices taken are the first ones, each of
them is either recorded or in the hands of one worker, and what is known covers the recorded
ones. A run can always be finished, and all its finished forms have the same length.
-/

namespace AdmissionForecast.Pass

namespace Worker

/-- The index in the hands of a worker. -/
def index? : Worker → Option Nat
  | busy i _ => some i
  | _ => none

/-- The steps a worker has begun but not performed. -/
def pending : Worker → List DetectStep
  | busy _ rest => rest
  | _ => []

/-- The number of moves a worker makes before it is idle and stops. -/
def work : Worker → Nat
  | idle => 1
  | busy _ rest => rest.length + 2
  | stopped => 0

end Worker

namespace Crew

open List

variable {p : Pass} {nss : List Namespace} {s t u : Crew} {m : Move} {moves before more : List Move}
  {n w : Nat}

def taken (moves : List Move) : List Nat := moves.filterMap Move.taken?

def recorded (moves : List Move) : List Nat := moves.filterMap Move.recorded?

def pick (nss : List Namespace) (indices : List Nat) : List Namespace :=
  indices.filterMap (nss[·]?)

theorem pick_append (nss : List Namespace) (is js : List Nat) :
    pick nss (is ++ js) = pick nss is ++ pick nss js :=
  List.filterMap_append

theorem pick_singleton {i : Nat} {ns : Namespace} (h : nss[i]? = some ns) :
    pick nss [i] = [ns] := by
  simp [pick, h]

theorem pick_range (nss : List Namespace) : pick nss (List.range nss.length) = nss := by
  induction nss using List.reverseRecOn with
  | nil => rfl
  | append_singleton nss ns ih =>
    have hp : pick (nss ++ [ns]) (List.range nss.length) = pick nss (List.range nss.length) := by
      refine List.filterMap_congr fun i hi => ?_
      exact List.getElem?_append_left (List.mem_range.mp hi)
    rw [List.length_append, List.length_singleton, List.range_succ, pick_append, hp, ih,
      pick_singleton List.getElem?_concat_length]

/-- What holds of `n` workers after some moves. -/
structure Sound (p : Pass) (nss : List Namespace) (n : Nat) (moves : List Move) (s : Crew) :
    Prop where
  length_workers : s.workers.length = n
  taken : taken moves = List.range (min s.next nss.length)
  recorded : (recorded moves ++ s.workers.filterMap Worker.index?).Perm (Crew.taken moves)
  progress : s.progress.Covers p.detector (pick nss (Crew.recorded moves))
  trace : (s.trace ++ s.workers.flatMap Worker.pending).Perm
    (p.stepsOf (pick nss (Crew.taken moves)))
  stopped : .stopped ∈ s.workers → nss.length ≤ s.next

theorem sound_start (p : Pass) (nss : List Namespace) (n : Nat) : Sound p nss n [] (start n) where
  length_workers := List.length_replicate
  taken := by simp [Crew.taken, start]
  recorded := by simp [Crew.recorded, Crew.taken, start, Worker.index?]
  progress := Progress.covers_nil _
  trace := by simp [start, Crew.taken, pick, stepsOf, Worker.pending]
  stopped := by simp [start]

theorem exists_others {a : Worker} (h : s.workers[w]? = some a) :
    ∃ others, s.workers.Perm (a :: others) ∧ ∀ b, (s.workers.set w b).Perm (b :: others) := by
  obtain ⟨hw, rfl⟩ := List.getElem?_eq_some_iff.mp h
  exact ⟨s.workers.eraseIdx w, (List.getElem_cons_eraseIdx_perm hw).symm,
    fun b => List.set_perm_cons_eraseIdx hw b⟩

/-- Indices change hands only where a worker gets or gives one away. -/
theorem perm_index?_set {a : Worker} (hw : s.workers[w]? = some a) (b : Worker)
    (h : b.index? = a.index?) :
    ((s.workers.set w b).filterMap Worker.index?).Perm (s.workers.filterMap Worker.index?) := by
  obtain ⟨others, ho, hb⟩ := exists_others hw
  refine ((hb b).filterMap _).trans (Perm.trans ?_ (ho.filterMap _).symm)
  rw [filterMap_cons, filterMap_cons, h]

theorem perm_pending_set {a : Worker} (hw : s.workers[w]? = some a) (b : Worker)
    (h : b.pending = a.pending) :
    ((s.workers.set w b).flatMap Worker.pending).Perm (s.workers.flatMap Worker.pending) := by
  obtain ⟨others, ho, hb⟩ := exists_others hw
  refine ((hb b).flatMap_right _).trans (Perm.trans ?_ (ho.flatMap_right _).symm)
  rw [flatMap_cons, flatMap_cons, h]

theorem Sound.le_next {b : Worker} (h : Sound p nss n moves s) (hb : b ≠ .stopped)
    (hs : .stopped ∈ s.workers.set w b) : nss.length ≤ s.next := by
  rcases mem_or_eq_of_mem_set hs with hs | hs
  · exact h.stopped hs
  · exact absurd hs.symm hb

theorem Sound.take {ns : Namespace} (h : Sound p nss n moves s)
    (hw : s.workers[w]? = some .idle) (hn : nss[s.next]? = some ns) :
    Sound p nss n (moves ++ [.take w s.next])
      { s with
        next := s.next + 1
        workers := s.workers.set w (.busy s.next (p.evaluateOne ns).steps) } := by
  obtain ⟨others, ho, hb⟩ := exists_others hw
  have hb := hb (.busy s.next (p.evaluateOne ns).steps)
  obtain ⟨hlt, -⟩ := List.getElem?_eq_some_iff.mp hn
  have ht : Crew.taken (moves ++ [.take w s.next]) = Crew.taken moves ++ [s.next] :=
    List.filterMap_append
  have hr : Crew.recorded (moves ++ [.take w s.next]) = Crew.recorded moves := by
    simp [Crew.recorded, Move.recorded?]
  constructor
  · rw [List.length_set, h.length_workers]
  · rw [ht, h.taken, Nat.min_eq_left (Nat.le_of_lt hlt), Nat.min_eq_left hlt, List.range_succ]
  · rw [ht, hr]
    calc
      _ ~ Crew.recorded moves ++ s.next :: others.filterMap Worker.index? :=
        (hb.filterMap Worker.index?).append_left _
      _ ~ s.next :: (Crew.recorded moves ++ s.workers.filterMap Worker.index?) :=
        perm_middle.trans (((ho.filterMap Worker.index?).symm.append_left _).cons _)
      _ ~ Crew.taken moves ++ [s.next] :=
        (h.recorded.cons _).trans (perm_append_singleton _ _).symm
  · rw [hr]
    exact h.progress
  · rw [ht, pick_append, pick_singleton hn, stepsOf_append]
    calc
      _ ~ s.trace ++ ((p.evaluateOne ns).steps ++ others.flatMap Worker.pending) :=
        (hb.flatMap_right Worker.pending).append_left _
      _ ~ s.trace ++ s.workers.flatMap Worker.pending ++ (p.evaluateOne ns).steps := by
        rw [append_assoc]
        exact (perm_append_comm.trans
          ((ho.flatMap_right Worker.pending).symm.append_right _)).append_left _
      _ ~ p.stepsOf (pick nss (Crew.taken moves)) ++ p.stepsOf [ns] := by
        rw [stepsOf_singleton]
        exact h.trace.append_right _
  · exact fun hs => Nat.le_succ_of_le (h.le_next (by simp) hs)

theorem Sound.perform {i : Nat} {e : DetectStep} {rest : List DetectStep}
    (h : Sound p nss n moves s) (hw : s.workers[w]? = some (.busy i (e :: rest))) :
    Sound p nss n (moves ++ [.perform w e])
      { s with workers := s.workers.set w (.busy i rest), trace := s.trace ++ [e] } := by
  obtain ⟨others, ho, hb⟩ := exists_others hw
  have hb := hb (.busy i rest)
  have ht : Crew.taken (moves ++ [.perform w e]) = Crew.taken moves := by
    simp [Crew.taken, Move.taken?]
  have hr : Crew.recorded (moves ++ [.perform w e]) = Crew.recorded moves := by
    simp [Crew.recorded, Move.recorded?]
  constructor
  · rw [List.length_set, h.length_workers]
  · rw [ht, h.taken]
  · rw [ht, hr]
    exact ((perm_index?_set hw (.busy i rest) rfl).append_left _).trans h.recorded
  · rw [hr]
    exact h.progress
  · rw [ht]
    calc
      _ ~ s.trace ++ [e] ++ (rest ++ others.flatMap Worker.pending) :=
        (hb.flatMap_right Worker.pending).append_left _
      _ = s.trace ++ (e :: rest ++ others.flatMap Worker.pending) := by simp
      _ ~ s.trace ++ s.workers.flatMap Worker.pending :=
        (ho.flatMap_right Worker.pending).symm.append_left _
      _ ~ p.stepsOf (pick nss (Crew.taken moves)) := h.trace
  · exact fun hs => h.le_next (by simp) hs

theorem Sound.record {i : Nat} {ns : Namespace} (h : Sound p nss n moves s)
    (hw : s.workers[w]? = some (.busy i [])) (hn : nss[i]? = some ns) :
    Sound p nss n (moves ++ [.record w i])
      { s with
        workers := s.workers.set w .idle
        progress := s.progress.record ns (p.evaluateOne ns).result } := by
  obtain ⟨others, ho, hb⟩ := exists_others hw
  have hb := hb .idle
  have ht : Crew.taken (moves ++ [.record w i]) = Crew.taken moves := by
    simp [Crew.taken, Move.taken?]
  have hr : Crew.recorded (moves ++ [.record w i]) = Crew.recorded moves ++ [i] :=
    List.filterMap_append
  constructor
  · rw [List.length_set, h.length_workers]
  · rw [ht, h.taken]
  · rw [ht, hr]
    calc
      _ ~ Crew.recorded moves ++ [i] ++ others.filterMap Worker.index? :=
        (hb.filterMap Worker.index?).append_left _
      _ = Crew.recorded moves ++ i :: others.filterMap Worker.index? := by simp
      _ ~ Crew.recorded moves ++ s.workers.filterMap Worker.index? :=
        (ho.filterMap Worker.index?).symm.append_left _
      _ ~ Crew.taken moves := h.recorded
  · rw [hr, pick_append, pick_singleton hn]
    exact h.progress.record ns
  · rw [ht]
    exact ((perm_pending_set hw .idle rfl).append_left _).trans h.trace
  · exact fun hs => h.le_next (by simp) hs

theorem Sound.stop (h : Sound p nss n moves s) (hw : s.workers[w]? = some .idle)
    (hn : nss[s.next]? = none) :
    Sound p nss n (moves ++ [.stop w])
      { s with next := s.next + 1, workers := s.workers.set w .stopped } := by
  have hle := List.getElem?_eq_none_iff.mp hn
  have ht : Crew.taken (moves ++ [.stop w]) = Crew.taken moves := by
    simp [Crew.taken, Move.taken?]
  have hr : Crew.recorded (moves ++ [.stop w]) = Crew.recorded moves := by
    simp [Crew.recorded, Move.recorded?]
  constructor
  · rw [List.length_set, h.length_workers]
  · rw [ht, h.taken, Nat.min_eq_right hle, Nat.min_eq_right (Nat.le_succ_of_le hle)]
  · rw [ht, hr]
    exact ((perm_index?_set hw .stopped rfl).append_left _).trans h.recorded
  · rw [hr]
    exact h.progress
  · rw [ht]
    exact ((perm_pending_set hw .stopped rfl).append_left _).trans h.trace
  · exact fun _ => Nat.le_succ_of_le hle

theorem Sound.step (h : Sound p nss n moves s) (hs : Step p nss s m t) :
    Sound p nss n (moves ++ [m]) t := by
  cases hs with
  | take hw hn => exact h.take hw hn
  | perform hw => exact h.perform hw
  | record hw hn => exact h.record hw hn
  | stop hw hn => exact h.stop hw hn

theorem Sound.run (h : Sound p nss n before s) (hr : Run p nss s moves t) :
    Sound p nss n (before ++ moves) t := by
  induction hr with
  | nil => simpa using h
  | snoc _ hs ih =>
    rw [← append_assoc]
    exact ih.step hs

theorem pending_of_finished (hf : s.Finished) : s.workers.flatMap Worker.pending = [] :=
  flatMap_eq_nil_iff.mpr fun worker hw => by rw [hf worker hw]; rfl

theorem index?_of_finished (hf : s.Finished) : s.workers.filterMap Worker.index? = [] :=
  filterMap_eq_nil_iff.mpr fun worker hw => by rw [hf worker hw]; rfl

theorem Sound.taken_of_finished (h : Sound p nss n moves s) (hn : 0 < n) (hf : s.Finished) :
    Crew.taken moves = range nss.length := by
  obtain ⟨worker, hw⟩ := exists_mem_of_length_pos (h.length_workers ▸ hn)
  rw [h.taken, Nat.min_eq_right (h.stopped (hf worker hw ▸ hw))]

theorem Sound.recorded_of_finished (h : Sound p nss n moves s) (hn : 0 < n) (hf : s.Finished) :
    (Crew.recorded moves).Perm (range nss.length) := by
  have hr := h.recorded
  rwa [index?_of_finished hf, append_nil, h.taken_of_finished hn hf] at hr

theorem Sound.trace_of_finished (h : Sound p nss n moves s) (hn : 0 < n) (hf : s.Finished) :
    s.trace.Perm (p.stepsOf nss) := by
  have ht := h.trace
  rwa [pending_of_finished hf, append_nil, h.taken_of_finished hn hf, pick_range] at ht

theorem Sound.covers_of_finished (h : Sound p nss n moves s) (hn : 0 < n) (hf : s.Finished) :
    ∃ order, order.Perm nss ∧ s.progress.Covers p.detector order := by
  refine ⟨pick nss (Crew.recorded moves), ?_, h.progress⟩
  have hp := (h.recorded_of_finished hn hf).filterMap (nss[·]?)
  exact hp.trans (.of_eq (pick_range nss))

/-- The number of moves up to the end. -/
def work (p : Pass) (nss : List Namespace) (s : Crew) : Nat :=
  ((nss.drop s.next).map fun ns => (p.evaluateOne ns).steps.length + 2).sum +
    (s.workers.map Worker.work).sum

theorem work_set {a : Worker} (hw : s.workers[w]? = some a) (b : Worker) :
    ((s.workers.set w b).map Worker.work).sum + a.work =
      (s.workers.map Worker.work).sum + b.work := by
  obtain ⟨others, ho, hb⟩ := exists_others hw
  have h₁ := (ho.map Worker.work).sum_eq
  have h₂ := ((hb b).map Worker.work).sum_eq
  rw [map_cons, sum_cons] at h₁ h₂
  omega

theorem Step.work_eq (hs : Step p nss s m t) : t.work p nss + 1 = s.work p nss := by
  cases hs with
  | @take w ns hw hn =>
    have h := work_set hw (.busy s.next (p.evaluateOne ns).steps)
    have hd : nss.drop s.next = ns :: nss.drop (s.next + 1) := by
      obtain ⟨hlt, rfl⟩ := List.getElem?_eq_some_iff.mp hn
      exact drop_eq_getElem_cons hlt
    simp only [work, hd, map_cons, sum_cons, Worker.work] at h ⊢
    omega
  | @perform w i e rest hw =>
    have h := work_set hw (.busy i rest)
    simp only [work, Worker.work, length_cons] at h ⊢
    omega
  | record hw _ =>
    have h := work_set hw .idle
    simp only [work, Worker.work, length_nil] at h ⊢
    omega
  | stop hw hn =>
    have h := work_set hw .stopped
    have hle := getElem?_eq_none_iff.mp hn
    have hd : nss.drop (s.next + 1) = nss.drop s.next := by
      rw [drop_eq_nil_of_le hle, drop_eq_nil_of_le (Nat.le_succ_of_le hle)]
    simp only [work, hd, Worker.work] at h ⊢
    omega

/-- Every run uses up the work move by move, so none goes on for ever. -/
theorem Run.length_add_work (hr : Run p nss s moves t) :
    moves.length + t.work p nss = s.work p nss := by
  induction hr with
  | nil => exact Nat.zero_add _
  | snoc _ hs ih =>
    have h := hs.work_eq
    rw [length_append, length_singleton]
    omega

theorem Run.append (hr : Run p nss s moves t) (hm : Run p nss t more u) :
    Run p nss s (moves ++ more) u := by
  induction hm with
  | nil => simpa using hr
  | snoc _ hs ih =>
    rw [← append_assoc]
    exact .snoc ih hs

/-- No worker is ever stuck. -/
theorem Sound.exists_step (h : Sound p nss n moves s) (hf : ¬ s.Finished) :
    ∃ m t, Step p nss s m t := by
  obtain ⟨worker, hm, hne⟩ : ∃ worker ∈ s.workers, worker ≠ .stopped := by
    simpa [Finished] using hf
  obtain ⟨w, hw⟩ := getElem?_of_mem hm
  cases worker with
  | idle =>
    cases hn : nss[s.next]? with
    | some ns => exact ⟨_, _, .take hw hn⟩
    | none => exact ⟨_, _, .stop hw hn⟩
  | busy i rest =>
    cases rest with
    | cons e rest => exact ⟨_, _, .perform hw⟩
    | nil =>
      -- An index in the hands of a worker was taken, so it has a namespace.
      have hi : i ∈ Crew.taken moves := by
        refine h.recorded.mem_iff.mp (mem_append_right _ ?_)
        exact mem_filterMap.mpr ⟨_, hm, rfl⟩
      rw [h.taken, mem_range] at hi
      have hlt : i < nss.length := by omega
      exact ⟨_, _, .record hw (getElem?_eq_getElem hlt)⟩
  | stopped => exact absurd rfl hne

theorem Sound.exists_finished (h : Sound p nss n moves s) :
    ∃ more t, Run p nss s more t ∧ t.Finished := by
  -- Each move uses up work, and some move is left before the end.
  induction hk : s.work p nss generalizing s moves with
  | zero =>
    refine ⟨[], s, .nil s, ?_⟩
    by_contra hf
    obtain ⟨m, t, hs⟩ := h.exists_step hf
    have := hs.work_eq
    omega
  | succ k ih =>
    by_cases hf : s.Finished
    · exact ⟨[], s, .nil s, hf⟩
    · obtain ⟨m, t, hs⟩ := h.exists_step hf
      have hw := hs.work_eq
      obtain ⟨more, u, hr, hu⟩ := ih (h.step hs) (by omega)
      exact ⟨[m] ++ more, u, (Run.snoc (.nil s) hs).append hr, hu⟩

end Crew

end AdmissionForecast.Pass
