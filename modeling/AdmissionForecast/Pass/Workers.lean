import AdmissionForecast.Pass

/-! # Workers of a pass

A pass goes through its namespaces alone or with several workers at once. Workers share a
counter, the trace and what is known so far. Each one takes the next index, performs the steps
of that evaluation and records its result, until the index it takes is out of range. Their moves
may be interleaved in any way, and every finished run leads to a report.
-/

namespace AdmissionForecast.Pass

/-- A number kept between two bounds; there is none if the bounds are the wrong way round. -/
def clamp? (low high n : Nat) : Option Nat :=
  if low ≤ high then some (max low (min n high)) else none

/-- How many workers go through so many namespaces. -/
def workerCount? (p : Pass) (selected : Nat) : Option Nat :=
  clamp? 1 (max selected 1) p.config.workers.toNat

inductive Worker where
  | idle
  /-- It evaluates the namespace of an index and has still to perform some steps. -/
  | busy (index : Nat) (rest : List DetectStep)
  | stopped

/-- The workers, and what they share. -/
structure Crew where
  next : Nat := 0
  workers : List Worker
  trace : List DetectStep := []
  progress : Progress := {}

/-- What a worker does at once, with no other worker in between. -/
inductive Move where
  | take (worker index : Nat)
  | perform (worker : Nat) (step : DetectStep)
  | record (worker index : Nat)
  | stop (worker : Nat)

def Move.taken? : Move → Option Nat
  | take _ i => some i
  | _ => none

def Move.recorded? : Move → Option Nat
  | record _ i => some i
  | _ => none

namespace Crew

def start (workers : Nat) : Crew := { workers := List.replicate workers .idle }

def Finished (s : Crew) : Prop := ∀ worker ∈ s.workers, worker = .stopped

/-- The moves of the workers that go through some namespaces. -/
inductive Step (p : Pass) (nss : List Namespace) : Crew → Move → Crew → Prop where
  | take {s : Crew} {w : Nat} {ns : Namespace} : s.workers[w]? = some .idle →
      nss[s.next]? = some ns →
      Step p nss s (.take w s.next)
        { s with
          next := s.next + 1
          workers := s.workers.set w (.busy s.next (p.evaluateOne ns).steps) }
  | perform {s : Crew} {w i : Nat} {e : DetectStep} {rest : List DetectStep} :
      s.workers[w]? = some (.busy i (e :: rest)) →
      Step p nss s (.perform w e)
        { s with workers := s.workers.set w (.busy i rest), trace := s.trace ++ [e] }
  | record {s : Crew} {w i : Nat} {ns : Namespace} : s.workers[w]? = some (.busy i []) →
      nss[i]? = some ns →
      Step p nss s (.record w i)
        { s with
          workers := s.workers.set w .idle
          progress := s.progress.record ns (p.evaluateOne ns).result }
  | stop {s : Crew} {w : Nat} : s.workers[w]? = some .idle → nss[s.next]? = none →
      Step p nss s (.stop w)
        { s with next := s.next + 1, workers := s.workers.set w .stopped }

/-- The moves that lead from one state to another. -/
inductive Run (p : Pass) (nss : List Namespace) : Crew → List Move → Crew → Prop where
  | nil (s : Crew) : Run p nss s [] s
  | snoc {s t u : Crew} {moves : List Move} {m : Move} :
      Run p nss s moves t → Step p nss t m u → Run p nss s (moves ++ [m]) u

end Crew

/-- The steps and the progress with which a pass may come through some namespaces. -/
inductive Gathers (p : Pass) (nss : List Namespace) : List DetectStep → Progress → Prop where
  | alone : p.workerCount? nss.length = some 1 →
      Gathers p nss (p.evaluateAll nss).steps (p.evaluateAll nss).result
  | together {workers : Nat} {moves : List Move} {s : Crew} :
      p.workerCount? nss.length = some workers → workers ≠ 1 →
      Crew.Run p nss (.start workers) moves s → s.Finished → Gathers p nss s.trace s.progress

/-- What is logged before the first evaluation. -/
def opening (p : Pass) (all : List Namespace) : List DetectStep :=
  let (selected, skipped) := Namespace.selectNonEnforcing all
  p.startedEvent :: (all.filter (·.isEnforcing)).map p.skippedEvent ++
    [p.listedEvent all.length selected.length skipped]

def closing (p : Pass) (r : PassReport) : List DetectStep :=
  [p.renderedEvent (ConditionSet.firing r.conditions).length,
    p.finishedEvent r.evaluated r.violating r.inconclusive r.failures.length]

/-- The report on a listing once all its namespaces that do not enforce a level are done. -/
def reportOn (p : Pass) (all : List Namespace) (done : Progress) : PassReport :=
  let (selected, skipped) := Namespace.selectNonEnforcing all
  p.report all.length skipped selected.length done

/-- The steps and the report with which a pass may end. -/
inductive Yields (p : Pass) : List DetectStep → PassReport → Prop where
  | intro {all : List Namespace} {steps : List DetectStep} {done : Progress} :
      p.client.namespaces = .ok all →
      Gathers p (Namespace.selectNonEnforcing all).1 steps done →
      Yields p (p.opening all ++ steps ++ p.closing (p.reportOn all done)) (p.reportOn all done)

end AdmissionForecast.Pass
