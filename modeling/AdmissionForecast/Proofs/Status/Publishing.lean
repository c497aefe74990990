import AdmissionForecast.Proofs.Json.Fields
import AdmissionForecast.Proofs.Storage.Disk
import AdmissionForecast.Status.Publisher

/-! # Publishing on a disk that fails

Whatever goes wrong on the way, a call that fails leaves the status file as it was, and a call
that works leaves the document of the merged status in it.
-/

namespace AdmissionForecast

/-- A file that is the document of a status. -/
def FileTree.HoldsDocument (t : FileTree) (path : String) (s : Status) : Prop :=
  ∃ text, t.at? path = some (.file text.toUTF8) ∧ Status.parse text = .ok s

/-- The status that a file holds; without a file it is the empty one. -/
inductive FileTree.Holds (t : FileTree) (path : String) : Status → Prop where
  | absent : t.at? path = none → Holds t path {}
  | document {s : Status} : t.HoldsDocument path s → Holds t path s

namespace StatusPublisher

open Disk (storage)

variable {p : StatusPublisher} {d : Disk} {set : ConditionSet} {now : Timestamp} {s : Status}
  {path text : String}

def StartsFrom (p : StatusPublisher) (t : FileTree) (s : Status) : Prop :=
  match p.base with
  | some base => s = base
  | none => t.Holds p.path s

/-- What one call does to the tree, together with its result. -/
inductive Outcome (p : StatusPublisher) (set : ConditionSet) (now : Timestamp) (t t' : FileTree) :
    Except ClientError StatusPublisher → Prop where
  | failed (e : ClientError) : t'.at? p.path = t.at? p.path → Outcome p set now t t' (.error e)
  | wrote {start : Status} : p.StartsFrom t start →
      t'.at? p.path = some (.file (start.apply set now).1.render.toUTF8) →
      Outcome p set now t t' (.ok { p with written := some (start.apply set now).1 })

@[simp] theorem tree_loadStatus (path : String) (d : Disk) :
    (loadStatus storage path d).2.tree = d.tree := by
  rw [loadStatus, bind_stateM_apply]
  cases (storage.read path d).1 <;> rfl

theorem loadStatus_eq_ok (h : (loadStatus storage path d).1 = .ok s) :
    d.tree.HoldsDocument path s := by
  rw [loadStatus, bind_stateM_apply] at h
  cases hr : (storage.read path d).1 with
  | error e =>
    rw [hr] at h
    cases h
  | ok text =>
    rw [hr] at h
    have hs : Status.parse text = .ok s := mapError_eq_ok_iff.mp h
    have hread := Disk.read_eq_ok hr (Json.parse?_ne_none_of_readText hs)
    exact ⟨text, FileTree.read_eq_ok_iff.mp hread, hs⟩

@[simp] theorem tree_startStatus (p : StatusPublisher) (d : Disk) :
    (p.startStatus storage d).2.tree = d.tree := by
  unfold startStatus
  cases p.base with
  | some base => rfl
  | none =>
    simp only [bind_stateM_apply]
    cases (storage.exists? p.path d).1 with
    | true => exact (tree_loadStatus _ _).trans (Disk.tree_exists? _ _)
    | false => rfl

theorem startStatus_eq_ok (h : (p.startStatus storage d).1 = .ok s) : p.StartsFrom d.tree s := by
  unfold startStatus at h
  unfold StartsFrom
  cases hb : p.base with
  | some base =>
    rw [hb] at h
    exact (Except.ok.inj h).symm
  | none =>
    rw [hb] at h
    simp only [bind_stateM_apply] at h
    have he : (storage.exists? p.path d).1 = (d.tree.at? p.path).isSome :=
      FileTree.exists?_eq d.tree p.path
    cases hc : d.tree.at? p.path with
    | none =>
      rw [he, hc] at h
      obtain rfl : {} = s := Except.ok.inj h
      exact .absent hc
    | some entry =>
      rw [he, hc] at h
      exact .document (loadStatus_eq_ok h)

/-- What is written beside the status file replaces it, or the file stays. -/
theorem replaceFile_cases (hw : d.tree.WellFormed) (p : StatusPublisher) (text : String) :
    (p.replaceFile storage text d).2.tree.WellFormed ∧
      (((p.replaceFile storage text d).1 = .ok () ∧
        (p.replaceFile storage text d).2.tree.at? p.path = some (.file text.toUTF8)) ∨
      ∃ e, (p.replaceFile storage text d).1 = .error e ∧
        (p.replaceFile storage text d).2.tree.at? p.path = d.tree.at? p.path) := by
  rw [replaceFile, bind_stateM_apply]
  rcases Disk.write_cases p.temporaryPath text d with ⟨h₁, ht₁⟩ | ⟨e, h₁, ht₁⟩
  · rw [h₁]
    have hw₁ := hw.write ht₁
    rcases Disk.rename_cases p.temporaryPath p.path (storage.write p.temporaryPath text d).2 with
      ⟨h₂, ht₂⟩ | ⟨e, h₂, ht₂⟩
    · exact ⟨hw₁.rename ht₂, .inl ⟨h₂, FileTree.at?_rename_of_write ht₁ ht₂⟩⟩
    · refine ⟨?_, .inr ⟨e, h₂, ?_⟩⟩
      · show (storage.rename _ _ _).2.tree.WellFormed
        rwa [ht₂]
      · show (storage.rename _ _ _).2.tree.at? p.path = _
        rw [ht₂, FileTree.at?_write_beside hw ht₁]
  · rw [h₁]
    obtain ⟨hw₁, ha⟩ : (storage.write p.temporaryPath text d).2.tree.WellFormed ∧
        (storage.write p.temporaryPath text d).2.tree.at? p.path = d.tree.at? p.path := by
      rcases ht₁ with ht₁ | ⟨left, ht₁⟩
      · rw [ht₁]
        exact ⟨hw, rfl⟩
      · rw [ht₁]
        exact Disk.leave_beside hw p.path left
    exact ⟨hw₁, .inr ⟨e, rfl, ha⟩⟩

theorem outcome_publish (hw : d.tree.WellFormed) (p : StatusPublisher) (now : Timestamp)
    (set : ConditionSet) :
    (p.publish storage now set d).2.tree.WellFormed ∧
      Outcome p set now d.tree (p.publish storage now set d).2.tree
        (p.publish storage now set d).1.result := by
  rw [publish, bind_stateM_apply]
  have ht := tree_startStatus p d
  cases hs : (p.startStatus storage d).1 with
  | error e =>
    refine ⟨?_, .failed (p.publishError e) ?_⟩
    · show (p.startStatus storage d).2.tree.WellFormed
      rwa [ht]
    · exact congrArg (fun t => t.at? p.path) ht
  | ok start =>
    simp only [bind_stateM_apply]
    have hw₁ : (p.startStatus storage d).2.tree.WellFormed := by rwa [ht]
    rcases replaceFile_cases hw₁ p (start.apply set now).1.render with
      ⟨hw₂, ⟨hr, ha⟩ | ⟨e, hr, ha⟩⟩
    · rw [hr]
      exact ⟨hw₂, .wrote (startStatus_eq_ok hs) ha⟩
    · rw [hr]
      rw [ht] at ha
      exact ⟨hw₂, .failed (p.publishError (.file e)) ha⟩

end StatusPublisher

end AdmissionForecast
