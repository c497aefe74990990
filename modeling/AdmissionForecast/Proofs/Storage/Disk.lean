import AdmissionForecast.Json.Document
import AdmissionForecast.Proofs.Storage.Changes

/-! # Disks that fail

A file tree whose operations go wrong at will: reading and moving fail, what is read is no
document, and writing breaks off with some bytes on the disk. An operation that works does what it
does on the tree, and one that fails has changed the tree at the place of a write at most.
-/

namespace AdmissionForecast

theorem bind_stateM_apply {σ α β : Type} (x : StateM σ α) (f : α → StateM σ β) (s : σ) :
    (x >>= f) s = f (x s).1 (x s).2 := rfl

/-- What goes wrong in an operation on files. -/
inductive Mishap where
  | fails (cause : FileError)
  /-- Reading gives a text that is no document. -/
  | garbles (text : String) (isGarbage : Json.parse? text = none)
  /-- Writing fails after some bytes. -/
  | breaksOff (cause : FileError) (left : ByteArray)

/-- A file tree with what goes wrong in its next operations, in order; after the last of them
nothing does. -/
structure Disk where
  tree : FileTree
  mishaps : List (Option Mishap) := []

namespace Disk

def readWith (m : Option Mishap) (t : FileTree) (path : String) : Except FileError String :=
  match m with
  | none => t.read path
  | some (.garbles text _) => .ok text
  | some (.fails e) | some (.breaksOff e _) => .error e

/-- A write that breaks off: if the file can be written at all it has other bytes now. -/
def leave (t : FileTree) (path : String) (left : ByteArray) : FileTree :=
  match t.write path "", t.place? path with
  | .ok _, some q => t.set q (.file left)
  | _, _ => t

/-- A change of the tree that is kept only if it works. -/
def keep (t : FileTree) (changed : Except FileError FileTree) : Except FileError Unit × FileTree :=
  match changed with
  | .ok t' => (.ok (), t')
  | .error e => (.error e, t)

def writeWith (m : Option Mishap) (t : FileTree) (path text : String) :
    Except FileError Unit × FileTree :=
  match m with
  | none | some (.garbles ..) => keep t (t.write path text)
  | some (.fails e) => (.error e, t)
  | some (.breaksOff e left) => (.error e, leave t path left)

def renameWith (m : Option Mishap) (t : FileTree) (source target : String) :
    Except FileError Unit × FileTree :=
  match m with
  | none | some (.garbles ..) => keep t (t.rename source target)
  | some (.fails e) | some (.breaksOff e _) => (.error e, t)

def mishap (d : Disk) : Option Mishap := d.mishaps.head?.join

/-- A step on the tree, in which the next mishap happens. -/
def step {α : Type} (f : Option Mishap → FileTree → α × FileTree) : StateM Disk α := fun d =>
  ((f d.mishap d.tree).1, ⟨(f d.mishap d.tree).2, d.mishaps.tail⟩)

/-- The storage of a disk. Whether something exists is always told truly. -/
def storage : Storage (StateM Disk) where
  exists? path := fun d => (d.tree.exists? path, d)
  read path := step fun m t => (readWith m t path, t)
  write path text := step fun m t => writeWith m t path text
  rename source target := step fun m t => renameWith m t source target

variable {d : Disk} {path source target text : String} {t : FileTree} {q : List String}

@[simp] theorem tree_exists? (path : String) (d : Disk) :
    (storage.exists? path d).2.tree = d.tree := rfl

theorem read_eq_ok (h : (storage.read path d).1 = .ok text) (ht : Json.parse? text ≠ none) :
    d.tree.read path = .ok text := by
  change readWith d.mishap d.tree path = .ok text at h
  cases hm : d.mishap with
  | none => rwa [hm] at h
  | some m =>
    rw [hm] at h
    cases m with
    | garbles text' hg => exact absurd (Except.ok.inj h ▸ hg) ht
    | fails e => cases h
    | breaksOff e left => cases h

theorem keep_cases (t : FileTree) (changed : Except FileError FileTree) :
    ((keep t changed).1 = .ok () ∧ changed = .ok (keep t changed).2) ∨
      ∃ e, (keep t changed).1 = .error e ∧ (keep t changed).2 = t := by
  cases changed with
  | ok t' => exact .inl ⟨rfl, rfl⟩
  | error e => exact .inr ⟨e, rfl, rfl⟩

theorem leave_cases (t : FileTree) (path : String) (left : ByteArray) : leave t path left = t ∨
    ∃ q, t.place? path = some q ∧ t.entry? q ≠ some .directory ∧
      t.entry? q.dropLast = some .directory ∧ leave t path left = t.set q (.file left) := by
  unfold leave
  split
  · rename_i t' q hw hq
    obtain ⟨q', hq', hf, hd, -⟩ := FileTree.exists_set_of_write hw
    obtain rfl := Option.some.inj (hq.symm.trans hq')
    exact .inr ⟨q, hq, hf, hd, rfl⟩
  · exact .inl rfl

theorem leave_beside (hw : t.WellFormed) (path : String) (left : ByteArray) :
    (leave t (Path.withExtension path "json.tmp") left).WellFormed ∧
      (leave t (Path.withExtension path "json.tmp") left).at? path = t.at? path := by
  rcases leave_cases t (Path.withExtension path "json.tmp") left with hl | ⟨q, hq, hf, hd, hl⟩
  · rw [hl]
    exact ⟨hw, rfl⟩
  · rw [hl]
    exact ⟨hw.set hf hd left, FileTree.at?_eq_of_beside hw hq (.set hf left)⟩

theorem write_cases (path text : String) (d : Disk) :
    ((storage.write path text d).1 = .ok () ∧
      d.tree.write path text = .ok (storage.write path text d).2.tree) ∨
    ∃ e, (storage.write path text d).1 = .error e ∧
      ((storage.write path text d).2.tree = d.tree ∨
        ∃ left, (storage.write path text d).2.tree = leave d.tree path left) := by
  change ((writeWith d.mishap d.tree path text).1 = _ ∧
      _ = Except.ok (writeWith d.mishap d.tree path text).2) ∨
    ∃ e, (writeWith d.mishap d.tree path text).1 = _ ∧
      ((writeWith d.mishap d.tree path text).2 = _ ∨
        ∃ left, (writeWith d.mishap d.tree path text).2 = _)
  have hk := keep_cases d.tree (d.tree.write path text)
  rcases d.mishap with _ | e | ⟨text', hg⟩ | ⟨e, left⟩
  · exact hk.imp_right fun ⟨e, he, ht⟩ => ⟨e, he, .inl ht⟩
  · exact .inr ⟨e, rfl, .inl rfl⟩
  · exact hk.imp_right fun ⟨e, he, ht⟩ => ⟨e, he, .inl ht⟩
  · exact .inr ⟨e, rfl, .inr ⟨left, rfl⟩⟩

theorem rename_cases (source target : String) (d : Disk) :
    ((storage.rename source target d).1 = .ok () ∧
      d.tree.rename source target = .ok (storage.rename source target d).2.tree) ∨
    ∃ e, (storage.rename source target d).1 = .error e ∧
      (storage.rename source target d).2.tree = d.tree := by
  change ((renameWith d.mishap d.tree source target).1 = _ ∧
      _ = Except.ok (renameWith d.mishap d.tree source target).2) ∨
    ∃ e, (renameWith d.mishap d.tree source target).1 = _ ∧
      (renameWith d.mishap d.tree source target).2 = _
  have hk := keep_cases d.tree (d.tree.rename source target)
  rcases d.mishap with _ | e | ⟨text', hg⟩ | ⟨e, left⟩
  · exact hk
  · exact .inr ⟨e, rfl, rfl⟩
  · exact hk
  · exact .inr ⟨e, rfl, rfl⟩

end Disk

end AdmissionForecast
