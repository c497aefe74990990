import AdmissionForecast.Proofs.Storage.Tree

/-! # Changes of a file tree

Writing and moving change a file where the directory for it is there already, so that a tree stays
well-formed. What is written beside a file and then moved over it replaces that file in one step.
-/

namespace AdmissionForecast.FileTree

variable {t t' : FileTree} {path source target text : String} {p q : List String}

theorem exists_set_of_write (h : t.write path text = .ok t') :
    ∃ q, t.place? path = some q ∧ t.entry? q ≠ some .directory ∧
      t.entry? q.dropLast = some .directory ∧ t' = t.set q (.file text.toUTF8) := by
  unfold write at h
  simp only [bind, Except.bind, pure, Except.pure, throw, throwThe, MonadExceptOf.throw] at h
  split at h
  · cases h
  rename_i q hl
  split at h
  · cases h
  rename_i hfile
  split at h
  · rename_i hdir
    exact ⟨q, (locate_eq_ok_iff.mp hl).1, hfile, hdir, (Except.ok.inj h).symm⟩
  · cases h
  · cases h

theorem exists_set_of_rename (h : t.rename source target = .ok t') :
    ∃ o p content, t.place? source = some o ∧ t.entry? o = some (.file content) ∧
      t.place? target = some p ∧ t.entry? p ≠ some .directory ∧
      Path.endsInSlash target = false ∧
      (∃ name, (Path.names target).getLast? = some name ∧ name ≠ "." ∧ name ≠ "..") ∧
      t' = (t.erase o).set p (.file content) := by
  unfold rename at h
  simp only [bind, Except.bind, pure, Except.pure, throw, throwThe, MonadExceptOf.throw] at h
  split at h
  · cases h
  rename_i o ho
  split at h
  · cases h
  rename_i p hp
  split at h
  · cases h
  rename_i hname
  split at h
  · rename_i content hc
    split at h
    · cases h
    rename_i hslash
    split at h
    · cases h
    rename_i hfile
    refine ⟨o, p, content, (locate_eq_ok_iff.mp ho).1, hc, (locate_eq_ok_iff.mp hp).1, hfile,
      by simpa using hslash, ?_, (Except.ok.inj h).symm⟩
    cases hn : (Path.names target).getLast? with
    | none => simp [hn] at hname
    | some name => exact ⟨name, rfl, by simpa [hn] using hname⟩
  · cases h
  · cases h

theorem WellFormed.set (hw : t.WellFormed) (hf : t.entry? q ≠ some .directory)
    (hd : t.entry? q.dropLast = some .directory) (content : ByteArray) :
    (t.set q (.file content)).WellFormed := by
  have hs := DiffersAt.set hf content
  intro place hplace
  rw [hs.isDirectory_iff]
  by_cases hq : place = q
  · rw [hq, hd]
  · rw [hs.elsewhere place hq] at hplace
    exact hw place hplace

theorem WellFormed.erase (hw : t.WellFormed) (hf : t.entry? q ≠ some .directory) :
    (t.erase q).WellFormed := by
  have hs := DiffersAt.erase hf
  intro place hplace
  rw [hs.isDirectory_iff]
  by_cases hq : place = q
  · rw [hq, entry?_erase (ne_nil_of_not_isDirectory hf), if_pos rfl] at hplace
    exact absurd rfl hplace
  · rw [hs.elsewhere place hq] at hplace
    exact hw place hplace

theorem WellFormed.write (hw : t.WellFormed) (h : t.write path text = .ok t') :
    t'.WellFormed := by
  obtain ⟨q, -, hf, hd, rfl⟩ := exists_set_of_write h
  exact hw.set hf hd _

theorem WellFormed.rename (hw : t.WellFormed) (h : t.rename source target = .ok t') :
    t'.WellFormed := by
  obtain ⟨o, p, content, -, hc, hp, hf, -, ⟨name, hname, hdot, hdots⟩, rfl⟩ :=
    exists_set_of_rename h
  have ho : t.entry? o ≠ some .directory := by rw [hc]; exact fun hc => nomatch hc
  have he := DiffersAt.erase ho
  refine (hw.erase ho).set (mt (he.isDirectory_iff p).mp hf) ?_ content
  obtain ⟨d, hd, rfl⟩ := exists_enter_of_place? hp hname
  rw [he.isDirectory_iff, enter, if_neg hdot, if_neg hdots, List.dropLast_concat]
  exact hd

/-- A file that is named after another with an extension of its own does not share its place, so
that changes of the one leave the other. -/
theorem at?_eq_of_beside (hw : t.WellFormed)
    (hq : t.place? (Path.withExtension path "json.tmp") = some q) (hd : DiffersAt t t' q) :
    t'.at? path = t.at? path :=
  hd.at?_eq fun hp => place?_ne_of_withExtension hw hp hq hd.before rfl

theorem at?_write_beside (hw : t.WellFormed)
    (h : t.write (Path.withExtension path "json.tmp") text = .ok t') :
    t'.at? path = t.at? path := by
  obtain ⟨q, hq, hf, -, rfl⟩ := exists_set_of_write h
  exact at?_eq_of_beside hw hq (.set hf _)

theorem at?_set_self (hp : t.place? path = some p) (hf : t.entry? p ≠ some .directory)
    (hs : Path.endsInSlash path = false) (content : ByteArray) :
    (t.set p (.file content)).at? path = some (.file content) := by
  have hentry : entry? (t.set p (.file content)) p = some (.file content) := by
    rw [entry?_set (ne_nil_of_not_isDirectory hf), if_pos rfl]
  rw [at?_eq, (DiffersAt.set hf content).place?_eq, hp, Option.bind_some, admits, hentry, hs]
  rfl

/-- What is written to a file and then moved is what the target is afterwards. -/
theorem at?_rename_of_write {t₁ t₂ : FileTree} (h₁ : t.write source text = .ok t₁)
    (h₂ : t₁.rename source target = .ok t₂) : t₂.at? target = some (.file text.toUTF8) := by
  obtain ⟨q, hq, hqf, -, rfl⟩ := exists_set_of_write h₁
  obtain ⟨o, p, content, ho, hc, hp, hpf, hslash, -, rfl⟩ := exists_set_of_rename h₂
  have hs := DiffersAt.set hqf text.toUTF8
  obtain rfl : q = o := Option.some.inj (hq.symm.trans ((hs.place?_eq source).symm.trans ho))
  rw [entry?_set (ne_nil_of_not_isDirectory hqf), if_pos rfl] at hc
  obtain rfl : text.toUTF8 = content := by injection hc with hc; injection hc
  have he := DiffersAt.erase hs.after
  exact at?_set_self ((he.place?_eq target).trans hp) (mt (he.isDirectory_iff p).mp hpf) hslash _

end AdmissionForecast.FileTree
