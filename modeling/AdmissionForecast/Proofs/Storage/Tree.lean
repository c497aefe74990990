import AdmissionForecast.Proofs.Storage.Path

/-! # Places in a file tree

Where a path leads depends on the directories alone, and these stay as they are when files are
written and moved. So what is at a path changes only with the file at its own place.
-/

namespace AdmissionForecast.FileTree

variable {t t' : FileTree} {path : String} {place p q : List String} {e : FileEntry}
  {content : ByteArray}

/-- Every entry lies in a directory. -/
def WellFormed (t : FileTree) : Prop :=
  ∀ place, t.entry? place ≠ none → t.entry? place.dropLast = some .directory

/-- A tree that differs from another in the file at one place only, if at all. -/
structure DiffersAt (t t' : FileTree) (q : List String) : Prop where
  workingDirectory : t'.workingDirectory = t.workingDirectory
  elsewhere : ∀ place ≠ q, t'.entry? place = t.entry? place
  before : t.entry? q ≠ some .directory
  after : t'.entry? q ≠ some .directory

theorem entry?_of_ne_nil (h : place ≠ []) :
    t.entry? place = (t.entries.find? fun e => e.1 = place).map Prod.snd := by
  unfold entry?
  rw [if_neg (by simpa using h)]

theorem find?_others (es : List (List String × FileEntry)) (h : place ≠ q) :
    (es.filter fun e => e.1 ≠ q).find? (fun e => e.1 = place) =
      es.find? fun e => e.1 = place := by
  rw [List.find?_filter]
  congr 1
  funext e
  by_cases he : e.1 = place <;> simp [he, h]

theorem entry?_set (hq : q ≠ []) (e : FileEntry) (place : List String) :
    entry? (t.set q e) place = if place = q then some e else t.entry? place := by
  by_cases hp : place = q
  · subst hp
    simp [entry?_of_ne_nil hq, set]
  · rw [if_neg hp]
    by_cases hnil : place = []
    · subst hnil
      rfl
    · rw [entry?_of_ne_nil hnil, entry?_of_ne_nil hnil, set,
        List.find?_cons_of_neg (by simpa using Ne.symm hp), find?_others _ hp]

theorem entry?_erase (hq : q ≠ []) (place : List String) :
    entry? (t.erase q) place = if place = q then none else t.entry? place := by
  by_cases hp : place = q
  · subst hp
    simp [entry?_of_ne_nil hq, erase, List.find?_filter]
  · rw [if_neg hp]
    by_cases hnil : place = []
    · subst hnil
      rfl
    · rw [entry?_of_ne_nil hnil, entry?_of_ne_nil hnil, erase, find?_others _ hp]

theorem ne_nil_of_not_isDirectory (h : t.entry? q ≠ some .directory) : q ≠ [] := by
  rintro rfl
  exact h rfl

theorem DiffersAt.set (h : t.entry? q ≠ some .directory) (content : ByteArray) :
    DiffersAt t (t.set q (.file content)) q where
  workingDirectory := rfl
  elsewhere place hp := by rw [entry?_set (ne_nil_of_not_isDirectory h), if_neg hp]
  before := h
  after := by
    rw [entry?_set (ne_nil_of_not_isDirectory h), if_pos rfl]
    exact fun hc => nomatch hc

theorem DiffersAt.erase (h : t.entry? q ≠ some .directory) : DiffersAt t (t.erase q) q where
  workingDirectory := rfl
  elsewhere place hp := by rw [entry?_erase (ne_nil_of_not_isDirectory h), if_neg hp]
  before := h
  after := by
    rw [entry?_erase (ne_nil_of_not_isDirectory h), if_pos rfl]
    exact fun hc => nomatch hc

theorem DiffersAt.isDirectory_iff (h : DiffersAt t t' q) (place : List String) :
    t'.entry? place = some .directory ↔ t.entry? place = some .directory := by
  by_cases hp : place = q
  · subst hp
    exact iff_of_false h.after h.before
  · rw [h.elsewhere place hp]

/-- All entries lie in the root. -/
theorem wellFormed_of_flat (h : ∀ e ∈ t.entries, e.1.length ≤ 1) : t.WellFormed := by
  intro place hplace
  by_cases hp : place = []
  · subst hp
    rfl
  · rw [entry?_of_ne_nil hp, ne_eq, Option.map_eq_none_iff, ← ne_eq,
      Option.ne_none_iff_exists'] at hplace
    obtain ⟨e, he⟩ := hplace
    have hkey : e.1 = place := by simpa using List.find?_some he
    have hlength := h e (List.mem_of_find?_eq_some he)
    have hroot : place.dropLast = [] := by
      rw [← List.length_eq_zero_iff, List.length_dropLast, ← hkey]
      omega
    rw [hroot]
    rfl

theorem wellFormed_of_entries_nil (h : t.entries = []) : t.WellFormed :=
  wellFormed_of_flat (by simp [h])

def isAddressable (path : String) : Bool :=
  !path.isEmpty && !path.toList.contains '\x00' && decide (path.utf8ByteSize ≤ maxPathSize)

def start (t : FileTree) (path : String) : List String :=
  if Path.isAbsolute path then [] else t.workingDirectory

/-- Whether what is at a place may be what a path asks for, a directory if it ends in a slash. -/
def admits (t : FileTree) (path : String) (place : List String) : Bool :=
  match t.entry? place with
  | some (.file _) => !Path.endsInSlash path
  | _ => true

/-- The place that the names on a path lead to, whatever is there. -/
def place? (t : FileTree) (path : String) : Option (List String) :=
  if isAddressable path then (t.follow (t.start path) (Path.names path)).toOption else none

/-- What there is at a path. A slash at its end asks for a directory. -/
def at? (t : FileTree) (path : String) : Option FileEntry :=
  match t.locate path with
  | .ok place => t.entry? place
  | .error _ => none

theorem follow_cons (place : List String) (name : String) (rest : List String) :
    t.follow place (name :: rest) = match t.entry? place with
      | none => .error .notFound
      | some (.file _) => .error .notDirectory
      | some .directory =>
        if maxNameSize < name.utf8ByteSize then .error .nameTooLong
        else t.follow (enter place name) rest := rfl

theorem follow_cons_eq_ok_iff {name : String} {rest : List String} :
    t.follow place (name :: rest) = .ok p ↔ t.entry? place = some .directory ∧
      name.utf8ByteSize ≤ maxNameSize ∧ t.follow (enter place name) rest = .ok p := by
  rw [follow_cons]
  cases hp : t.entry? place with
  | none => simp
  | some e =>
    cases e with
    | file content => simp
    | directory =>
      by_cases hn : maxNameSize < name.utf8ByteSize
      · simp [hn, Nat.not_le.mpr hn]
      · simp [hn, Nat.le_of_not_lt hn]

theorem follow_concat_eq_ok {names : List String} {name : String}
    (h : t.follow place (names ++ [name]) = .ok p) :
    ∃ q, t.entry? q = some .directory ∧ p = enter q name := by
  induction names generalizing place with
  | nil =>
    obtain ⟨hd, -, hp⟩ := follow_cons_eq_ok_iff.mp h
    exact ⟨place, hd, (Except.ok.inj hp).symm⟩
  | cons first names ih => exact ih (follow_cons_eq_ok_iff.mp h).2.2

theorem DiffersAt.follow_eq_ok_iff (h : DiffersAt t t' q) {names : List String} :
    t'.follow place names = .ok p ↔ t.follow place names = .ok p := by
  induction names generalizing place with
  | nil => rfl
  | cons name names ih => rw [follow_cons_eq_ok_iff, follow_cons_eq_ok_iff, h.isDirectory_iff, ih]

theorem place?_eq_some_iff : t.place? path = some p ↔
    isAddressable path = true ∧ t.follow (t.start path) (Path.names path) = .ok p := by
  unfold place?
  by_cases ha : isAddressable path = true
  · cases hf : t.follow (t.start path) (Path.names path) <;> simp [ha, Except.toOption]
  · simp [ha]

theorem DiffersAt.place?_eq (h : DiffersAt t t' q) (path : String) :
    t'.place? path = t.place? path := by
  have hs : t'.start path = t.start path := by rw [start, start, h.workingDirectory]
  refine Option.ext fun p => ?_
  rw [place?_eq_some_iff, place?_eq_some_iff, hs, h.follow_eq_ok_iff]

theorem locate_of_not_isAddressable (h : isAddressable path = false) :
    t.locate path ≠ .ok p := by
  unfold locate
  simp only [bind, Except.bind, pure, Except.pure, throw, throwThe, MonadExceptOf.throw]
  split
  · exact fun hc => nomatch hc
  · split
    · exact fun hc => nomatch hc
    · split
      · exact fun hc => nomatch hc
      · simp_all [isAddressable]

theorem locate_of_isAddressable (h : isAddressable path = true) :
    t.locate path = (t.follow (t.start path) (Path.names path)).bind fun place =>
      if t.admits path place then .ok place else .error .notDirectory := by
  simp only [isAddressable, Bool.and_eq_true, Bool.not_eq_true', decide_eq_true_eq] at h
  obtain ⟨⟨hempty, hnul⟩, hsize⟩ := h
  unfold locate
  simp only [bind, pure, Except.pure, throw, throwThe, MonadExceptOf.throw, hempty, hnul,
    Nat.not_lt.mpr hsize, Bool.false_eq_true, if_false]
  refine congrArg (Except.bind _) (funext fun place => ?_)
  unfold admits
  rcases t.entry? place with _ | _ | _ <;> cases Path.endsInSlash path <;> rfl

theorem locate_eq_ok_iff :
    t.locate path = .ok p ↔ t.place? path = some p ∧ t.admits path p = true := by
  rw [place?_eq_some_iff]
  by_cases ha : isAddressable path = true
  · rw [locate_of_isAddressable ha]
    cases hf : t.follow (t.start path) (Path.names path) with
    | error e => simp [Except.bind]
    | ok place =>
      by_cases hp : place = p
      · subst hp
        by_cases hl : t.admits path place = true <;> simp [Except.bind, ha, hl]
      · by_cases hl : t.admits path place = true <;> simp [Except.bind, hl, hp]
  · exact iff_of_false (locate_of_not_isAddressable (by simpa using ha)) fun h => ha h.1.1

theorem at?_eq (t : FileTree) (path : String) : t.at? path =
    (t.place? path).bind fun place => if t.admits path place then t.entry? place else none := by
  unfold at?
  cases hp : t.place? path with
  | none =>
    cases hl : t.locate path with
    | error e => rfl
    | ok p => exact nomatch hp.symm.trans (locate_eq_ok_iff.mp hl).1
  | some p =>
    by_cases ha : t.admits path p = true
    · rw [locate_eq_ok_iff.mpr ⟨hp, ha⟩, Option.bind_some, if_pos ha]
    · cases hl : t.locate path with
      | error e => rw [Option.bind_some, if_neg ha]
      | ok p' =>
        obtain ⟨hp', ha'⟩ := locate_eq_ok_iff.mp hl
        exact absurd (Option.some.inj (hp.symm.trans hp') ▸ ha') ha

theorem DiffersAt.at?_eq (h : DiffersAt t t' q) (hq : t.place? path ≠ some q) :
    t'.at? path = t.at? path := by
  rw [FileTree.at?_eq, FileTree.at?_eq, h.place?_eq]
  cases hp : t.place? path with
  | none => rfl
  | some p =>
    have hne : p ≠ q := fun hc => hq (hc ▸ hp)
    rw [Option.bind_some, Option.bind_some, admits, admits, h.elsewhere p hne]

theorem exists?_eq (t : FileTree) (path : String) : t.exists? path = (t.at? path).isSome := by
  unfold exists? at?
  cases t.locate path <;> rfl

theorem fromUTF8?_eq_some_iff {text : String} :
    String.fromUTF8? content = some text ↔ content = text.toUTF8 := by
  unfold String.fromUTF8?
  constructor
  · intro h
    split at h
    · obtain rfl := Option.some.inj h
      rfl
    · cases h
  · rintro rfl
    exact dif_pos text.isValidUTF8

theorem read_eq_ok_iff {text : String} :
    t.read path = .ok text ↔ t.at? path = some (.file text.toUTF8) := by
  unfold read at?
  cases t.locate path with
  | error e => simp [bind, Except.bind]
  | ok p =>
    rcases hp : t.entry? p with _ | content | _
    · simp [bind, Except.bind, hp, throw, throwThe, MonadExceptOf.throw]
    · simp only [bind, Except.bind, hp, Option.some.injEq, FileEntry.file.injEq,
        ← fromUTF8?_eq_some_iff]
      cases String.fromUTF8? content <;>
        simp [throw, throwThe, MonadExceptOf.throw, pure, Except.pure]
    · simp [bind, Except.bind, hp, throw, throwThe, MonadExceptOf.throw]

theorem toOption_read_congr (h : t'.at? path = t.at? path) :
    (t'.read path).toOption = (t.read path).toOption := by
  have hread (text : String) : t'.read path = .ok text ↔ t.read path = .ok text := by
    rw [read_eq_ok_iff, read_eq_ok_iff, h]
  cases ht : t.read path with
  | ok text => rw [(hread text).mpr ht]
  | error e =>
    cases ht' : t'.read path with
    | ok text => exact nomatch ht.symm.trans ((hread text).mp ht')
    | error e' => rfl

theorem exists_enter_of_place? (hp : t.place? path = some p) {name : String}
    (hn : (Path.names path).getLast? = some name) :
    ∃ q, t.entry? q = some .directory ∧ p = enter q name := by
  obtain ⟨names, hnames⟩ := List.getLast?_eq_some_iff.mp hn
  have hf := (place?_eq_some_iff.mp hp).2
  rw [hnames] at hf
  exact follow_concat_eq_ok hf

theorem isDirectory_enter (hw : t.WellFormed) (hq : t.entry? q = some .directory) {name : String}
    (hn : name = "." ∨ name = "..") : t.entry? (enter q name) = some .directory := by
  rcases hn with rfl | rfl
  · exact hq
  · exact hw q (by rw [hq]; exact Option.some_ne_none _)

theorem isDirectory_of_unnamed (hw : t.WellFormed) (hp : t.place? path = some p)
    (hn : ∀ name ∈ (Path.names path).getLast?, name = "." ∨ name = "..") :
    t.entry? p = some .directory := by
  cases hl : (Path.names path).getLast? with
  | some name =>
    obtain ⟨q, hq, rfl⟩ := exists_enter_of_place? hp hl
    exact isDirectory_enter hw hq (hn name hl)
  | none =>
    obtain ⟨ha, hf⟩ := place?_eq_some_iff.mp hp
    have hnil : Path.names path = [] := List.getLast?_eq_none_iff.mp hl
    have habs : Path.isAbsolute path = true := Path.isAbsolute_of_names_eq_nil hnil
      (by simp_all [isAddressable])
    rw [hnil, start, if_pos habs] at hf
    obtain rfl : [] = p := Except.ok.inj hf
    rfl

/-- The file beside a file that has its name with another extension. -/
theorem place?_ne_of_withExtension (hw : t.WellFormed) (hp : t.place? path = some p)
    (hq : t.place? (Path.withExtension path "json.tmp") = some q)
    (hf : t.entry? q ≠ some .directory) : p ≠ q := by
  rintro rfl
  by_cases hn : ∀ name ∈ (Path.names path).getLast?, name = "." ∨ name = ".."
  · exact hf (isDirectory_of_unnamed hw hp hn)
  · push Not at hn
    obtain ⟨name, hname, hdot, hdots⟩ := hn
    obtain ⟨other, hother, hcases⟩ := Path.getLast?_names_withExtension hname hdot hdots
    obtain ⟨d, hd, hpd⟩ := exists_enter_of_place? hp hname
    obtain ⟨d', hd', hpd'⟩ := exists_enter_of_place? hq hother
    rcases hcases with rfl | ⟨hodot, hne⟩
    · exact hf (hpd' ▸ isDirectory_enter hw hd' (.inr rfl))
    · by_cases hodots : other = ".."
      · exact hf (hpd' ▸ isDirectory_enter hw hd' (.inr hodots))
      · rw [enter, if_neg hdot, if_neg hdots] at hpd
        rw [enter, if_neg hodot, if_neg hodots] at hpd'
        exact hne (by simpa using (List.append_inj' (hpd'.symm.trans hpd) rfl).2)

end AdmissionForecast.FileTree
