import AdmissionForecast.Storage
import Mathlib.Data.List.Basic
import Mathlib.Data.List.Induction
import Mathlib.Data.List.TakeWhile
import Mathlib.Tactic.Common

/-! # Names on a path

The last name on a path can be read off the end of its text. With another extension the path ends
in another name, unless it named no file before.
-/

namespace AdmissionForecast.Path

variable {path : String} {cs name dir slashes : List Char} {n : String}

def segments (cs : List Char) : List (List Char) := (cs.splitOn '/').filter (· ≠ [])

theorem names_eq (path : String) : names path = (segments path.toList).map String.ofList := by
  have he (cs : List Char) : String.ofList cs = "" ↔ cs = [] := by
    rw [← String.toList_inj, String.toList_ofList]
    rfl
  rw [names, segments, List.filter_map]
  congr 1
  refine List.filter_congr fun cs _ => ?_
  simp [he]

theorem segments_append_slash (cs ds : List Char) :
    segments (cs ++ '/' :: ds) = segments cs ++ segments ds := by
  simp [segments, List.splitOn_append_cons_self]

theorem segments_slash (cs : List Char) : segments ('/' :: cs) = segments cs := by
  simpa [segments] using segments_append_slash [] cs

theorem segments_of_not_mem (h : '/' ∉ cs) (hne : cs ≠ []) : segments cs = [cs] := by
  simp [segments, List.splitOn_eq_singleton h, hne]

theorem segments_slashes (h : ∀ c ∈ slashes, c = '/') : segments slashes = [] := by
  induction slashes with
  | nil => rfl
  | cons c slashes ih =>
    obtain ⟨rfl, hrest⟩ := List.forall_mem_cons.mp h
    rw [segments_slash, ih hrest]

theorem getLast?_segments (hn : '/' ∉ name) (hne : name ≠ []) (hs : ∀ c ∈ slashes, c = '/')
    (hd : ∀ c ∈ dir.getLast?, c = '/') :
    (segments (dir ++ name ++ slashes)).getLast? = some name := by
  have hname : segments (name ++ slashes) = [name] := by
    cases slashes with
    | nil => rw [List.append_nil, segments_of_not_mem hn hne]
    | cons c slashes =>
      obtain ⟨rfl, hrest⟩ := List.forall_mem_cons.mp hs
      rw [segments_append_slash, segments_of_not_mem hn hne, segments_slashes hrest,
        List.append_nil]
  cases dir using List.reverseRecOn with
  | nil => rw [List.nil_append, hname]; rfl
  | append_singleton dir c =>
    obtain rfl : c = '/' := hd c (by simp)
    rw [List.append_assoc, List.append_assoc, List.singleton_append, segments_append_slash, hname,
      List.getLast?_concat]

theorem getLast?_names (hn : '/' ∉ name) (hne : name ≠ []) (hs : ∀ c ∈ slashes, c = '/')
    (hd : ∀ c ∈ dir.getLast?, c = '/') (hp : path.toList = dir ++ name ++ slashes) :
    (names path).getLast? = some (String.ofList name) := by
  rw [names_eq, hp, List.getLast?_map, getLast?_segments hn hne hs hd]
  rfl

/-- Every path is a directory, a last name and slashes; without any name it is all slashes. -/
theorem exists_parts (path : String) : ∃ dir name slashes : List Char,
    path.toList = dir ++ name ++ slashes ∧ '/' ∉ name ∧ (∀ c ∈ slashes, c = '/') ∧
      (∀ c ∈ dir.getLast?, c = '/') ∧ (name = [] → dir = []) := by
  let whole := path.toList.reverse
  let reversed := whole.dropWhile (· = '/')
  have hw : whole.takeWhile (· = '/') ++ reversed = whole := List.takeWhile_append_dropWhile
  have hr : reversed.takeWhile (· ≠ '/') ++ reversed.dropWhile (· ≠ '/') = reversed :=
    List.takeWhile_append_dropWhile
  refine ⟨(reversed.dropWhile (· ≠ '/')).reverse, (reversed.takeWhile (· ≠ '/')).reverse,
    (whole.takeWhile (· = '/')).reverse, ?_, fun h => ?_, fun c hc => ?_, fun c hc => ?_,
    fun h => ?_⟩
  · rw [← List.reverse_append, ← List.reverse_append, hr, hw, List.reverse_reverse]
  · simpa using List.mem_takeWhile_imp (List.mem_reverse.mp h)
  · simpa using List.mem_takeWhile_imp (List.mem_reverse.mp hc)
  · rw [List.getLast?_reverse] at hc
    have hd := List.head?_dropWhile_not (fun c => decide (c ≠ '/')) reversed
    rw [hc] at hd
    simpa using hd
  · have hd := List.head?_dropWhile_not (fun c => decide (c = '/')) whole
    cases hcs : reversed with
    | nil => rfl
    | cons c cs =>
      rw [show whole.dropWhile (fun c => decide (c = '/')) = c :: cs from hcs] at hd
      have hc : c ≠ '/' := by simpa using hd
      simp [hcs, hc] at h

theorem isAbsolute_of_names_eq_nil (h : names path = []) (hp : path ≠ "") :
    isAbsolute path = true := by
  obtain ⟨dir, name, slashes, htext, hn, hs, hd, hnil⟩ := exists_parts path
  have hname : name = [] := by
    by_contra hne
    simpa [h] using getLast?_names hn hne hs hd htext
  rw [hname, hnil hname, List.nil_append, List.nil_append] at htext
  rw [isAbsolute, htext]
  cases slashes with
  | nil => exact absurd (String.toList_inj.mp htext) hp
  | cons c slashes => simp [hs c List.mem_cons_self]

theorem dropTrailing_slashes (hs : ∀ c ∈ slashes, c = '/') (cs : List Char) :
    dropTrailing (slashes ++ cs) = dropTrailing cs := by
  induction slashes with
  | nil => rfl
  | cons c slashes ih =>
    obtain ⟨rfl, hrest⟩ := List.forall_mem_cons.mp hs
    exact ih hrest

theorem dropTrailing_eq_self (hn : '/' ∉ name) (hne : name ≠ []) (hp : name ≠ ['.'])
    (dir : List Char) : dropTrailing (name ++ dir) = name ++ dir := by
  match name with
  | [c] =>
    have h₁ : c ≠ '/' := fun h => hn (h ▸ List.mem_cons_self)
    have h₂ : c ≠ '.' := fun h => hp (h ▸ rfl)
    unfold dropTrailing
    split <;> simp_all
  | c :: d :: cs =>
    have h₁ : c ≠ '/' := fun h => hn (h ▸ List.mem_cons_self)
    have h₂ : d ≠ '/' := fun h => hn (h ▸ List.mem_cons_of_mem _ List.mem_cons_self)
    unfold dropTrailing
    split <;> simp_all

theorem not_mem_dropExtension (hn : '/' ∉ name) : '/' ∉ dropExtension name := by
  have hsub : (name.dropWhile (· ≠ '.')).Sublist name := List.dropWhile_sublist _
  unfold dropExtension
  split
  · rename_i stem hstem
    split
    · exact hn
    · exact fun h => hn (hsub.subset (hstem ▸ List.mem_cons_of_mem _ h))
  · exact hn

theorem extended_ne (name : List Char) :
    "json.tmp".toList.reverse ++ '.' :: dropExtension name ≠ name := by
  intro h
  have hd : dropExtension name = "nosj.".toList ++ dropExtension name := by
    conv_lhs => rw [← h]
    simp [dropExtension]
  have hl := congrArg List.length hd
  rw [List.length_append] at hl
  exact absurd hl (by simp)

theorem takeWhile_append_of_head (hn : '/' ∉ name) (hd : ∀ c ∈ dir.head?, c = '/') :
    (name ++ dir).takeWhile (· ≠ '/') = name ∧ (name ++ dir).dropWhile (· ≠ '/') = dir := by
  have hpos : ∀ c ∈ name, decide (c ≠ '/') = true := fun c hc =>
    decide_eq_true fun h => hn (h ▸ hc)
  rw [List.takeWhile_append_of_pos hpos, List.dropWhile_append_of_pos hpos]
  cases dir with
  | nil => simp
  | cons c dir =>
    obtain rfl : c = '/' := hd c rfl
    simp

theorem withExtension_of_parts (hp : path.toList = dir ++ name ++ slashes) (hn : '/' ∉ name)
    (hs : ∀ c ∈ slashes, c = '/') (hd : ∀ c ∈ dir.getLast?, c = '/') (hne : name ≠ [])
    (hdot : name ≠ ['.']) (hdots : name ≠ ['.', '.']) (extension : String) :
    withExtension path extension =
      if dropExtension name.reverse = ['.'] ∧
          name.reverse ++ dir.reverse = path.toList.reverse then
        String.ofList ('.' :: '.' :: dir.reverse).reverse
      else
        String.ofList (dropExtension name.reverse ++ dir.reverse).reverse ++ "." ++ extension := by
  have hrev : '/' ∉ name.reverse := by simpa using hn
  have hdot' : name.reverse ≠ ['.'] := by simpa [List.reverse_eq_iff] using hdot
  have hdots' : name.reverse ≠ ['.', '.'] := by simpa [List.reverse_eq_iff] using hdots
  have hwhole : dropTrailing path.toList.reverse = name.reverse ++ dir.reverse := by
    rw [hp, List.reverse_append, List.reverse_append, dropTrailing_slashes (by simpa using hs),
      dropTrailing_eq_self hrev (by simpa using hne) hdot']
  have hhead : ∀ c ∈ dir.reverse.head?, c = '/' := by simpa using hd
  obtain ⟨htake, hdrop⟩ := takeWhile_append_of_head hrev hhead
  have hfile : (name.reverse.isEmpty || decide (name.reverse = ['.']) ||
      decide (name.reverse = ['.', '.'])) = false := by
    simp [hne, hdot', hdots']
  simp only [withExtension, hwhole, htake, hdrop, hfile, Bool.false_eq_true, if_false,
    Bool.and_eq_true, decide_eq_true_eq]

/-- With another extension a path that names a file ends in a different name, or in two points if
nothing else is left of the name. -/
theorem getLast?_names_withExtension (h : (names path).getLast? = some n) (h₁ : n ≠ ".")
    (h₂ : n ≠ "..") : ∃ m, (names (withExtension path "json.tmp")).getLast? = some m ∧
      (m = ".." ∨ m ≠ "." ∧ m ≠ n) := by
  obtain ⟨dir, name, slashes, hp, hn, hs, hd, hnil⟩ := exists_parts path
  have hne : name ≠ [] := by
    rintro rfl
    rw [names_eq, hp, hnil rfl, List.append_nil, List.nil_append, segments_slashes hs] at h
    cases h
  obtain rfl : String.ofList name = n := by
    rw [getLast?_names hn hne hs hd hp] at h
    exact Option.some.inj h
  have hdot : name ≠ ['.'] := fun hc => h₁ (hc ▸ rfl)
  have hdots : name ≠ ['.', '.'] := fun hc => h₂ (hc ▸ rfl)
  rw [withExtension_of_parts hp hn hs hd hne hdot hdots]
  split
  · have hn' : '/' ∉ ['.', '.'] := by decide
    exact ⟨"..", getLast?_names hn' (by simp) (List.forall_mem_nil _) hd (by simp), .inl rfl⟩
  · let stem := dropExtension name.reverse
    have hstem : '/' ∉ stem.reverse ++ ".json.tmp".toList := by
      simp [stem, not_mem_dropExtension (show '/' ∉ name.reverse by simpa using hn)]
    refine ⟨String.ofList (stem.reverse ++ ".json.tmp".toList), ?_, .inr ⟨?_, ?_⟩⟩
    · exact getLast?_names hstem (by simp) (List.forall_mem_nil _) hd (by simp [stem])
    · intro hc
      simpa using congrArg (fun s => s.toList.length) hc
    · intro hc
      have hl : stem.reverse ++ ".json.tmp".toList = name := by
        simpa using congrArg String.toList hc
      have hr : "json.tmp".toList.reverse ++ '.' :: stem = name.reverse := by
        simpa using congrArg List.reverse hl
      exact extended_ne name.reverse hr

end AdmissionForecast.Path
