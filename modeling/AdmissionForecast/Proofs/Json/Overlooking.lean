import AdmissionForecast.Proofs.Json.Edits
import Mathlib.Data.List.Perm.Basic

/-! # Edits that a reader overlooks

A reader overlooks the edits of a shape if it makes the same of both documents. Readers of values
without parts overlook all edits, as they refuse both documents. A record overlooks the edits of
its own names as soon as each of its fields overlooks those of its value.
-/

namespace AdmissionForecast

open Json (Edit Shape)

variable {α β : Type} {s : Shape} {r : Reader α} {fits : Json → Prop} {j j' : Json}
  {members members' before after : List (String × Json)} {name : String} {names : List String}
  {part : String → Shape}

/-- The reader makes the same of two documents with an edit between them: one value, or both are
refused. -/
def Reader.Overlooks (s : Shape) (r : Reader α) : Prop :=
  ∀ ⦃fits j j'⦄, Edit fits s j j' → ∀ a, r j = .ok a ↔ r j' = .ok a

theorem forall₂_append_cons_congr {ι : Type} {R : ι → α → Prop} {x x' : ι} {before after : List ι}
    (h : ∀ a, R x a ↔ R x' a) {as : List α} :
    List.Forall₂ R (before ++ x :: after) as ↔ List.Forall₂ R (before ++ x' :: after) as := by
  induction before generalizing as with
  | nil => simp only [List.nil_append, List.forall₂_cons_left_iff, h]
  | cons y before ih => simp only [List.cons_append, List.forall₂_cons_left_iff, ih]

namespace Reader

theorem overlooks_of_leaf (h : ∀ j a, r j = .ok a → j.IsLeaf) : Overlooks s r := by
  intro fits j j' he a
  exact iff_of_false (fun ha => he.not_isLeaf.1 (h j a ha)) fun ha => he.not_isLeaf.2 (h j' a ha)

theorem overlooks_string : Overlooks s string :=
  overlooks_of_leaf fun j _ h => by
    cases j with
    | string => exact ⟨nofun, nofun⟩
    | _ => cases h

theorem overlooks_bool : Overlooks s bool :=
  overlooks_of_leaf fun j _ h => by
    cases j with
    | bool => exact ⟨nofun, nofun⟩
    | _ => cases h

theorem Overlooks.map_result {f : α → β} (h : Overlooks s r) :
    Overlooks s fun j => (r j).map f := by
  intro fits j j' he b
  have hr := h he
  cases hj : r j <;> cases hj' : r j' <;> simp_all [Except.map]

theorem overlooks_intIn (lo hi : Int) : Overlooks s (intIn lo hi) :=
  overlooks_of_leaf fun j _ h => by
    cases j with
    | int => exact ⟨nofun, nofun⟩
    | _ => cases h

theorem optional_eq_of_not_isLeaf (h : ¬ j.IsLeaf) : optional r j = (r j).map some := by
  cases j with
  | null => exact absurd ⟨nofun, nofun⟩ h
  | _ => rfl

theorem Overlooks.optional (h : Overlooks s r) : Overlooks s (optional r) := by
  intro fits j j' he
  rw [optional_eq_of_not_isLeaf he.not_isLeaf.1, optional_eq_of_not_isLeaf he.not_isLeaf.2]
  exact h.map_result he

theorem Overlooks.list (h : Overlooks s r) : Overlooks (.list s) (list r) := by
  intro fits j j' he as
  cases he with
  | permute => exact iff_of_false nofun nofun
  | member => exact iff_of_false nofun nofun
  | item he =>
    show List.mapM r _ = _ ↔ List.mapM r _ = _
    rw [mapM_eq_ok_iff, mapM_eq_ok_iff]
    exact forall₂_append_cons_congr (h he)

theorem map_perm {m : StringMap α} (hn : (members.map Prod.fst).Nodup)
    (hp : members.Perm members') (h : map r (.object members) = .ok m) :
    map r (.object members') = .ok m := by
  obtain ⟨es, hes, rfl⟩ := map_eq_ok_iff.mp h
  obtain ⟨es', hes', hperm⟩ := List.perm_comp_forall₂ hp.symm hes
  have hkeys : (es.map Prod.fst).Nodup := map_fst_eq_of_forall₂ hes ▸ hn
  exact map_eq_ok_iff.mpr ⟨es', hes', (StringMap.ofList_perm hkeys hperm.symm).symm⟩

theorem Overlooks.map (h : Overlooks .value r) : Overlooks .value (map r) := by
  intro fits j j' he m
  cases he with
  | permute hn hp =>
    exact ⟨map_perm hn hp, map_perm ((hp.map Prod.fst).nodup_iff.mp hn) hp.symm⟩
  | item => exact iff_of_false nofun nofun
  | member he =>
    rw [map_eq_ok_iff, map_eq_ok_iff]
    refine exists_congr fun es => and_congr_left fun _ => forall₂_append_cons_congr fun e => ?_
    rw [h he]

theorem overlooks_value : Overlooks .value value := by
  intro fits j j' he a
  have hreadable := (he.of_value (fun j => j.isReadable = true) .value).isReadable_iff
  rw [value, value, he.normal_eq]
  simp only [hreadable]

end Reader

namespace Fields

/-- What is under a name, before and after an edit: the same, or a value that is edited. -/
def Within (fits : Json → Prop) (s : Shape) (o o' : Option Json) : Prop :=
  o = o' ∨ ∃ j j', o = some j ∧ o' = some j' ∧ Edit fits s j j'

/-- An edit of one member's value, as seen from all names. -/
theorem within_value? (h : Edit fits (part name) j j') (other : String) :
    Within fits (part other) (value? other (before ++ (name, j) :: after))
      (value? other (before ++ (name, j') :: after)) := by
  simp only [value?_eq_find?, List.find?_append]
  cases before.find? fun m => m.1 = other with
  | some m => exact .inl rfl
  | none =>
    by_cases hn : name = other
    · subst hn
      exact .inr ⟨j, j', by simp, by simp, h⟩
    · exact .inl (by simp [hn])

theorem value?_perm (hn : (members.map Prod.fst).Nodup) (h : members.Perm members')
    (name : String) : value? name members = value? name members' := by
  have hn' := (h.map Prod.fst).nodup_iff.mp hn
  rw [Json.value?_eq_member? (repeats_of_nodup hn _), Json.value?_eq_member? (repeats_of_nodup hn' _),
    Json.member?, Json.member?, StringMap.ofList_perm hn h]

theorem agreeOn_append_cons (h : name ∉ names) (before after : List (String × Json)) (j : Json) :
    AgreeOn names (before ++ after) (before ++ (name, j) :: after) := by
  intro other hother
  have hne : name ≠ other := fun hc => h (hc ▸ hother)
  simp [hne]

theorem repeats_append_cons (names : List String) (before after : List (String × Json))
    (name : String) (j j' : Json) : repeats names (before ++ (name, j) :: after) =
      repeats names (before ++ (name, j') :: after) := by
  simp [repeats, List.countP_append, List.countP_cons]

/-- An edit of a record's members leaves an object, where the values under the names of the record
differ by an edit at most. -/
theorem exists_within (h : Edit fits (.record names part) (.object members) j') :
    ∃ members', j' = .object members' ∧ repeats names members = repeats names members' ∧
      ∀ name ∈ names, Within fits (part name) (value? name members) (value? name members') := by
  cases h with
  | permute hn hp =>
    refine ⟨_, rfl, ?_, fun name _ => .inl (value?_perm hn hp name)⟩
    rw [repeats_of_nodup hn, repeats_of_nodup ((hp.map Prod.fst).nodup_iff.mp hn)]
  | @insert _ _ before after _ j hname =>
    have hagree := agreeOn_append_cons hname before after j
    exact ⟨_, rfl, repeats_congr hagree, fun _ hn => .inl (hagree.value?_eq hn)⟩
  | @change _ _ before after _ j j' hname =>
    have hagree : AgreeOn names _ _ := fun name hn =>
      (agreeOn_append_cons hname before after j name hn).symm.trans
        (agreeOn_append_cons hname before after j' name hn)
    exact ⟨_, rfl, repeats_congr hagree, fun _ hn => .inl (hagree.value?_eq hn)⟩
  | member he =>
    exact ⟨_, rfl, repeats_append_cons .., fun name _ => within_value? he name⟩

def Overlooks (part : String → Shape) (f : Fields α) : Prop :=
  ∀ ⦃fits members members'⦄,
    (∀ name ∈ f.names, Within fits (part name) (value? name members) (value? name members')) →
      ∀ a, f.read members = .ok a ↔ f.read members' = .ok a

theorem Overlooks.fieldWith {fallback : Option α} (h : r.Overlooks (part name)) :
    (fieldWith fallback name r).Overlooks part := by
  intro fits members members' hw a
  rw [read_fieldWith_eq_ok_iff, read_fieldWith_eq_ok_iff]
  rcases hw name (List.mem_singleton_self name) with heq | ⟨j, j', hj, hj', he⟩
  · rw [heq]
  · simp [hj, hj', h he a]

theorem Overlooks.map {f : Fields α} (h : f.Overlooks part) (g : α → β) :
    (g <$> f).Overlooks part := by
  intro fits members members' hw b
  simp only [read_map_eq_ok_iff, h hw]

theorem Overlooks.seq {f : Fields (α → β)} {x : Fields α} (hf : f.Overlooks part)
    (hx : x.Overlooks part) : (f <*> x).Overlooks part := by
  intro fits members members' hw b
  obtain ⟨hwf, hwx⟩ := List.forall_mem_append.mp hw
  simp only [read_seq_eq_ok_iff, hf hwf, hx hwx]

theorem zip_append_cons (names : List String) (before after : List Json) :
    (∃ name before' after', names[before.length]? = some name ∧
      ∀ j, names.zip (before ++ j :: after) = before' ++ (name, j) :: after') ∨
    ∀ j, names.zip (before ++ j :: after) = names.zip before := by
  induction before generalizing names with
  | nil =>
    cases names with
    | nil => exact .inr fun _ => rfl
    | cons name names => exact .inl ⟨name, [], names.zip after, rfl, fun _ => rfl⟩
  | cons item before ih =>
    cases names with
    | nil => exact .inr fun _ => rfl
    | cons name names =>
      rcases ih names with ⟨name', before', after', hn, hzip⟩ | hzip
      · exact .inl ⟨name', (name, item) :: before', after', hn, fun j => by simp [hzip]⟩
      · exact .inr fun j => by simp [hzip]

/-- A record overlooks the edits of its own names. -/
theorem Overlooks.reader {f : Fields α} (h : f.Overlooks part) :
    f.reader.Overlooks (.record f.names part) := by
  intro fits j j' he a
  cases j with
  | object members =>
    obtain ⟨members', rfl, hrepeats, hw⟩ := exists_within he
    show f.ofMembers members = _ ↔ f.ofMembers members' = _
    rw [ofMembers_eq_ok_iff, ofMembers_eq_ok_iff, hrepeats, h hw]
  | array items =>
    obtain ⟨before, after, i, i', rfl, rfl, hi⟩ := he.exists_item
    show f.ofItems _ = _ ↔ f.ofItems _ = _
    rw [ofItems_eq_ok_iff, ofItems_eq_ok_iff, List.length_append, List.length_append,
      List.length_cons, List.length_cons]
    refine and_congr_left fun _ => ?_
    rcases zip_append_cons f.names before after with ⟨name, before', after', hn, hzip⟩ | hzip
    · rw [hn] at hi
      rw [hzip, hzip]
      exact h (fun other _ => within_value? hi other) a
    · rw [hzip, hzip]
  | _ => exact absurd ⟨nofun, nofun⟩ he.not_isLeaf.1

end Fields

end AdmissionForecast
