import AdmissionForecast.Json.Read
import Mathlib.Data.List.Forall2

/-! # Reading fields

A record is read from the members under the names of its fields. Any other members, and where
the members stand, make no difference to what is read.
-/

namespace AdmissionForecast

theorem mapError_eq_ok_iff {ε ζ α : Type} {x : Except ε α} {f : ε → ζ} {a : α} :
    x.mapError f = .ok a ↔ x = .ok a := by
  cases x <;> simp [Except.mapError]

theorem mapM_eq_ok_iff {ε α β : Type} {f : α → Except ε β} {xs : List α} {ys : List β} :
    xs.mapM f = .ok ys ↔ List.Forall₂ (fun x y => f x = .ok y) xs ys := by
  induction xs generalizing ys with
  | nil => simp [pure, Except.pure, eq_comm]
  | cons x xs ih =>
    rw [List.mapM_cons, List.forall₂_cons_left_iff]
    cases hx : f x with
    | error e => simp [bind, Except.bind]
    | ok y =>
      cases hxs : xs.mapM f with
      | error e =>
        have hno (zs : List β) : ¬ List.Forall₂ (fun x y => f x = .ok y) xs zs := by
          rw [← ih, hxs]
          exact fun h => nomatch h
        simp [bind, Except.bind, hno]
      | ok ys' =>
        have hall (zs : List β) : List.Forall₂ (fun x y => f x = .ok y) xs zs ↔ ys' = zs := by
          rw [← ih, hxs]
          exact ⟨Except.ok.inj, congrArg _⟩
        simp [bind, Except.bind, pure, Except.pure, hall, eq_comm]

theorem exists_of_mem_right {α β : Type} {R : α → β → Prop} {xs : List α} {ys : List β} {y : β}
    (h : List.Forall₂ R xs ys) (hy : y ∈ ys) : ∃ x ∈ xs, R x y := by
  induction h with
  | nil => cases hy
  | @cons x y' xs ys hxy _ ih =>
    rcases List.mem_cons.mp hy with rfl | hy
    · exact ⟨x, List.mem_cons_self, hxy⟩
    · obtain ⟨x', hx', hxy'⟩ := ih hy
      exact ⟨x', List.mem_cons_of_mem _ hx', hxy'⟩

namespace Fields

variable {α β : Type} {a : α} {b : β} {j : Json} {name : String} {r : Reader α}
  {members members' : List (String × Json)}

theorem both_eq_ok_iff {f : Except FieldFailure (α → β)} {x : Except FieldFailure α} :
    both f x = .ok b ↔ ∃ g a, f = .ok g ∧ x = .ok a ∧ g a = b := by
  cases f <;> cases x <;> simp [both]

theorem read_map_eq_ok_iff {g : α → β} {f : Fields α} :
    (g <$> f).read members = .ok b ↔ ∃ a, f.read members = .ok a ∧ g a = b := by
  show both (.ok g) (f.read members) = .ok b ↔ _
  simp [both_eq_ok_iff]

theorem read_seq_eq_ok_iff {f : Fields (α → β)} {x : Fields α} :
    (f <*> x).read members = .ok b ↔
      ∃ g a, f.read members = .ok g ∧ x.read members = .ok a ∧ g a = b :=
  both_eq_ok_iff

def value? (name : String) (members : List (String × Json)) : Option Json :=
  (member? name members).map Prod.snd

theorem value?_eq_find? (name : String) (members : List (String × Json)) :
    value? name members = (members.find? fun m => m.1 = name).map Prod.snd := by
  induction members with
  | nil => rfl
  | cons m members ih =>
    by_cases h : m.1 = name
    · simp [value?, member?, h]
    · rw [List.find?_cons_of_neg (by simpa using h), ← ih]
      simp [value?, member?, h, Function.comp_def]

theorem read_fieldWith_eq_ok_iff {fallback : Option α} :
    (fieldWith fallback name r).read members = .ok a ↔
      (∃ j, value? name members = some j ∧ r j = .ok a) ∨
        value? name members = none ∧ fallback = some a := by
  cases hm : member? name members with
  | none => cases fallback <;> simp [fieldWith, value?, hm]
  | some m => simp [fieldWith, value?, hm, mapError_eq_ok_iff]

/-- The items of a list that may be left out. -/
def items (name : String) (members : List (String × Json)) : List Json :=
  match value? name members with
  | some (.array items) => items
  | _ => []

theorem forall₂_items {xs : List α}
    (h : (withDefault name [] (Reader.list r)).read members = .ok xs) :
    List.Forall₂ (fun item x => r item = .ok x) (items name members) xs := by
  rcases read_fieldWith_eq_ok_iff.mp h with ⟨j, hj, hlist⟩ | ⟨hnone, hd⟩
  · cases j with
    | array _ =>
      rw [items, hj]
      exact mapM_eq_ok_iff.mp hlist
    | _ => cases hlist
  · obtain rfl : [] = xs := Option.some.inj hd
    rw [items, hnone]
    exact .nil

theorem exists_reader_of_read_list {xs : List α} {x : α}
    (h : (withDefault name [] (Reader.list r)).read members = .ok xs) (hx : x ∈ xs) :
    ∃ j, r j = .ok x := by
  obtain ⟨j, -, hj⟩ := exists_of_mem_right (forall₂_items h) hx
  exact ⟨j, hj⟩

/-- Fields that are read by the values under their names alone. -/
def IsLocal (f : Fields α) : Prop :=
  ∀ members members' a, (∀ name ∈ f.names, value? name members = value? name members') →
    f.read members = .ok a → f.read members' = .ok a

theorem IsLocal.fieldWith (fallback : Option α) (name : String) (r : Reader α) :
    (fieldWith fallback name r).IsLocal := by
  intro members members' a h ha
  rw [read_fieldWith_eq_ok_iff] at ha ⊢
  rwa [← h name (List.mem_singleton_self name)]

theorem IsLocal.map {f : Fields α} (hf : f.IsLocal) (g : α → β) : (g <$> f).IsLocal := by
  intro members members' b h hb
  obtain ⟨a, ha, rfl⟩ := read_map_eq_ok_iff.mp hb
  exact read_map_eq_ok_iff.mpr ⟨a, hf _ _ _ h ha, rfl⟩

theorem IsLocal.seq {f : Fields (α → β)} {x : Fields α} (hf : f.IsLocal) (hx : x.IsLocal) :
    (f <*> x).IsLocal := by
  intro members members' b h hb
  have hn := List.forall_mem_append.mp h
  obtain ⟨g, a, hg, ha, rfl⟩ := read_seq_eq_ok_iff.mp hb
  exact read_seq_eq_ok_iff.mpr ⟨g, a, hf _ _ _ hn.1 hg, hx _ _ _ hn.2 ha, rfl⟩

/-- The same members under a name, in the same order. -/
def AgreeOn (names : List String) (members members' : List (String × Json)) : Prop :=
  ∀ name ∈ names, (members.filter fun m => m.1 = name) = members'.filter fun m => m.1 = name

theorem repeats_congr {names : List String} (h : AgreeOn names members members') :
    repeats names members = repeats names members' := by
  rw [Bool.eq_iff_iff, repeats, repeats, List.any_eq_true, List.any_eq_true]
  refine exists_congr fun name => and_congr_right fun hn => ?_
  rw [List.countP_eq_length_filter, List.countP_eq_length_filter, h name hn]

theorem AgreeOn.value?_eq {names : List String} (h : AgreeOn names members members')
    (hn : name ∈ names) : value? name members = value? name members' := by
  rw [value?_eq_find?, value?_eq_find?, ← List.head?_filter, ← List.head?_filter, h name hn]

theorem ofMembers_eq_ok_iff {f : Fields α} :
    f.ofMembers members = .ok a ↔ repeats f.names members = false ∧ f.read members = .ok a := by
  unfold ofMembers
  cases repeats f.names members <;> simp [mapError_eq_ok_iff]

theorem ofItems_eq_ok_iff {f : Fields α} {items : List Json} :
    f.ofItems items = .ok a ↔
      f.read (f.names.zip items) = .ok a ∧ items.length ≤ f.names.length := by
  unfold ofItems
  cases f.read (f.names.zip items) with
  | ok b => by_cases hl : items.length ≤ f.names.length <;> simp [hl]
  | error e => by_cases hl : e.place < items.length <;> simp [hl]

/-- What a document gives for the fields of a record: its members, or its items under the names of
the fields. -/
def given (f : Fields α) : Json → List (String × Json)
  | .object members => members
  | .array items => f.names.zip items
  | _ => []

theorem read_given_of_reader {f : Fields α} (h : f.reader j = .ok a) :
    f.read (f.given j) = .ok a := by
  cases j with
  | object members => exact (ofMembers_eq_ok_iff.mp h).2
  | array items => exact (ofItems_eq_ok_iff.mp h).1
  | _ => cases h

theorem ofMembers_congr {f : Fields α} (hf : f.IsLocal) (h : AgreeOn f.names members members')
    (ha : f.ofMembers members = .ok a) : f.ofMembers members' = .ok a := by
  obtain ⟨hr, ha⟩ := ofMembers_eq_ok_iff.mp ha
  exact ofMembers_eq_ok_iff.mpr ⟨repeats_congr h ▸ hr, hf _ _ _ (fun _ hn => h.value?_eq hn) ha⟩

theorem reader_filter_eq_ok_iff {f : Fields α} (hf : f.IsLocal) (hn : name ∉ f.names) :
    f.reader (.object (members.filter fun m => m.1 ≠ name)) = .ok a ↔
      f.reader (.object members) = .ok a := by
  have h : AgreeOn f.names (members.filter fun m => m.1 ≠ name) members := by
    intro other hother
    have hne : other ≠ name := fun hc => hn (hc ▸ hother)
    rw [List.filter_filter]
    refine List.filter_congr fun m _ => ?_
    by_cases hm : m.1 = other <;> simp [hm, hne]
  exact ⟨ofMembers_congr hf h, ofMembers_congr hf fun name hn => (h name hn).symm⟩

end Fields

namespace Json

variable {α : Type} {r : Reader α} {text : String} {a : α}

theorem parse?_ne_none_of_readText (h : readText r text = .ok a) : parse? text ≠ none := by
  intro hn
  simp [readText, hn] at h

theorem readWhole_eq_ok_iff : readWhole r text = .ok a ↔
    ∃ j, parse? text = some j ∧ j.isReadable = true ∧ r j.normal = .ok a := by
  unfold readWhole
  cases parse? text with
  | none => simp
  | some j => cases hj : j.isReadable <;> simp [hj]

end Json

end AdmissionForecast
