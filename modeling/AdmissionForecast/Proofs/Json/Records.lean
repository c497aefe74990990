import AdmissionForecast.ObjectMeta
import AdmissionForecast.Proofs.Json.Value
import Mathlib.Data.List.Nodup

/-! # Reading written records

A record is written as one slot for each field, which is empty where the member is left out. As
the names of the fields differ, each field finds its own slot again, and a record is read back as
soon as its fields, in order, can be read from their slots.
-/

namespace AdmissionForecast

open Json

namespace Json

variable {α : Type} {name : String} {names : List String} {slot : Option (String × Json)}
  {slots : List (Option (String × Json))}

/-- The slot is empty or holds a member of that name. -/
def IsSlot (name : String) (slot : Option (String × Json)) : Prop := ∀ m ∈ slot, m.1 = name

theorem isSlot_field (name : String) (j : Json) : IsSlot name (field name j) := by
  simp [IsSlot, field]

theorem sublist_names (h : List.Forall₂ IsSlot names slots) :
    ((slots.filterMap id).map Prod.fst).Sublist names := by
  induction h with
  | nil => exact .slnil
  | @cons name slot names slots hslot _ ih =>
    cases slot with
    | none => exact ih.cons name
    | some m =>
      obtain rfl : m.1 = name := hslot m rfl
      exact ih.cons_cons m.1

end Json

namespace Reader

variable {α : Type} {r : Reader α} {write : α → Json}

theorem list_map {xs : List α} (h : ∀ x ∈ xs, r (write x) = .ok x) :
    list r (array (xs.map write)) = .ok xs := by
  show (xs.map write).mapM r = _
  rwa [mapM_eq_ok_iff, List.forall₂_map_left_iff, List.forall₂_same]

theorem map_eq_ok_iff {members : List (String × Json)} {m : StringMap α} :
    map r (object members) = .ok m ↔
      ∃ es, List.Forall₂ (fun member e => member.1 = e.1 ∧ r member.2 = .ok e.2) members es ∧
        StringMap.ofList es = m := by
  have hentry (member : String × Json) (e : String × α) :
      (r member.2).map (member.1, ·) = .ok e ↔ member.1 = e.1 ∧ r member.2 = .ok e.2 := by
    cases r member.2 <;> simp [Except.map, Prod.ext_iff]
  have hentries (es : List (String × α)) :
      members.mapM (fun member => (r member.2).map (member.1, ·)) = .ok es ↔
        List.Forall₂ (fun member e => member.1 = e.1 ∧ r member.2 = .ok e.2) members es := by
    simp only [mapM_eq_ok_iff, hentry]
  simp only [← hentries, map]
  cases members.mapM (fun member => (r member.2).map (member.1, ·)) <;>
    simp [bind, Except.bind, pure, Except.pure]

theorem map_fst_eq_of_forall₂ {members : List (String × Json)} {es : List (String × α)}
    (h : List.Forall₂ (fun member e => member.1 = e.1 ∧ r member.2 = .ok e.2) members es) :
    members.map Prod.fst = es.map Prod.fst := by
  rw [← List.forall₂_eq_eq_eq, List.forall₂_map_left_iff, List.forall₂_map_right_iff]
  exact h.imp fun _ _ he => he.1

theorem map_ofMap {m : StringMap α} (h : ∀ e ∈ m.entries, r (write e.2) = .ok e.2) :
    map r (ofMap write m) = .ok m := by
  refine map_eq_ok_iff.mpr ⟨m.entries, ?_, m.ofList_entries⟩
  rw [List.forall₂_map_left_iff, List.forall₂_same]
  exact fun e he => ⟨rfl, h e he⟩

theorem exists_member_of_map {members : List (String × Json)} {m : StringMap α}
    (h : map r (object members) = .ok m) {e : String × α} (he : e ∈ m.entries) :
    ∃ member ∈ members, member.1 = e.1 ∧ r member.2 = .ok e.2 := by
  obtain ⟨es, hes, rfl⟩ := map_eq_ok_iff.mp h
  exact exists_of_mem_right hes (StringMap.mem_of_mem_ofList he)

theorem optional_of_ne_null {j : Json} {a : α} (hj : j ≠ .null) (h : r j = .ok a) :
    optional r j = .ok (some a) := by
  cases j with
  | null => exact absurd rfl hj
  | _ => simp only [optional, h, Except.map]

theorem int32_toInt (n : Int32) : int32 (.int n.toInt) = .ok n := by
  have hlo : -Int.pow 2 31 ≤ n.toInt := Int32.le_toInt n
  have hhi : n.toInt ≤ Int.pow 2 31 - 1 := Int.le_sub_one_of_lt (Int32.toInt_lt n)
  rw [int32, intIn, if_pos ⟨hlo, hhi⟩]
  exact congrArg Except.ok (Int32.ofInt_toInt n)

theorem int64_toInt (n : Int64) : int64 (.int n.toInt) = .ok n := by
  have hlo : -Int.pow 2 63 ≤ n.toInt := Int64.le_toInt n
  have hhi : n.toInt ≤ Int.pow 2 63 - 1 := Int.le_sub_one_of_lt (Int64.toInt_lt n)
  rw [int64, intIn, if_pos ⟨hlo, hhi⟩]
  exact congrArg Except.ok (Int64.ofInt_toInt n)

theorem uint64_toNat (n : UInt64) : uint64 (.int n.toNat) = .ok n := by
  have hhi : (n.toNat : Int) ≤ Int.pow 2 64 - 1 :=
    Int.le_sub_one_of_lt (Int.ofNat_lt.mpr n.toNat_lt)
  rw [uint64, intIn, if_pos ⟨Int.natCast_nonneg _, hhi⟩]
  exact congrArg Except.ok (UInt64.ofNat_toNat)

end Reader

namespace Fields

variable {α β : Type} {a : α} {name : String} {names : List String} {r : Reader α}
  {members : List (String × Json)} {slot : Option (String × Json)}
  {slots : List (Option (String × Json))}

/-- The members hold what the slot was filled with, under its name. -/
def Holds (members : List (String × Json)) (name : String) (slot : Option (String × Json)) : Prop :=
  value? name members = slot.map Prod.snd

theorem value?_append_of_not_mem {before : List (String × Json)}
    (h : name ∉ before.map Prod.fst) (members : List (String × Json)) :
    value? name (before ++ members) = value? name members := by
  have hnone : before.find? (fun m => m.1 = name) = none :=
    List.find?_eq_none.mpr fun m hm => by
      simpa using fun hname : m.1 = name => h (hname ▸ List.mem_map_of_mem hm)
  rw [value?_eq_find?, value?_eq_find?, List.find?_append, hnone, Option.none_or]

theorem value?_eq_none_of_not_mem (h : name ∉ members.map Prod.fst) :
    value? name members = none := by
  rw [← List.append_nil members, value?_append_of_not_mem h]
  rfl

/-- By induction on the fields, with the members before them: a slot is found as no member before
or after it has its name. -/
theorem holds_append (h : List.Forall₂ IsSlot names slots) (hn : names.Nodup)
    (before : List (String × Json)) (hb : ∀ name ∈ names, name ∉ before.map Prod.fst) :
    List.Forall₂ (Holds (before ++ slots.filterMap id)) names slots := by
  induction h generalizing before with
  | nil => exact .nil
  | @cons name slot names slots hslot hslots ih =>
    obtain ⟨hname, hnames⟩ := List.nodup_cons.mp hn
    obtain ⟨hbname, hbnames⟩ := List.forall_mem_cons.mp hb
    have hrest : name ∉ (slots.filterMap id).map Prod.fst :=
      fun hm => hname ((sublist_names hslots).subset hm)
    cases slot with
    | none =>
      refine .cons ?_ (ih hnames before hbnames)
      exact (value?_append_of_not_mem hbname _).trans (value?_eq_none_of_not_mem hrest)
    | some m =>
      obtain rfl : m.1 = name := hslot m rfl
      refine .cons ?_ ?_
      · refine (value?_append_of_not_mem hbname _).trans ?_
        simp [value?, member?]
      · have hm : ∀ name ∈ names, name ∉ (before ++ [m]).map Prod.fst := by
          intro name hmem hin
          rcases List.mem_append.mp (List.map_append ▸ hin) with hin | hin
          · exact hbnames name hmem hin
          · exact hname (List.mem_singleton.mp hin ▸ hmem)
        simpa using ih hnames _ hm

theorem repeats_of_nodup (h : (members.map Prod.fst).Nodup) (names : List String) :
    repeats names members = false := by
  refine List.any_eq_false.mpr fun name _ => ?_
  have hc := List.nodup_iff_count_le_one.mp h name
  rw [List.count, List.countP_map] at hc
  have hcount : members.countP (fun m => decide (m.1 = name)) ≤ 1 := hc
  simpa using hcount

/-- The fields have the first of the slots, which leaves the rest; and from any members that hold
what is in their slots they are read as `a`. -/
def Takes (f : Fields α) (slots rest : List (Option (String × Json))) (a : α) : Prop :=
  ∃ own, slots = own ++ rest ∧ List.Forall₂ IsSlot f.names own ∧
    ∀ members, (∀ e ∈ f.names.zip own, Holds members e.1 e.2) → f.read members = .ok a

/-- A record is read back if the names of its fields differ and they take all its slots. -/
theorem reader_record {f : Fields α} (hn : f.names.Nodup) (h : f.Takes slots [] a) :
    f.reader (record slots) = .ok a := by
  obtain ⟨own, rfl, hslots, hread⟩ := h
  rw [List.append_nil]
  have hkeys : ((own.filterMap id).map Prod.fst).Nodup := (sublist_names hslots).nodup hn
  refine ofMembers_eq_ok_iff.mpr ⟨repeats_of_nodup hkeys _, hread _ fun e he => ?_⟩
  exact List.forall₂_zip (holds_append hslots hn [] fun _ _ => List.not_mem_nil) he

namespace Takes

variable {rest mid : List (Option (String × Json))} {fallback : Option α} {write : α → Json}

theorem map {f : Fields α} (g : α → β) (h : f.Takes slots rest a) :
    (g <$> f).Takes slots rest (g a) := by
  obtain ⟨own, rfl, hslots, hread⟩ := h
  exact ⟨own, rfl, hslots, fun members hm =>
    read_map_eq_ok_iff.mpr ⟨a, hread members hm, rfl⟩⟩

theorem seq {f : Fields (α → β)} {x : Fields α} {g : α → β} (hf : f.Takes slots mid g)
    (hx : x.Takes mid rest a) : (f <*> x).Takes slots rest (g a) := by
  obtain ⟨own, rfl, hslots, hread⟩ := hf
  obtain ⟨own', rfl, hslots', hread'⟩ := hx
  refine ⟨own ++ own', (List.append_assoc ..).symm, List.rel_append hslots hslots',
    fun members hm => ?_⟩
  have hzip : (f <*> x).names.zip (own ++ own') = f.names.zip own ++ x.names.zip own' :=
    List.zip_append hslots.length_eq
  rw [hzip, List.forall_mem_append] at hm
  exact read_seq_eq_ok_iff.mpr ⟨g, a, hread members hm.1, hread' members hm.2, rfl⟩

theorem of_slot (hs : IsSlot name slot)
    (hr : ∀ members, Holds members name slot → (fieldWith fallback name r).read members = .ok a) :
    (fieldWith fallback name r).Takes (slot :: rest) rest a := by
  refine ⟨[slot], rfl, .cons hs .nil, fun members hm => hr members ?_⟩
  exact hm (name, slot) (List.mem_singleton_self _)

theorem field {j : Json} (hr : r j = .ok a) :
    (fieldWith fallback name r).Takes (Json.field name j :: rest) rest a :=
  of_slot (isSlot_field name j) fun _ hm => read_fieldWith_eq_ok_iff.mpr (.inl ⟨j, hm, hr⟩)

theorem absent : (fieldWith (some a) name r).Takes (none :: rest) rest a :=
  of_slot nofun fun _ hm => read_fieldWith_eq_ok_iff.mpr (.inr ⟨hm, rfl⟩)

theorem field? {o : Option α} (hr : ∀ x ∈ o, Reader.optional r (write x) = .ok (some x)) :
    (optional name r).Takes (Json.field? name (o.map write) :: rest) rest o := by
  cases o with
  | none => exact absent
  | some x => exact field (hr x rfl)

theorem ofOption {o : Option α} (hr : ∀ x ∈ o, Reader.optional r (write x) = .ok (some x)) :
    (optional name r).Takes (Json.field name (.ofOption write o) :: rest) rest o := by
  cases o with
  | none => exact field rfl
  | some x => exact field (hr x rfl)

theorem fieldUnlessEmpty {xs : List α} (hr : ∀ x ∈ xs, r (write x) = .ok x) :
    (withDefault name [] (Reader.list r)).Takes (Json.fieldUnlessEmpty name write xs :: rest) rest
      xs := by
  cases xs with
  | nil => exact absent
  | cons x xs => exact field (Reader.list_map hr)

theorem mapField {m : StringMap String} :
    (withDefault name .empty (Reader.map Reader.string)).Takes
      (ObjectMeta.mapField name m :: rest) rest m := by
  unfold ObjectMeta.mapField
  split
  · rename_i hm
    obtain rfl : m = .empty := StringMap.ext (List.isEmpty_iff.mp hm)
    exact absent
  · exact field (Reader.map_ofMap fun _ _ => rfl)

end Takes

end Fields

end AdmissionForecast
