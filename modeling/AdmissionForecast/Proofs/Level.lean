import AdmissionForecast.Level
import Mathlib.Data.List.Forall2
import Mathlib.Data.List.Induction
import Mathlib.Order.Bounds.Defs
import Mathlib.Tactic.Common

/-! # Names and strictness of levels

A text is the name of a level exactly, or spells it in any case of its letters. The strictest of
some levels is the greatest one, so it depends only on which levels there are.
-/

namespace AdmissionForecast.Level

variable {k l : Level} {s : String} {ls ls' : List Level}

/-- The text is exactly the name of a level. -/
def IsName (s : String) : Prop := ∃ l : Level, s = l.name

theorem ofName?_eq_none_iff : ofName? s = none ↔ ¬ IsName s := by
  rw [Option.eq_none_iff_forall_ne_some, IsName, not_exists]
  exact forall_congr' fun l => not_congr ofName?_eq_some_iff

instance : DecidablePred IsName := fun s =>
  decidable_of_iff ((ofName? s).isSome = true) (by
    rw [← not_iff_not, ← ofName?_eq_none_iff, Bool.not_eq_true, Option.isSome_eq_false_iff,
      Option.isNone_iff_eq_none])

/-- The text is the name of the level, with any of its letters in upper case. -/
def SpeltBy (l : Level) (s : String) : Prop :=
  List.Forall₂ (fun letter c => c = letter ∨ c = letter.toUpper) l.name.toList s.toList

theorem isUpper_iff {c : Char} : c.isUpper ↔ 65 ≤ c.toNat ∧ c.toNat ≤ 90 := by
  unfold Char.isUpper
  simp [UInt32.le_iff_toNat_le]

theorem toNat_toLower (c : Char) :
    c.toLower.toNat = if 65 ≤ c.toNat ∧ c.toNat ≤ 90 then c.toNat + 32 else c.toNat := by
  unfold Char.toLower
  simp only [UInt32.le_iff_toNat_le, ge_iff_le]
  split
  · next h =>
    have hupper : 65 ≤ c.toNat ∧ c.toNat ≤ 90 := h
    have hshift : ('a'.val - 'A'.val).toNat = 32 := rfl
    rw [if_pos hupper, ← Char.toNat_val, UInt32.toNat_add, hshift, Char.toNat_val]
    omega
  · next h => exact (if_neg h).symm

theorem toNat_toUpper (c : Char) :
    c.toUpper.toNat = if 97 ≤ c.toNat ∧ c.toNat ≤ 122 then c.toNat - 32 else c.toNat := by
  unfold Char.toUpper
  simp only [UInt32.le_iff_toNat_le]
  split
  · next h =>
    have hlower : 97 ≤ c.toNat ∧ c.toNat ≤ 122 := h
    have hshift : ('A'.val - 'a'.val).toNat = 2 ^ 32 - 32 := rfl
    rw [if_pos hlower, ← Char.toNat_val, UInt32.toNat_add, hshift, Char.toNat_val]
    omega
  · next h => exact (if_neg h).symm

theorem toLower_eq_iff {c letter : Char} (h : ¬ letter.isUpper) :
    c.toLower = letter ↔ c = letter ∨ c = letter.toUpper := by
  rw [isUpper_iff] at h
  simp only [← Char.toNat_inj, toNat_toLower, toNat_toUpper]
  split <;> split <;> omega

theorem not_isUpper_of_mem_name (l : Level) : ∀ letter ∈ l.name.toList, ¬ letter.isUpper := by
  cases l <;> simp [name]

theorem toLower_eq_name_iff : s.toLower = l.name ↔ l.SpeltBy s := by
  -- the letters of a name are all in lower case, which may be added to what relates them
  have hlower := not_isUpper_of_mem_name l
  have hletter (letter c : Char) : ¬ letter.isUpper ∧ letter = c.toLower ↔
      ¬ letter.isUpper ∧ (c = letter ∨ c = letter.toUpper) :=
    and_congr_right fun h => eq_comm.trans (toLower_eq_iff h)
  have hmap : s.toLower.toList = s.toList.map Char.toLower := String.toList_map
  calc s.toLower = l.name
      ↔ List.Forall₂ (fun letter c => letter = c.toLower) l.name.toList s.toList := by
        rw [eq_comm, ← String.toList_inj, hmap, ← List.forall₂_eq_eq_eq,
          List.forall₂_map_right_iff]
    _ ↔ List.Forall₂ (fun letter c => ¬ letter.isUpper ∧ letter = c.toLower) l.name.toList
          s.toList := by
        rw [List.forall₂_and_left, and_iff_right hlower]
    _ ↔ l.SpeltBy s := by
        simp only [hletter]
        rw [List.forall₂_and_left, and_iff_right hlower, SpeltBy]

theorem parseAnyCase_eq_ok_iff : parseAnyCase s = .ok l ↔ l.SpeltBy s := by
  rw [← toLower_eq_name_iff, ← ofName?_eq_some_iff, parseAnyCase, parse]
  cases ofName? s.toLower <;> simp

protected theorem le_refl (l : Level) : l ≤ l := Nat.le_refl l.rank

protected theorem le_trans {j : Level} (hjk : j ≤ k) (hkl : k ≤ l) : j ≤ l := Nat.le_trans hjk hkl

protected theorem le_total (k l : Level) : k ≤ l ∨ l ≤ k := Nat.le_total ..

protected theorem le_antisymm (hkl : k ≤ l) (hlk : l ≤ k) : k = l :=
  rank_injective (Nat.le_antisymm hkl hlk)

theorem strictest_append_singleton (ls : List Level) (l : Level) :
    strictest (ls ++ [l]) = some (match strictest ls with
      | none => l
      | some best => if l ≤ best then best else l) := by
  rw [strictest, List.foldl_append, ← strictest]
  cases strictest ls with
  | none => rfl
  | some best => exact (apply_ite some ..).symm

theorem strictest_eq_none_iff : strictest ls = none ↔ ls = [] := by
  cases ls using List.reverseRecOn with
  | nil => simp [strictest]
  | append_singleton ls l => simp [strictest_append_singleton]

theorem isGreatest_append_singleton {best : Level} (h : IsGreatest {k | k ∈ ls} best) (l : Level) :
    IsGreatest {k | k ∈ ls ++ [l]} (if l ≤ best then best else l) := by
  obtain ⟨hmem, hbound⟩ := h
  split_ifs with hl
  · refine ⟨List.mem_append_left _ hmem, fun k hk => ?_⟩
    rcases List.mem_append.mp hk with hk | hk
    · exact hbound hk
    · exact List.mem_singleton.mp hk ▸ hl
  · have hbest : best ≤ l := (Level.le_total best l).resolve_right hl
    refine ⟨List.mem_append_right _ (List.mem_singleton_self l), fun k hk => ?_⟩
    rcases List.mem_append.mp hk with hk | hk
    · exact Level.le_trans (hbound hk) hbest
    · exact List.mem_singleton.mp hk ▸ Level.le_refl l

theorem isGreatest_of_strictest (h : strictest ls = some l) : IsGreatest {k | k ∈ ls} l := by
  induction ls using List.reverseRecOn generalizing l with
  | nil => cases h
  | append_singleton ls k ih =>
    rw [strictest_append_singleton] at h
    obtain rfl := Option.some.inj h
    cases hs : strictest ls with
    | none =>
      obtain rfl := strictest_eq_none_iff.mp hs
      exact ⟨List.mem_singleton_self k, fun j hj => List.mem_singleton.mp hj ▸ Level.le_refl k⟩
    | some best => exact isGreatest_append_singleton (ih hs) k

theorem exists_strictest_of_mem (h : k ∈ ls) : ∃ l, strictest ls = some l ∧ k ≤ l := by
  have hsome : strictest ls ≠ none := mt strictest_eq_none_iff.mp (List.ne_nil_of_mem h)
  obtain ⟨l, hl⟩ := Option.ne_none_iff_exists'.mp hsome
  exact ⟨l, hl, (isGreatest_of_strictest hl).2 h⟩

theorem strictest_eq_some_iff : strictest ls = some l ↔ IsGreatest {k | k ∈ ls} l := by
  refine ⟨isGreatest_of_strictest, fun h => ?_⟩
  obtain ⟨best, hbest, hle⟩ := exists_strictest_of_mem h.1
  rw [hbest, Level.le_antisymm hle (h.2 (isGreatest_of_strictest hbest).1)]

theorem strictest_eq_of_subset (hsub : ls' ⊆ ls) (h : ∀ k ∈ ls, ∃ l ∈ ls', k ≤ l) :
    strictest ls = strictest ls' := by
  refine Option.ext fun l => ?_
  rw [strictest_eq_some_iff, strictest_eq_some_iff]
  constructor
  · rintro ⟨hmem, hbound⟩
    obtain ⟨k, hk, hle⟩ := h l hmem
    obtain rfl : l = k := Level.le_antisymm hle (hbound (hsub hk))
    exact ⟨hk, fun j hj => hbound (hsub hj)⟩
  · rintro ⟨hmem, hbound⟩
    refine ⟨hsub hmem, fun j hj => ?_⟩
    obtain ⟨k, hk, hle⟩ := h j hj
    exact Level.le_trans hle (hbound hk)

theorem strictest_mono (hsub : ls ⊆ ls') (h : strictest ls = some l) :
    ∃ l', strictest ls' = some l' ∧ l ≤ l' :=
  exists_strictest_of_mem (hsub (isGreatest_of_strictest h).1)

theorem strictest_append (ls ls' : List Level) :
    strictest (ls ++ ls') = strictest ((strictest ls).toList ++ (strictest ls').toList) := by
  have hsub (ls : List Level) : (strictest ls).toList ⊆ ls := fun l hl =>
    (isGreatest_of_strictest (Option.mem_toList.mp hl)).1
  have hbound (ls : List Level) {k : Level} (hk : k ∈ ls) : ∃ l ∈ (strictest ls).toList, k ≤ l := by
    obtain ⟨l, hl, hle⟩ := exists_strictest_of_mem hk
    exact ⟨l, Option.mem_toList.mpr hl, hle⟩
  refine strictest_eq_of_subset (fun l hl => ?_) fun k hk => ?_
  · exact List.mem_append.mpr ((List.mem_append.mp hl).imp (hsub ls ·) (hsub ls' ·))
  · rcases List.mem_append.mp hk with hk | hk
    · obtain ⟨l, hl, hle⟩ := hbound ls hk
      exact ⟨l, List.mem_append_left _ hl, hle⟩
    · obtain ⟨l, hl, hle⟩ := hbound ls' hk
      exact ⟨l, List.mem_append_right _ hl, hle⟩

end AdmissionForecast.Level
