import AdmissionForecast.Time.Timestamp
import Mathlib.Data.List.TakeWhile
import Mathlib.Data.Nat.Digits.Defs

/-! # Reading printed times

The text of a time is read back as that time, in leap seconds and in years of any width as well.
-/

namespace AdmissionForecast

theorem Text.isBlank_of_isDigit {c : Char} (h : c.isDigit = true) : isBlank c = false := by
  have hc : 48 ≤ c.toNat ∧ c.toNat ≤ 57 := by simpa [Char.isDigit, UInt32.le_iff_toNat_le] using h
  simp [isBlank, blankRanges]
  omega

namespace Timestamp

variable {t : Timestamp} {s : String} {ds rest : List Char} {w n : Nat}

theorem natOfDigits_eq (ds : List Char) : natOfDigits ds = Nat.ofDigitChars 10 ds 0 :=
  Nat.ofDigitChars_eq_foldl.symm

theorem isDigit_of_mem_padded {c : Char} (h : c ∈ padded w n) : c.isDigit = true := by
  rcases List.mem_append.mp h with h | h
  · rw [List.eq_of_mem_replicate h]
    rfl
  · exact Nat.isDigit_of_mem_toDigits (by decide) (by decide) h

theorem natOfDigits_padded (w n : Nat) : natOfDigits (padded w n) = n := by
  have hz (k : Nat) : natOfDigits (List.replicate k '0' ++ Nat.toDigits 10 n) =
      natOfDigits (Nat.toDigits 10 n) := by
    induction k with
    | zero => rfl
    | succ k ih => exact ih
  rw [padded, hz, natOfDigits_eq, Nat.ofDigitChars_ten_toDigits]

theorem padded_ne_nil (w n : Nat) : padded w n ≠ [] :=
  List.append_ne_nil_of_right_ne_nil _ Nat.toDigits_ne_nil

theorem length_padded (hw : 0 < w) (hn : n < 10 ^ w) : (padded w n).length = w := by
  have hl : (Nat.toDigits 10 n).length ≤ w := Nat.toDigits_length 10 n w hw hn
  rw [padded, List.length_append, List.length_replicate]
  omega

/-- Digits are read up to the width, or up to a character that is no digit. -/
theorem scanNumber_append (hd : ∀ c ∈ ds, c.isDigit = true) (hne : ds ≠ []) (hw : ds.length ≤ w)
    (hr : ds.length = w ∨ ∀ c ∈ rest.head?, c.isDigit = false) :
    scanNumber w (ds ++ rest) = some (natOfDigits ds, rest) := by
  have hstop : (rest.take (w - ds.length)).takeWhile Char.isDigit = [] := by
    rcases hr with hr | hr
    · rw [hr, Nat.sub_self]
      rfl
    · cases rest with
      | nil => simp
      | cons c rest =>
        cases w - ds.length with
        | zero => rfl
        | succ k => simp [hr c rfl]
  have ht : ((ds ++ rest).take w).takeWhile Char.isDigit = ds := by
    rw [List.take_append, List.take_of_length_le hw, List.takeWhile_append_of_pos hd, hstop,
      List.append_nil]
  simp only [scanNumber, ht, List.isEmpty_iff, if_neg hne, List.drop_left]

theorem scanNumber_padded (hw : 0 < w) (hn : n < 10 ^ w) (rest : List Char) :
    scanNumber w (padded w n ++ rest) = some (n, rest) := by
  rw [scanNumber_append (fun _ => isDigit_of_mem_padded) (padded_ne_nil w n)
    (length_padded hw hn).le (.inl (length_padded hw hn)), natOfDigits_padded]

theorem scanLongNumber_padded (w n : Nat) (hr : ∀ c ∈ rest.head?, c.isDigit = false) :
    scanLongNumber (padded w n ++ rest) = some (n, rest) := by
  rw [scanLongNumber, scanNumber_append (fun _ => isDigit_of_mem_padded) (padded_ne_nil w n)
    (by simp) (.inr hr), natOfDigits_padded]

theorem exists_padded_eq_cons (w n : Nat) : ∃ c cs, padded w n = c :: cs ∧ c.isDigit = true := by
  obtain ⟨c, cs, h⟩ := List.exists_cons_of_ne_nil (padded_ne_nil w n)
  exact ⟨c, cs, h, isDigit_of_mem_padded (h ▸ List.mem_cons_self)⟩

theorem trimStart_padded (w n : Nat) (rest : List Char) :
    Text.trimStart (padded w n ++ rest) = padded w n ++ rest := by
  obtain ⟨c, cs, h, hc⟩ := exists_padded_eq_cons w n
  rw [h, List.cons_append, Text.trimStart_of_not_blank _ (Text.isBlank_of_isDigit hc)]

theorem scanField_padded (hw : 0 < w) (hn : n < 10 ^ w) (rest : List Char) :
    scanField w (padded w n ++ rest) = some (n, rest) := by
  rw [scanField, trimStart_padded, scanNumber_padded hw hn]

theorem scanChar_cons {c : Char} (hc : Text.isBlank c = false) (rest : List Char) :
    scanChar c (c :: rest) = some ((), rest) := by
  simp [scanChar, Text.trimStart_of_not_blank _ hc]

theorem scanYear_yearText (year : Int) (rest : List Char) :
    scanYear (yearText year ++ '-' :: rest) = some (year, '-' :: rest) := by
  have hr : ∀ c ∈ ('-' :: rest).head?, c.isDigit = false := by simp
  unfold yearText
  by_cases hy : 0 ≤ year ∧ year ≤ 9999
  · obtain ⟨n, rfl⟩ := Int.eq_ofNat_of_zero_le hy.1
    obtain ⟨c, cs, h, hc⟩ := exists_padded_eq_cons 4 n
    have hminus : c ≠ '-' := by rintro rfl; cases hc
    have hplus : c ≠ '+' := by rintro rfl; cases hc
    have hscan := scanNumber_padded (w := 4) (n := n) (by decide) (by omega) ('-' :: rest)
    have htrim := trimStart_padded 4 n ('-' :: rest)
    rw [if_pos hy, Int.toNat_natCast]
    rw [h, List.cons_append] at hscan htrim ⊢
    unfold scanYear
    rw [htrim]
    split
    · simp_all
    · simp_all
    · rw [hscan]
      rfl
  · rw [if_neg hy]
    by_cases hneg : year < 0
    · rw [if_pos hneg, List.cons_append, scanYear, Text.trimStart_of_not_blank _ (by rfl)]
      simp only [scanLongNumber_padded 4 year.natAbs hr, Option.map_some]
      congr 2
      omega
    · rw [if_neg hneg, List.cons_append, scanYear, Text.trimStart_of_not_blank _ (by rfl)]
      simp only [scanLongNumber_padded 4 year.natAbs hr, Option.map_some]
      congr 2
      omega

theorem scanFraction_padded (hw : 0 < w) (h9 : w ≤ 9) (hn : n < 10 ^ w) (rest : List Char) :
    scanFraction ('.' :: (padded w n ++ 'Z' :: rest)) = some (n * 10 ^ (9 - w), 'Z' :: rest) := by
  have hl := length_padded hw hn
  have hs : scanNumber 9 (padded w n ++ 'Z' :: rest) = some (n, 'Z' :: rest) := by
    rw [scanNumber_append (fun _ => isDigit_of_mem_padded) (padded_ne_nil w n) (by omega)
      (.inr (by simp)), natOfDigits_padded]
  simp [scanFraction, hs, hl]

theorem scanFraction_fractionText (hn : n < 1000000000) (rest : List Char) :
    scanFraction (fractionText n ++ 'Z' :: rest) = some (n, 'Z' :: rest) := by
  unfold fractionText
  by_cases h0 : n = 0
  · subst h0
    rfl
  · by_cases h3 : n % 1000000 = 0
    · rw [if_neg h0, if_pos h3, List.cons_append,
        scanFraction_padded (by decide) (by decide) (by omega)]
      congr 2
      omega
    · by_cases h6 : n % 1000 = 0
      · rw [if_neg h0, if_neg h3, if_pos h6, List.cons_append,
          scanFraction_padded (by decide) (by decide) (by omega)]
        congr 2
        omega
      · rw [if_neg h0, if_neg h3, if_neg h6, List.cons_append,
          scanFraction_padded (by decide) (by decide) (by omega), Nat.sub_self, pow_zero,
          Nat.mul_one]

theorem scanDay_text (hm : t.day.month < 100) (hd : t.day.day < 100) (rest : List Char) :
    scanDay (yearText t.day.year ++ '-' :: (padded 2 t.day.month ++
      '-' :: (padded 2 t.day.day ++ rest))) = some (t.day, rest) := by
  have hdash : Text.isBlank '-' = false := rfl
  simp only [scanDay, bind, Option.bind, scanYear_yearText, scanChar_cons hdash,
    scanField_padded (by decide : 0 < 2) hm, scanField_padded (by decide : 0 < 2) hd]

theorem daysInMonth_le (year : Int) (month : Nat) : Calendar.daysInMonth year month ≤ 31 := by
  unfold Calendar.daysInMonth
  split
  · split <;> decide
  · split <;> decide

theorem scanLocal_text (h : t.IsValid) :
    scanLocal (t.secondsText ++ fractionText (t.nano % 1000000000) ++ ['Z']) =
      some (t, ['Z']) := by
  obtain ⟨⟨-, -, -, hm, -, hd⟩, hh, hmin, hs, hn⟩ := h
  have hd' : t.day.day < 100 := by
    have := daysInMonth_le t.day.year t.day.month
    omega
  have hcolon : Text.isBlank ':' = false := rfl
  have hw : t.writtenSecond < 100 := by
    unfold writtenSecond
    split at hn <;> omega
  have hf : t.nano % 1000000000 < 1000000000 := Nat.mod_lt _ (by decide)
  have hlayout : t.secondsText ++ fractionText (t.nano % 1000000000) ++ ['Z'] =
      yearText t.day.year ++ '-' :: (padded 2 t.day.month ++ '-' :: (padded 2 t.day.day ++
        'T' :: (padded 2 t.hour ++ ':' :: (padded 2 t.minute ++ ':' :: (padded 2 t.writtenSecond ++
          (fractionText (t.nano % 1000000000) ++ ['Z'])))))) := by
    simp [secondsText]
  have hsep (cs : List Char) : scanSeparator ('T' :: cs) = some ((), cs) := rfl
  rw [hlayout]
  simp only [scanLocal, bind, Option.bind, scanDay_text (by omega) hd', hsep, scanChar_cons hcolon,
    scanField_padded (by decide : 0 < 2) (show t.hour < 10 ^ 2 by omega),
    scanField_padded (by decide : 0 < 2) (show t.minute < 10 ^ 2 by omega),
    scanField_padded (by decide : 0 < 2) hw, scanFraction_fractionText hf]
  -- A leap second is written as the second 60, and nothing else is.
  by_cases hleap : t.nano < 1000000000
  · have hsec : t.writtenSecond = t.second := by
      rw [writtenSecond, Nat.div_eq_of_lt hleap, Nat.add_zero]
    rw [hsec, if_neg (by omega), Nat.mod_eq_of_lt hleap]
  · have hsec : t.second = 59 := by
      by_contra hne
      rw [if_neg hne] at hn
      exact hleap hn
    have hnano : t.nano % 1000000000 + 1000000000 = t.nano := by
      rw [if_pos hsec] at hn
      omega
    have hsixty : t.writtenSecond = 60 := by
      unfold writtenSecond
      omega
    rw [if_pos hsixty, hnano, ← hsec]

theorem ofLocal?_zero (h : t.IsValid) : t.ofLocal? 0 = some t := by
  obtain ⟨-, hh, hm, -⟩ := id h
  have hminutes : ((t.hour : Int) * 60 + t.minute - 0) % 1440 = (t.hour * 60 + t.minute : Nat) := by
    omega
  have hhour : (t.hour * 60 + t.minute) / 60 = t.hour := by omega
  have hminute : (t.hour * 60 + t.minute) % 60 = t.minute := by omega
  simp only [ofLocal?, hminutes, Int.toNat_natCast, hhour, hminute]
  rw [if_neg (show ¬ (t.hour : Int) * 60 + t.minute - 0 < 0 by omega),
    if_neg (show ¬ 1440 ≤ (t.hour : Int) * 60 + t.minute - 0 by omega), if_pos ⟨h, h⟩]

theorem parse?_text (h : t.IsValid) : parse? t.text = some t := by
  have hz : Text.trimStart ['Z'] = ['Z'] := rfl
  simp only [parse?, text, String.toList_ofList, bind, Option.bind, scanLocal_text h, hz]
  exact ofLocal?_zero h

theorem isValid_of_ofLocal? {local' : Timestamp} {minutesAhead : Int}
    (h : local'.ofLocal? minutesAhead = some t) : t.IsValid := by
  dsimp only [ofLocal?] at h
  rw [Option.ite_none_right_eq_some] at h
  exact Option.some.inj h.2 ▸ h.1.2

theorem isValid_of_parse? (h : parse? s = some t) : t.IsValid := by
  simp only [parse?, Option.bind_eq_bind, Option.bind_eq_some_iff,
    Option.ite_none_right_eq_some] at h
  obtain ⟨r, -, offset, -, -, h⟩ := h
  exact isValid_of_ofLocal? h

theorem IsValid.truncate (h : t.IsValid) : t.truncate.IsValid := by
  obtain ⟨hday, hh, hm, hs, -⟩ := h
  refine ⟨hday, hh, hm, hs, ?_⟩
  show 0 < _
  split <;> decide

end Timestamp

end AdmissionForecast
