import AdmissionForecast.Text.Hex
import AdmissionForecast.Text.Quoted
import Mathlib.Tactic.SplitIfs

/-! # Telling quoted texts apart

The form of a character in quotes tells the character and where the form ends, whatever comes after
it. So a quoted text tells the text and where it ends, and a list of quoted texts tells the texts as
soon as what comes after it begins neither with a comma nor with a quote.
-/

namespace AdmissionForecast

namespace Quoted

variable {c : Char} {cs cs' rest rest' : List Char}

def hexNumber (ds : List Char) : Nat :=
  ds.foldl (fun n d => 16 * n + (Text.hexValue? d).getD 0) 0

def named (c : Char) : Char :=
  if c = 'n' then '\n'
  else if c = 'r' then '\r'
  else if c = 't' then '\t'
  else if c = '0' then '\x00'
  else c

/-- Reads what follows a backslash: a code point in braces, or a single letter. -/
def readEscape? : List Char → Option (Char × List Char)
  | [] => none
  | c :: rest =>
    if c = 'u' then
      let digits := (rest.drop 1).takeWhile (· ≠ '\x7d')
      some (Char.ofNat (hexNumber digits), rest.drop (digits.length + 2))
    else some (named c, rest)

def readChar? : List Char → Option (Char × List Char)
  | [] => none
  | c :: rest => if c = '\\' then readEscape? rest else some (c, rest)

theorem mem_toDigits_sixteen {n : Nat} (h : c ∈ Nat.toDigits 16 n) :
    ∃ d < 16, c = d.digitChar := by
  induction n using Nat.strongRecOn with
  | ind n ih =>
    rw [Nat.toDigits_eq_if (by decide)] at h
    split at h
    · rename_i hn
      exact ⟨n, hn, List.mem_singleton.mp h⟩
    · rcases List.mem_append.mp h with h | h
      · exact ih (n / 16) (by omega) h
      · exact ⟨n % 16, Nat.mod_lt _ (by decide), List.mem_singleton.mp h⟩

theorem hexValue?_digitChar : ∀ d < 16, Text.hexValue? d.digitChar = some d := by
  decide

theorem hexNumber_toDigits (n : Nat) : hexNumber (Nat.toDigits 16 n) = n := by
  induction n using Nat.strongRecOn with
  | ind n ih =>
    rw [Nat.toDigits_eq_if (by decide)]
    split
    · rename_i hn
      simp [hexNumber, hexValue?_digitChar n hn]
    · have hrest := ih (n / 16) (by omega)
      rw [hexNumber] at hrest ⊢
      rw [List.foldl_append, hrest, List.foldl_cons, List.foldl_nil,
        hexValue?_digitChar _ (Nat.mod_lt _ (by decide)), Option.getD_some]
      exact Nat.div_add_mod n 16

theorem ne_brace_of_mem_hexCode {d : Char} (h : d ∈ hexCode c) : d ≠ '\x7d' := by
  obtain ⟨n, hn, rfl⟩ := mem_toDigits_sixteen h
  have hall : ∀ n < 16, n.digitChar ≠ '\x7d' := by decide
  exact hall n hn

theorem readEscape?_hexCode (c : Char) (rest : List Char) :
    readEscape? ('u' :: '\x7b' :: (hexCode c ++ '\x7d' :: rest)) = some (c, rest) := by
  have hdigits : (hexCode c ++ '\x7d' :: rest).takeWhile (· ≠ '\x7d') = hexCode c := by
    rw [List.takeWhile_append_of_pos fun d hd => by simpa using ne_brace_of_mem_hexCode hd]
    simp
  have hvalue : Char.ofNat (hexNumber (hexCode c)) = c := by
    rw [hexCode, hexNumber_toDigits, Char.ofNat_toNat]
  simp only [readEscape?, if_true, List.drop_one, List.tail_cons, hdigits, hvalue]
  simp

/-- The form of a character is read back, whatever comes after it. -/
theorem readChar?_escape (c : Char) (rest : List Char) :
    readChar? (escape c ++ rest) = some (c, rest) := by
  unfold escape
  split_ifs with hquote hbackslash hline hreturn htab hzero hvisible
  · subst hquote; rfl
  · subst hbackslash; rfl
  · subst hline; rfl
  · subst hreturn; rfl
  · subst htab; rfl
  · subst hzero; rfl
  · simp [readChar?, hbackslash]
  · simpa [readChar?] using readEscape?_hexCode c rest

theorem escape_ne_quote_cons (c : Char) (rest : List Char) : escape c ≠ '"' :: rest := by
  unfold escape
  split_ifs with hquote <;> simp [hquote]

theorem encode_append_inj (h : encode cs ++ rest = encode cs' ++ rest') :
    cs = cs' ∧ rest = rest' := by
  have hbody : cs.flatMap escape ++ '"' :: rest = cs'.flatMap escape ++ '"' :: rest' := by
    simpa [encode] using h
  clear h
  -- an opening quote cannot be taken for a character, so both texts end at the same place
  have hend (c : Char) (cs rest rest' : List Char) :
      '"' :: rest ≠ (c :: cs).flatMap escape ++ rest' := by
    intro h
    rw [List.flatMap_cons, List.append_assoc] at h
    cases he : escape c with
    | nil => exact absurd (readChar?_escape c []) (by simp [he, readChar?])
    | cons x xs =>
      rw [he, List.cons_append, List.cons.injEq] at h
      exact escape_ne_quote_cons c xs (h.1 ▸ he)
  induction cs generalizing cs' with
  | nil =>
    cases cs' with
    | nil => exact ⟨rfl, (List.cons.inj hbody).2⟩
    | cons c' cs' => exact absurd hbody (hend c' cs' rest _)
  | cons c cs ih =>
    cases cs' with
    | nil => exact absurd hbody.symm (hend c cs rest' _)
    | cons c' cs' =>
      rw [List.flatMap_cons, List.flatMap_cons, List.append_assoc, List.append_assoc] at hbody
      have hread := congrArg readChar? hbody
      rw [readChar?_escape, readChar?_escape, Option.some_inj, Prod.mk.injEq] at hread
      obtain ⟨hcs, hrest⟩ := ih hread.2
      exact ⟨by rw [hread.1, hcs], hrest⟩

end Quoted

variable {rest rest' : String} {names names' : List String}

/-- A text that can follow a list of quoted texts without being taken for a part of it. -/
def EndsList (rest : String) : Prop := ∀ c ∈ rest.toList.head?, c ≠ '"' ∧ c ≠ ','

def Quoted.encodeMore (names : List String) : List Char :=
  names.flatMap fun name => ',' :: ' ' :: encode name.toList

theorem toList_quoteAll_cons (name : String) (names : List String) :
    (quoteAll (name :: names)).toList = Quoted.encode name.toList ++ Quoted.encodeMore names := by
  induction names generalizing name with
  | nil => simp [quoteAll, Quoted.encodeMore]
  | cons next names ih =>
    have hnext : quoteAll (name :: next :: names) =
        quote name ++ ", " ++ quoteAll (next :: names) := String.intercalate_cons_cons
    rw [hnext, String.toList_append, String.toList_append, ih, quote_toList]
    simp [Quoted.encodeMore]

/-- By induction on the first list: a comma says that a further text follows in both. -/
theorem Quoted.encodeMore_append_inj {rest rest' : List Char} (hrest : rest.head? ≠ some ',')
    (hrest' : rest'.head? ≠ some ',')
    (h : encodeMore names ++ rest = encodeMore names' ++ rest') : names = names' ∧ rest = rest' := by
  induction names generalizing names' with
  | nil =>
    cases names' with
    | nil => exact ⟨rfl, h⟩
    | cons name' names' => exact absurd (congrArg List.head? h) hrest
  | cons name names ih =>
    cases names' with
    | nil => exact absurd (congrArg List.head? h).symm hrest'
    | cons name' names' =>
      simp only [encodeMore, List.flatMap_cons, List.cons_append, List.append_assoc,
        List.cons.injEq, true_and] at h
      obtain ⟨hname, hmore⟩ := encode_append_inj h
      obtain ⟨rfl, rfl⟩ := ih hmore
      exact ⟨by rw [String.toList_inj.mp hname], rfl⟩

theorem quoteAll_append_inj (hfirst : EndsList rest) (hlater : EndsList rest')
    (h : quoteAll names ++ rest = quoteAll names' ++ rest') : names = names' ∧ rest = rest' := by
  have hlist := congrArg String.toList h
  rw [String.toList_append, String.toList_append] at hlist
  cases names with
  | nil =>
    cases names' with
    | nil => exact ⟨rfl, String.toList_inj.mp hlist⟩
    | cons name' names' =>
      rw [toList_quoteAll_cons] at hlist
      exact absurd rfl (hfirst '"' (congrArg List.head? hlist)).1
  | cons name names =>
    cases names' with
    | nil =>
      rw [toList_quoteAll_cons] at hlist
      exact absurd rfl (hlater '"' (congrArg List.head? hlist.symm)).1
    | cons name' names' =>
      rw [toList_quoteAll_cons, toList_quoteAll_cons, List.append_assoc, List.append_assoc] at hlist
      obtain ⟨hname, hmore⟩ := Quoted.encode_append_inj hlist
      obtain ⟨rfl, hrest⟩ := Quoted.encodeMore_append_inj
        (fun hc => (hfirst ',' hc).2 rfl) (fun hc => (hlater ',' hc).2 rfl) hmore
      exact ⟨by rw [String.toList_inj.mp hname], String.toList_inj.mp hrest⟩

theorem endsList_empty : EndsList "" := by
  simp [EndsList]

theorem quoteAll_injective : Function.Injective quoteAll := by
  intro names names' h
  exact (quoteAll_append_inj endsList_empty endsList_empty (by rw [h])).1

/-- A name that looks like two names is written as one. -/
example : quoteAll ["a\", \"b"] ≠ quoteAll ["a", "b"] := by
  decide

end AdmissionForecast
