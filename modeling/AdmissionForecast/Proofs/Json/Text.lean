import AdmissionForecast.Json.Document
import AdmissionForecast.Json.Print
import Mathlib.Data.List.Basic

/-! # Reading printed JSON

A value of strings, arrays and objects is read back from its indented text. The scan is followed
over one printed part after the other, and the builder over the tokens of each value; both leave
what came before as it is, so that the parts of a value can be put together.
-/

namespace AdmissionForecast.Json

variable {cs cs' : List Char} {ts ts' : List Token} {j : Json} {s : String} {n : Nat}

/-- Values of strings, arrays and objects with at most so many of these inside each other. -/
def IsTextual : Nat → Json → Prop
  | _, .string _ => True
  | n + 1, .array items => ∀ j ∈ items, IsTextual n j
  | n + 1, .object members => ∀ m ∈ members, IsTextual n m.2
  | _, _ => False

/-- The text of complete tokens. -/
def Spells (cs : List Char) (ts : List Token) : Prop :=
  ∀ done, cs.foldlM Scan.step ⟨done, .between⟩ = some ⟨ts.reverse ++ done, .between⟩

namespace Spells

theorem nil : Spells [] [] := fun _ => rfl

theorem append (h : Spells cs ts) (h' : Spells cs' ts') : Spells (cs ++ cs') (ts ++ ts') := by
  intro done
  rw [List.foldlM_append, h done, Option.bind_eq_bind, Option.bind_some, h',
    List.reverse_append, List.append_assoc]

theorem openArray : Spells ['['] [.openArray] := fun _ => rfl

theorem closeArray : Spells [']'] [.closeArray] := fun _ => rfl

theorem openObject : Spells ['\x7b'] [.openObject] := fun _ => rfl

theorem closeObject : Spells ['\x7d'] [.closeObject] := fun _ => rfl

theorem comma : Spells [','] [.comma] := fun _ => rfl

theorem colon : Spells [':', ' '] [.colon] := fun _ => rfl

theorem blank : Spells [' '] [] := fun _ => rfl

theorem lineBreak : Spells ['\n'] [] := fun _ => rfl

theorem blanks (k : Nat) : Spells (List.replicate k ' ') [] := by
  induction k with
  | zero => exact nil
  | succ k ih => exact blank.append ih

theorem newline (depth : Nat) : Spells (newline depth) [] := lineBreak.append (blanks _)

end Spells

def isNamedControl (c : Char) : Bool :=
  c = '\n' || c = '\r' || c = '\t' || c = '\x08' || c = '\x0c'

/-- The piece that a printed character is read as. -/
def pieceOf (c : Char) : Piece :=
  if c.toNat < 0x20 && !isNamedControl c then .unit c.toNat else .char c

/-- A code unit below the surrogates stands for itself, whatever comes after it. -/
theorem textOfPieces?_unit (hn : n < 0xd800) (rest : List Piece) :
    textOfPieces? (.unit n :: rest) = (textOfPieces? rest).map (Char.ofNat n :: ·) := by
  have hnot : ¬ 0xd800 ≤ n := Nat.not_le.mpr hn
  rcases rest with _ | ⟨_ | lo, rest⟩ <;> simp [textOfPieces?, hnot]

theorem textOfPieces?_map_pieceOf (cs : List Char) : textOfPieces? (cs.map pieceOf) = some cs := by
  induction cs with
  | nil => rfl
  | cons c cs ih =>
    rw [List.map_cons, pieceOf]
    by_cases hc : (c.toNat < 0x20 && !isNamedControl c) = true
    · have hlt : c.toNat < 0x20 := by simp_all
      rw [if_pos hc, textOfPieces?_unit (by omega), ih, Char.ofNat_toNat]
      rfl
    · rw [if_neg hc, textOfPieces?, ih]
      rfl

theorem hexValue?_hexDigits4 : ∀ n < 0x20, (hexDigits4 n).map Text.hexValue? =
    [some 0, some 0, some (n / 16), some (n % 16)] := by
  decide

theorem foldlM_hexDigits4 (hn : n < 0x20) (done : List Token) (ps : List Piece) :
    (hexDigits4 n).foldlM Scan.step ⟨done, .unicode ps []⟩ =
      some ⟨done, .inString (.unit n :: ps)⟩ := by
  have h := hexValue?_hexDigits4 n hn
  simp only [hexDigits4, List.map_cons, List.map_nil, List.cons.injEq] at h
  obtain ⟨h₁, h₂, h₃, h₄, -⟩ := h
  have hsum : 16 * (n / 16) + n % 16 = n := Nat.div_add_mod n 16
  simp [hexDigits4, Scan.step, h₁, h₂, h₃, h₄, hsum]

theorem foldlM_escapeChar (c : Char) (done : List Token) (ps : List Piece) :
    (escapeChar c).foldlM Scan.step ⟨done, .inString ps⟩ =
      some ⟨done, .inString (pieceOf c :: ps)⟩ := by
  by_cases hnamed : isNamedControl c = true
  · simp only [isNamedControl, Bool.or_eq_true, decide_eq_true_eq] at hnamed
    rcases hnamed with (((rfl | rfl) | rfl) | rfl) | rfl <;> rfl
  · by_cases hquote : c = '"' ∨ c = '\\'
    · rcases hquote with rfl | rfl <;> rfl
    · obtain ⟨hq, hb⟩ := not_or.mp hquote
      by_cases hc : c.toNat < 0x20
      · have hp : pieceOf c = .unit c.toNat := by simp [pieceOf, hc, hnamed]
        have he : escapeChar c = '\\' :: 'u' :: hexDigits4 c.toNat := by
          simp_all [escapeChar, isNamedControl]
        rw [he, hp]
        exact foldlM_hexDigits4 hc done ps
      · have hp : pieceOf c = .char c := by simp [pieceOf, hc]
        have he : escapeChar c = [c] := by simp_all [escapeChar, isNamedControl]
        simp [he, hp, Scan.step, hq, hb, hc]

theorem foldlM_escapeChars (cs : List Char) (done : List Token) (ps : List Piece) :
    (cs.flatMap escapeChar).foldlM Scan.step ⟨done, .inString ps⟩ =
      some ⟨done, .inString ((cs.map pieceOf).reverse ++ ps)⟩ := by
  induction cs generalizing ps with
  | nil => rfl
  | cons c cs ih =>
    rw [List.flatMap_cons, List.foldlM_append, foldlM_escapeChar, Option.bind_eq_bind,
      Option.bind_some, ih]
    simp

/-- A string with an unpaired surrogate is a token, and no text. -/
theorem Spells.surrogate : Spells "\"\\ud800\"".toList [.string none] := by
  intro done
  simp [Scan.step, Scan.begin, Text.hexValue?, textOfPieces?]

theorem Spells.printString (s : String) : Spells (printString s) [.string (some s)] := by
  intro done
  have hopen : Scan.step ⟨done, .between⟩ '"' = some ⟨done, .inString []⟩ := rfl
  rw [Json.printString, List.cons_append, List.foldlM_cons, hopen, Option.bind_eq_bind,
    Option.bind_some, List.foldlM_append, foldlM_escapeChars, Option.bind_eq_bind,
    Option.bind_some]
  simp [Scan.step, textOfPieces?_map_pieceOf]

namespace Builder

def Expects (phase : Phase) : Prop := phase = .value ∨ phase = .firstItem

/-- Tokens that build a value in any place that is not too deep. -/
def Builds (ts : List Token) (n : Nat) (j : Json) : Prop :=
  ∀ frames depth phase, Expects phase → depth + n ≤ depthLimit →
    ts.foldlM step ⟨frames, depth, phase⟩ = some (place frames depth j)

/-- Tokens that build the items of an open array, commas included. -/
def BuildsItems (ts : List Token) (n : Nat) (items : List Json) : Prop :=
  ∀ parts frames depth phase, Expects phase → depth + n ≤ depthLimit →
    ts.foldlM step ⟨.items parts :: frames, depth, phase⟩ =
      some ⟨.items (items.reverse ++ parts) :: frames, depth, .afterPart⟩

def ExpectsName (phase : Phase) : Prop := phase = .name ∨ phase = .firstName

def BuildsMembers (ts : List Token) (n : Nat) (members : List (String × Json)) : Prop :=
  ∀ parts frames depth phase, ExpectsName phase → depth + n ≤ depthLimit →
    ts.foldlM step ⟨.members parts none :: frames, depth, phase⟩ =
      some ⟨.members ((members.map fun m => (some m.1, m.2)).reverse ++ parts) none :: frames,
        depth, .afterPart⟩

theorem builds_string (s : String) : Builds [.string (some s)] n (.string s) := by
  rintro frames depth _ (rfl | rfl) - <;> rfl

section Items

variable {items : List Json}

theorem BuildsItems.one (h : Builds ts n j) : BuildsItems ts n [j] := by
  intro parts frames depth phase hp hd
  rw [h _ depth phase hp hd]
  rfl

theorem BuildsItems.cons (h : Builds ts n j) (h' : BuildsItems ts' n items) :
    BuildsItems (ts ++ .comma :: ts') n (j :: items) := by
  intro parts frames depth phase hp hd
  rw [List.foldlM_append, h _ depth phase hp hd, List.reverse_cons, List.append_assoc]
  exact h' (j :: parts) frames depth .value (.inl rfl) hd

theorem Builds.array (h : BuildsItems ts n items) :
    Builds (.openArray :: ts ++ [.closeArray]) (n + 1) (.array items) := by
  intro frames depth phase hp hd
  have hopen : step ⟨frames, depth, phase⟩ .openArray =
      some ⟨.items [] :: frames, depth + 1, .firstItem⟩ := by
    rcases hp with rfl | rfl <;> rfl
  have hclose : close (depth + 1) (.items (items.reverse ++ [])) = .array items := by
    simp [close, show depth + 1 ≤ depthLimit by omega]
  rw [List.cons_append, List.foldlM_cons, hopen, Option.bind_eq_bind, Option.bind_some,
    List.foldlM_append, h [] frames (depth + 1) .firstItem (.inr rfl) (by omega), ← hclose]
  rfl

theorem builds_emptyArray : Builds [.openArray, .closeArray] (n + 1) (.array []) := by
  intro frames depth phase hp hd
  have hclose : close (depth + 1) (.items []) = .array [] := by
    simp [close, show depth + 1 ≤ depthLimit by omega]
  rcases hp with rfl | rfl <;> rw [← hclose] <;> rfl

end Items

section Members

variable {members : List (String × Json)} {k : String}

theorem BuildsMembers.one (h : Builds ts n j) (k : String) :
    BuildsMembers (.string (some k) :: .colon :: ts) n [(k, j)] := by
  intro parts frames depth phase hp hd
  have hv := h (.members parts (some k) :: frames) depth .value (.inl rfl) hd
  rcases hp with rfl | rfl <;> exact hv

theorem BuildsMembers.cons (h : Builds ts n j) (k : String) (h' : BuildsMembers ts' n members) :
    BuildsMembers (.string (some k) :: .colon :: ts ++ .comma :: ts') n ((k, j) :: members) := by
  intro parts frames depth phase hp hd
  rw [List.foldlM_append, BuildsMembers.one h k parts frames depth phase hp hd,
    List.map_cons (l := members), List.reverse_cons, List.append_assoc]
  exact h' ((some k, j) :: parts) frames depth .name (.inl rfl) hd

theorem namedMembers?_map_some (members : List (String × Json)) :
    namedMembers? (members.map fun m => (some m.1, m.2)) = some members := by
  induction members with
  | nil => rfl
  | cons m members ih =>
    rw [namedMembers?] at ih
    simp [namedMembers?, List.mapM_cons, ih]

theorem Builds.object (h : BuildsMembers ts n members) :
    Builds (.openObject :: ts ++ [.closeObject]) (n + 1) (.object members) := by
  intro frames depth phase hp hd
  have hopen : step ⟨frames, depth, phase⟩ .openObject =
      some ⟨.members [] none :: frames, depth + 1, .firstName⟩ := by
    rcases hp with rfl | rfl <;> rfl
  have hclose : close (depth + 1)
      (.members ((members.map fun m => (some m.1, m.2)).reverse ++ []) none) = .object members := by
    simp [close, namedMembers?_map_some, show depth + 1 ≤ depthLimit by omega]
  rw [List.cons_append, List.foldlM_cons, hopen, Option.bind_eq_bind, Option.bind_some,
    List.foldlM_append, h [] frames (depth + 1) .firstName (.inr rfl) (by omega), ← hclose]
  rfl

theorem builds_emptyObject : Builds [.openObject, .closeObject] (n + 1) (.object []) := by
  intro frames depth phase hp hd
  have hclose : close (depth + 1) (.members [] none) = .object [] := by
    simp [close, namedMembers?, show depth + 1 ≤ depthLimit by omega]
  rcases hp with rfl | rfl <;> rw [← hclose] <;> rfl

end Members

end Builder

def Denotes (cs : List Char) (n : Nat) (j : Json) : Prop :=
  ∃ ts, Spells cs ts ∧ Builder.Builds ts n j

theorem exists_spells_items {items : List Json} {depth : Nat} (hne : items ≠ [])
    (h : ∀ j ∈ items, Denotes (prettyChars depth j) n j) :
    ∃ ts, Spells (prettyItems depth items) ts ∧ Builder.BuildsItems ts n items := by
  induction items with
  | nil => exact absurd rfl hne
  | cons j items ih =>
    obtain ⟨⟨ts, hs, hb⟩, hrest⟩ := List.forall_mem_cons.mp h
    have hline := (Spells.newline depth).append hs
    cases items with
    | nil => exact ⟨ts, hline, .one hb⟩
    | cons j' items =>
      obtain ⟨ts', hs', hb'⟩ := ih (List.cons_ne_nil _ _) hrest
      exact ⟨_, (hline.append (Spells.comma.append hs') : _), .cons hb hb'⟩

theorem exists_spells_members {members : List (String × Json)} {depth : Nat} (hne : members ≠ [])
    (h : ∀ m ∈ members, Denotes (prettyChars depth m.2) n m.2) :
    ∃ ts, Spells (prettyMembers depth members) ts ∧ Builder.BuildsMembers ts n members := by
  induction members with
  | nil => exact absurd rfl hne
  | cons m members ih =>
    obtain ⟨⟨ts, hs, hb⟩, hrest⟩ := List.forall_mem_cons.mp h
    have hline := ((Spells.newline depth).append (.printString m.1)).append (Spells.colon.append hs)
    cases members with
    | nil => exact ⟨_, hline, .one hb m.1⟩
    | cons m' members =>
      obtain ⟨ts', hs', hb'⟩ := ih (List.cons_ne_nil _ _) hrest
      have hall := hline.append (Spells.comma.append hs')
      exact ⟨_, hall, .cons hb m.1 hb'⟩

/-- By induction on the nesting: the parts of a value are read back, and so is the value. -/
theorem denotes_prettyChars (h : IsTextual n j) (depth : Nat) :
    Denotes (prettyChars depth j) n j := by
  induction n generalizing j depth with
  | zero =>
    cases j with
    | string s => exact ⟨_, .printString s, Builder.builds_string s⟩
    | _ => exact h.elim
  | succ n ih =>
    cases j with
    | string s => exact ⟨_, .printString s, Builder.builds_string s⟩
    | array items =>
      cases items with
      | nil => exact ⟨_, Spells.openArray.append .closeArray, Builder.builds_emptyArray⟩
      | cons j items =>
        obtain ⟨ts, hs, hb⟩ := exists_spells_items (List.cons_ne_nil j items)
          fun j hj => ih (h j hj) (depth + 1)
        have hall := ((Spells.openArray.append hs).append (.newline depth)).append .closeArray
        exact ⟨_, by simpa [prettyChars] using hall, Builder.Builds.array hb⟩
    | object members =>
      cases members with
      | nil => exact ⟨_, Spells.openObject.append .closeObject, Builder.builds_emptyObject⟩
      | cons m members =>
        obtain ⟨ts, hs, hb⟩ := exists_spells_members (List.cons_ne_nil m members)
          fun m hm => ih (h m hm) (depth + 1)
        have hall := ((Spells.openObject.append hs).append (.newline depth)).append .closeObject
        exact ⟨_, by simpa [prettyChars] using hall, Builder.Builds.object hb⟩
    | _ => exact h.elim

theorem Spells.tokens? (h : Spells cs ts) : tokens? cs = some ts := by
  have hscan : cs.foldlM Scan.step Scan.start = some ⟨ts.reverse ++ [], .between⟩ := h []
  rw [Json.tokens?, hscan]
  simp [Scan.settle]

theorem parse?_pretty (h : IsTextual n j) (hn : n ≤ depthLimit) : parse? j.pretty = some j := by
  obtain ⟨ts, hs, hb⟩ := denotes_prettyChars h 0
  have hbuild : ts.foldlM Builder.step Builder.start = some (Builder.place [] 0 j) :=
    hb [] 0 .value (.inl rfl) (by omega)
  rw [parse?, pretty, String.toList_ofList, hs.tokens?, Option.bind_some, ofTokens?, hbuild]
  rfl

end AdmissionForecast.Json
