import AdmissionForecast.Proofs.Json.Edits
import AdmissionForecast.Proofs.Status.Calls

/-! # What a publisher keeps of its file

A publisher reads the document in its file as a record and writes the record again. So the
conditions that it does not own stay in their places and are read as before. Of their members those
keep an equal value that the record knows and that are in the form in which it writes them, and of
the document nothing else is kept.
-/

namespace AdmissionForecast

namespace Json

/-- The members of an object; nothing else has any. -/
def members : Json → List (String × Json)
  | object members => members
  | _ => []

variable {ms : List (String × Json)} {name : String} {j : Json}

/-- If the first value has a member of the name, then so has the second one, with an equal value. -/
def KeepsMember (name : String) (j j' : Json) : Prop :=
  ∀ v, member? j.members name = some v →
    ∃ v', member? j'.members name = some v' ∧ v'.normal = v.normal

theorem keepsMember_iff {j' v : Json} (h : member? j.members name = some v) :
    KeepsMember name j j' ↔ (member? j'.members name).map normal = some v.normal := by
  rw [Option.map_eq_some_iff]
  exact ⟨fun hk => hk v h, fun hk w hw => Option.some.inj (h.symm.trans hw) ▸ hk⟩

theorem exists_member?_of_mem {m : String × Json} (hm : m ∈ ms) :
    ∃ v, member? ms m.1 = some v := by
  rw [← Option.isSome_iff_exists, member?, ← StringMap.mem_keys_iff,
    StringMap.mem_keys_ofList_iff]
  exact List.mem_map_of_mem hm

theorem member?_of_mem (h : Fields.repeats [name] ms = false) (hm : (name, j) ∈ ms) :
    member? ms name = some j := by
  have hlength := length_filter_le_one h
  have hin : (name, j) ∈ ms.filter fun m => m.1 = name :=
    List.mem_filter.mpr ⟨hm, by simp⟩
  rw [← value?_eq_member? h, Fields.value?_eq_find?, ← List.head?_filter]
  generalize (ms.filter fun m => m.1 = name) = named at hlength hin
  rcases named with _ | ⟨m, _ | ⟨m', named⟩⟩
  · cases hin
  · obtain rfl := List.mem_singleton.mp hin
    rfl
  · exact absurd hlength (by simp)

theorem find?_filterMap (slot : String → Option Json) (names : List String) (name : String) :
    ((names.filterMap fun n => (slot n).map (n, ·)).find? fun m => m.1 = name).map Prod.snd =
      if name ∈ names then slot name else none := by
  induction names with
  | nil => rfl
  | cons n names ih =>
    cases hn : slot n with
    | none =>
      rw [List.filterMap_cons_none (by simp [hn]), ih]
      by_cases hname : name = n
      · subst hname
        simp [hn]
      · simp [hname]
    | some j =>
      rw [List.filterMap_cons_some (b := (n, j)) (by simp [hn]), List.find?_cons]
      by_cases hname : n = name
      · subst hname
        simp [hn]
      · simp only [hname, decide_false, ih, List.mem_cons, Ne.symm hname, false_or]

theorem member?_filterMap (slot : String → Option Json) (names : List String) (name : String) :
    member? (names.filterMap fun n => (slot n).map (n, ·)) name =
      if name ∈ names then slot name else none := by
  rw [member?, StringMap.get?_ofList, ← List.filterMap_reverse, find?_filterMap]
  simp

end Json

namespace Fields

variable {α : Type} {a : α} {name : String} {names : List String} {r : Reader α}
  {members : List (String × Json)}

theorem repeats_of_mem (h : repeats names members = false) (hn : name ∈ names) :
    repeats [name] members = false := by
  rw [repeats, List.any_eq_false] at h ⊢
  exact List.forall_mem_singleton.mpr (h name hn)

theorem bind_value?_of_read {β : Type} {fallback : Option α} {f : Json → Option β} {o : Option β}
    (h : (fieldWith fallback name r).read members = .ok a) (hf : ∀ j, r j = .ok a → f j = o)
    (hd : fallback = some a → o = none) : (value? name members).bind f = o := by
  rcases read_fieldWith_eq_ok_iff.mp h with ⟨j, hj, hr⟩ | ⟨hnone, ha⟩
  · rw [hj, Option.bind_some, hf j hr]
  · rw [hnone, Option.bind_none, hd ha]

end Fields

namespace StatusCondition

open Fields

variable {c : StatusCondition} {j : Json} {m : String × Json} {name : String}

/-- How the value of a member is written again: a status as its name, a time in UTC, and `null` not
at all. -/
def restatedValue? (name : String) : Json → Option Json
  | .null => none
  | .object [(s, .null)] => if name = "status" then some (.string s) else none
  | .string s =>
    if name = "lastTransitionTime" then (Timestamp.parse? s).map fun t => .string t.text
    else some (.string s)
  | _ => none

/-- The document of a condition as it is written again. -/
def restated (j : Json) : Json :=
  .object (fields.names.filterMap fun name =>
    ((value? name (fields.given j)).bind (restatedValue? name)).map (name, ·))

/-- A member that the record knows, with its value as it is written. -/
def IsPlainMember (m : String × Json) : Prop :=
  m.1 ∈ fields.names ∧ restatedValue? m.1 m.2 = some m.2

/-- The condition is none of the eight. -/
def IsForeign (j : Json) : Prop :=
  ∀ c v, value? "type" (fields.given j) ≠ some (.string (Findings.conditionType c v))

theorem names_fields :
    fields.names = ["type", "status", "lastTransitionTime", "reason", "message"] := rfl

theorem restatedValue?_of_string {s : String} (hn : name ≠ "lastTransitionTime")
    (h : Reader.string j = .ok s) : restatedValue? name j = some (.string s) := by
  cases j with
  | string s' =>
    obtain rfl : s' = s := Except.ok.inj h
    exact if_neg hn
  | _ => cases h

theorem restatedValue?_of_optional {o : Option String} (hn : name ≠ "lastTransitionTime")
    (h : Reader.optional Reader.string j = .ok o) : restatedValue? name j = o.map .string := by
  cases j with
  | null =>
    obtain rfl : none = o := Except.ok.inj h
    rfl
  | string s =>
    obtain rfl : some s = o := Except.ok.inj h
    exact if_neg hn
  | _ => cases h

theorem restatedValue?_of_status {s : ConditionStatus} (h : ConditionStatus.reader j = .ok s) :
    restatedValue? "status" j = some s.toJson := by
  have hname {text : String}
      (h : (ConditionStatus.ofName? text).elim (.error .malformed) .ok =
        (.ok s : Except ReadError ConditionStatus)) : text = s.name := by
    unfold ConditionStatus.ofName? at h
    split at h <;> cases h <;> rfl
  unfold ConditionStatus.reader Reader.name at h
  split at h
  · rw [ConditionStatus.toJson, ← hname h]
    rfl
  · rw [ConditionStatus.toJson, ← hname h]
    rfl
  · cases h

theorem restatedValue?_of_time {t : Timestamp} (h : timeReader j = .ok t) :
    restatedValue? "lastTransitionTime" j = some (.string t.text) := by
  cases j with
  | string s =>
    cases hp : Timestamp.parse? s with
    | none => simp [timeReader, Reader.string, Except.bind, hp] at h
    | some t' =>
      obtain rfl : t' = t := by
        simpa [timeReader, Reader.string, Except.bind, hp] using h
      simp [restatedValue?, hp]
  | _ => cases h

/-- A condition that was read is written as what it was read from is written again. -/
theorem toJson_of_reader (h : reader j = .ok c) : c.toJson = restated j := by
  obtain ⟨htype, hstatus, htime, hreason, hmessage⟩ := reads_of_reader h
  replace htype := bind_value?_of_read htype
    (fun _ => restatedValue?_of_string (show "type" ≠ "lastTransitionTime" by decide)) nofun
  replace hstatus := bind_value?_of_read hstatus (fun _ => restatedValue?_of_status) nofun
  replace htime := bind_value?_of_read htime (fun _ => restatedValue?_of_time) nofun
  replace hreason := bind_value?_of_read hreason
    (fun _ => restatedValue?_of_string (show "reason" ≠ "lastTransitionTime" by decide)) nofun
  replace hmessage := bind_value?_of_read hmessage
    (fun _ => restatedValue?_of_optional (show "message" ≠ "lastTransitionTime" by decide))
    (fun hd => by rw [← Option.some.inj hd]; rfl)
  simp only [restated, names_fields, toJson, Json.record, Json.field, Json.field?,
    List.filterMap_cons, htype, hstatus, htime, hreason, hmessage, Option.map_some,
    List.filterMap_nil]
  cases c.message <;> rfl

theorem reader_restated (h : reader j = .ok c) : reader (restated j) = .ok c := by
  rw [← toJson_of_reader h]
  exact reader_toJson (isValid_of_reader h)

theorem value?_type_of_reader (h : reader j = .ok c) :
    value? "type" (fields.given j) = some (.string c.type) := by
  rcases read_fieldWith_eq_ok_iff.mp (reads_of_reader h).1 with ⟨j', hj, hs⟩ | ⟨-, hnone⟩
  · rw [hj]
    cases j' with
    | string s => rw [show s = c.type from Except.ok.inj hs]
    | _ => cases hs
  · cases hnone

theorem text_of_restatedValue? {v : Json} (h : restatedValue? name j = some v) :
    ∃ s, v = .string s ∧
      (name = "lastTransitionTime" → ∃ t : Timestamp, t.IsValid ∧ s = t.text) := by
  unfold restatedValue? at h
  split at h
  · cases h
  · split at h
    · rename_i hstatus
      exact ⟨_, (Option.some.inj h).symm,
        fun htime => absurd (hstatus.symm.trans htime) (by decide)⟩
    · cases h
  · split at h
    · obtain ⟨t, ht, rfl⟩ := Option.map_eq_some_iff.mp h
      exact ⟨_, rfl, fun _ => ⟨t, Timestamp.isValid_of_parse? ht, rfl⟩⟩
    · rename_i hother
      exact ⟨_, (Option.some.inj h).symm, fun htime => absurd htime hother⟩
  · cases h

theorem restatedValue?_again {v : Json} (h : restatedValue? name j = some v) :
    restatedValue? name v = some v := by
  obtain ⟨s, rfl, htext⟩ := text_of_restatedValue? h
  by_cases htime : name = "lastTransitionTime"
  · obtain ⟨t, ht, rfl⟩ := htext htime
    simp [restatedValue?, htime, Timestamp.parse?_text ht]
  · exact if_neg htime

theorem isPlainMember_of_mem_restated (hm : m ∈ (restated j).members) : IsPlainMember m := by
  obtain ⟨name, hname, hslot⟩ := List.mem_filterMap.mp hm
  obtain ⟨v, hv, rfl⟩ := Option.map_eq_some_iff.mp hslot
  obtain ⟨j', -, hj'⟩ := Option.bind_eq_some_iff.mp hv
  exact ⟨hname, restatedValue?_again hj'⟩

/-- What is written again is a text, so it has an equal value only if it is the same. -/
theorem map_normal_restatedValue?_iff :
    (restatedValue? name j).map Json.normal = some j.normal ↔ restatedValue? name j = some j := by
  refine ⟨fun h => ?_, fun h => by rw [h, Option.map_some]⟩
  obtain ⟨v, hv, hnormal⟩ := Option.map_eq_some_iff.mp h
  obtain ⟨s, rfl, -⟩ := text_of_restatedValue? hv
  have hj : j = .string s := by
    cases j with
    | string s' => exact hnormal.symm
    | array items => rw [Json.normal_array] at hnormal; cases hnormal
    | object ms => rw [Json.normal_object] at hnormal; cases hnormal
    | _ => cases hnormal
  rw [hv, hj]

theorem keepsMember_restated_iff (h : reader j = .ok c) (hm : m ∈ j.members) :
    j.KeepsMember m.1 (restated j) ↔ IsPlainMember m := by
  obtain ⟨ms, rfl⟩ : ∃ ms, j = .object ms := by
    cases j with
    | object ms => exact ⟨ms, rfl⟩
    | _ => cases hm
  obtain ⟨hrepeats, -⟩ := ofMembers_eq_ok_iff.mp h
  by_cases hname : m.1 ∈ fields.names
  · have honce := repeats_of_mem hrepeats hname
    have hvalue : Json.member? (Json.object ms).members m.1 = some m.2 :=
      Json.member?_of_mem honce hm
    have hfound : value? m.1 ms = some m.2 := (Json.value?_eq_member? honce).trans hvalue
    rw [Json.keepsMember_iff hvalue, restated, Json.members, Json.member?_filterMap, if_pos hname,
      given, hfound, Option.bind_some, map_normal_restatedValue?_iff]
    exact (and_iff_right hname).symm
  · obtain ⟨v, hv⟩ : ∃ v, Json.member? (Json.object ms).members m.1 = some v :=
      Json.exists_member?_of_mem hm
    rw [Json.keepsMember_iff hv, restated, Json.members, Json.member?_filterMap, if_neg hname]
    exact iff_of_false nofun fun hplain => hname hplain.1

end StatusCondition

namespace Status

variable {s : Status} {doc item : Json} {i : Nat} {f : Findings} {now : Timestamp}

/-- The conditions in the document of a status. -/
def conditionItems (doc : Json) : List Json := Fields.items "conditions" (fields.given doc)

theorem forall₂_conditionItems (h : reader doc = .ok s) :
    List.Forall₂ (fun item c => StatusCondition.reader item = .ok c) (conditionItems doc)
      s.conditions := by
  obtain ⟨entries, hread, rfl⟩ := Fields.read_map_eq_ok_iff.mp (Fields.read_given_of_reader h)
  exact Fields.forall₂_items hread

theorem reader_conditionItem (h : reader doc = .ok s) (hi : (conditionItems doc)[i]? = some item) :
    ∃ c, s.conditions[i]? = some c ∧ StatusCondition.reader item = .ok c := by
  have hread := forall₂_conditionItems h
  obtain ⟨hlt, rfl⟩ := List.getElem?_eq_some_iff.mp hi
  have hlt' : i < s.conditions.length := hread.length_eq ▸ hlt
  exact ⟨_, List.getElem?_eq_getElem hlt', hread.get hlt hlt'⟩

theorem getElem?_apply_of_isForeign (h : reader doc = .ok s)
    (hi : (conditionItems doc)[i]? = some item) (hf : StatusCondition.IsForeign item) :
    ∃ c, StatusCondition.reader item = .ok c ∧
      (s.apply f.render now).1.conditions[i]? = some c := by
  obtain ⟨c, hc, hread⟩ := reader_conditionItem h hi
  refine ⟨c, hread, getElem?_apply hc fun hmem => ?_⟩
  rw [Findings.map_type_render] at hmem
  obtain ⟨x, -, htype⟩ := List.mem_map.mp hmem
  exact absurd (StatusCondition.value?_type_of_reader hread) (htype ▸ hf x.1 x.2)

end Status

namespace PublisherSession

variable {x : PublisherSession} {set : ConditionSet} {doc : Json} {f : Findings}
  {now : Timestamp} {p : StatusPublisher}

/-- The status file is the text of a document. -/
def HoldsJson (x : PublisherSession) (doc : Json) : Prop :=
  ∃ text : String, x.file? = some (.file text.toUTF8) ∧ Json.parse? text = some doc

theorem holdsJson_call (hx : x.IsProper) (hdoc : x.HoldsJson doc) (hp : x.result set now = .ok p) :
    ∃ start, Status.reader doc = .ok start ∧
      (x.call set now).HoldsJson (start.apply set now).1.toJson := by
  obtain ⟨text, hfile, hparse⟩ := hdoc
  obtain ⟨-, -, -, ⟨e, he, -⟩ | ⟨_, start, -, hstart, -, hfile'⟩⟩ := call_outcome hx.tree set now
  · exact nomatch he.symm.trans hp
  · have hholds : x.disk.tree.Holds x.publisher.path start := by
      simpa only [StatusPublisher.StartsFrom, hx.base] using hstart
    have hread := hholds.parse_eq hfile
    rw [Status.parse, Json.readText, hparse] at hread
    exact ⟨start, hread, _, hfile', Json.parse?_pretty (Status.isTextual_toJson _) (by decide)⟩

theorem getElem?_restated_of_call (hx : x.IsProper) (hdoc : x.HoldsJson doc)
    (hp : x.result f.render now = .ok p) :
    ∃ items : List Json,
      (x.call f.render now).HoldsJson (.object [("conditions", .array items)]) ∧
      ∀ (i : Nat) (item : Json), (Status.conditionItems doc)[i]? = some item →
        StatusCondition.IsForeign item →
        items[i]? = some (StatusCondition.restated item) ∧
          ∃ c, StatusCondition.reader item = .ok c := by
  obtain ⟨start, hread, hholds⟩ := holdsJson_call hx hdoc hp
  refine ⟨_, hholds, fun i item hi hf => ?_⟩
  obtain ⟨c, hc, hkept⟩ := Status.getElem?_apply_of_isForeign hread hi hf
  refine ⟨?_, c, hc⟩
  rw [List.getElem?_map, hkept, Option.map_some, StatusCondition.toJson_of_reader hc]

/-- A call that works leaves a document of conditions alone, with every foreign condition in its
place. It is read there as before, and of its members those have an equal value that the record
knows and that are written as the record writes them. Every member is then of this kind, so
further calls keep them all. -/
theorem foreign_conditions_kept (x : PublisherSession) (hx : x.IsProper) (doc : Json)
    (hdoc : x.HoldsJson doc) (f : Findings) (now : Timestamp) (p : StatusPublisher)
    (hp : x.result f.render now = .ok p) :
    ∃ items : List Json,
      (x.call f.render now).HoldsJson (.object [("conditions", .array items)]) ∧
      ∀ (i : Nat) (item : Json), (Status.conditionItems doc)[i]? = some item →
        StatusCondition.IsForeign item →
        let kept := StatusCondition.restated item
        items[i]? = some kept ∧
        StatusCondition.reader kept = StatusCondition.reader item ∧
        (∀ m ∈ item.members, item.KeepsMember m.1 kept ↔ StatusCondition.IsPlainMember m) ∧
        ∀ m ∈ kept.members, StatusCondition.IsPlainMember m := by
  obtain ⟨items, hholds, hitems⟩ := getElem?_restated_of_call hx hdoc hp
  refine ⟨items, hholds, fun i item hi hf => ?_⟩
  obtain ⟨hkept, c, hc⟩ := hitems i item hi hf
  exact ⟨hkept, by rw [StatusCondition.reader_restated hc, hc],
    fun m => StatusCondition.keepsMember_restated_iff hc,
    fun m => StatusCondition.isPlainMember_of_mem_restated⟩

def handwrittenCondition : Json :=
  .object [("type", .string "Available"), ("status", .object [("True", .null)]),
    ("lastTransitionTime", .string "2026-01-01T01:00:00+01:00"), ("reason", .string "AsExpected"),
    ("message", .null), ("observedGeneration", .int 7)]

def handwritten : Json :=
  .object [("version", .string "4.20"), ("conditions", .array [handwrittenCondition])]

def handwrittenText : String :=
  "\x7b\"version\":\"4.20\",\"conditions\":[\x7b\"type\":\"Available\"," ++
    "\"status\":\x7b\"True\":null\x7d,\"lastTransitionTime\":\"2026-01-01T01:00:00+01:00\"," ++
    "\"reason\":\"AsExpected\",\"message\":null,\"observedGeneration\":7\x7d]\x7d"

set_option maxRecDepth 4000 in
theorem parse?_handwrittenText : Json.parse? handwrittenText = some handwritten := by
  rfl

def overHandwritten : PublisherSession :=
  ⟨{ path := "status.json" }, ⟨⟨[(["status.json"], .file handwrittenText.toUTF8)], []⟩, []⟩⟩

theorem isProper_overHandwritten : overHandwritten.IsProper :=
  ⟨rfl, FileTree.wellFormed_of_flat (by simp [overHandwritten])⟩

theorem holdsJson_overHandwritten : overHandwritten.HoldsJson handwritten :=
  ⟨handwrittenText, rfl, parse?_handwrittenText⟩

theorem isOk_overHandwritten :
    (overHandwritten.result (Findings.render {}) (.ofClock 60 0)).isOk = true := by
  decide +kernel

theorem isForeign_handwrittenCondition : StatusCondition.IsForeign handwrittenCondition := by
  have hne (c : Category) (v : Verdict) : "Available" ≠ Findings.conditionType c v := by
    cases c <;> cases v <;> decide
  intro c v h
  exact hne c v (by injection h with h; injection h)

theorem restated_handwrittenCondition : StatusCondition.restated handwrittenCondition =
    .object [("type", .string "Available"), ("status", .string "True"),
      ("lastTransitionTime", .string "2026-01-01T00:00:00Z"), ("reason", .string "AsExpected")] :=
  rfl

theorem foreign_conditions_kept_handwritten :
    (overHandwritten.IsProper ∧ overHandwritten.HoldsJson handwritten ∧
      (overHandwritten.result (Findings.render {}) (.ofClock 60 0)).isOk = true) ∧
    ∃ items : List Json,
      (overHandwritten.call (Findings.render {}) (.ofClock 60 0)).HoldsJson
        (.object [("conditions", .array items)]) ∧
      items[0]? = some (.object [("type", .string "Available"), ("status", .string "True"),
        ("lastTransitionTime", .string "2026-01-01T00:00:00Z"),
        ("reason", .string "AsExpected")]) := by
  obtain ⟨p, hp⟩ := exists_of_isOk isOk_overHandwritten
  obtain ⟨items, hholds, hitems⟩ := foreign_conditions_kept overHandwritten
    isProper_overHandwritten handwritten holdsJson_overHandwritten {} (.ofClock 60 0) p hp
  refine ⟨⟨isProper_overHandwritten, holdsJson_overHandwritten, isOk_overHandwritten⟩, items,
    hholds, ?_⟩
  rw [← restated_handwrittenCondition]
  exact (hitems 0 handwrittenCondition rfl isForeign_handwrittenCondition).1

/-- The version is dropped, and of the foreign condition only the type and the reason have equal
values. -/
theorem handwritten_members_dropped :
    (overHandwritten.IsProper ∧ overHandwritten.HoldsJson handwritten ∧
      (overHandwritten.result (Findings.render {}) (.ofClock 60 0)).isOk = true ∧
      Status.conditionItems handwritten = [handwrittenCondition] ∧
      StatusCondition.IsForeign handwrittenCondition) ∧
    ∃ doc kept, (overHandwritten.call (Findings.render {}) (.ofClock 60 0)).HoldsJson doc ∧
      ¬ handwritten.KeepsMember "version" doc ∧
      (Status.conditionItems doc)[0]? = some kept ∧
      ∀ name ∈ ["status", "lastTransitionTime", "message", "observedGeneration"],
        ¬ handwrittenCondition.KeepsMember name kept := by
  refine ⟨⟨isProper_overHandwritten, holdsJson_overHandwritten, isOk_overHandwritten, rfl,
    isForeign_handwrittenCondition⟩, ?_⟩
  obtain ⟨p, hp⟩ := exists_of_isOk isOk_overHandwritten
  obtain ⟨items, hholds, hitems⟩ :=
    getElem?_restated_of_call isProper_overHandwritten holdsJson_overHandwritten hp
  obtain ⟨hkept, c, hc⟩ := hitems 0 handwrittenCondition rfl isForeign_handwrittenCondition
  refine ⟨_, _, hholds, fun hversion => ?_, hkept, ?_⟩
  · obtain ⟨v, hv, -⟩ := hversion (.string "4.20") rfl
    cases hv
  · have hdropped (name : String) (v : Json) (hm : (name, v) ∈ handwrittenCondition.members)
        (hplain : ¬ StatusCondition.IsPlainMember (name, v)) :
        ¬ handwrittenCondition.KeepsMember name (StatusCondition.restated handwrittenCondition) :=
      mt (StatusCondition.keepsMember_restated_iff hc hm).mp hplain
    have htime : StatusCondition.restatedValue? "lastTransitionTime"
        (.string "2026-01-01T01:00:00+01:00") = some (.string "2026-01-01T00:00:00Z") := rfl
    simp only [List.forall_mem_cons]
    refine ⟨hdropped _ (.object [("True", .null)]) (by simp [handwrittenCondition, Json.members]) ?_,
      hdropped _ (.string "2026-01-01T01:00:00+01:00")
        (by simp [handwrittenCondition, Json.members]) ?_,
      hdropped _ .null (by simp [handwrittenCondition, Json.members]) ?_,
      hdropped _ (.int 7) (by simp [handwrittenCondition, Json.members]) ?_, nofun⟩
    · exact fun h => nomatch h.2
    · exact fun h => absurd (htime.symm.trans h.2) (by simp)
    · exact fun h => nomatch h.2
    · exact fun h => absurd h.1 (by decide)

end PublisherSession

end AdmissionForecast
