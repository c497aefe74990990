import AdmissionForecast.Proofs.Json.Records
import AdmissionForecast.Proofs.Json.Text
import AdmissionForecast.Proofs.Status.Merge
import AdmissionForecast.Proofs.Time.Text

/-! # The documents of conditions and of a status

Conditions are read back from their documents, and so is a status whose times are points of time.
The statuses that are read from documents are of this kind, and merging at a point of time keeps
them so.
-/

namespace AdmissionForecast

theorem ConditionStatus.reader_toJson (s : ConditionStatus) : reader s.toJson = .ok s := by
  cases s <;> rfl

namespace Condition

open Fields

theorem reader_toJson (c : Condition) : reader c.toJson = .ok c := by
  obtain ⟨type, status, reason, message⟩ := c
  refine reader_record (by decide) ?_
  exact .seq (.seq (.seq (.map _ (.field rfl)) (.field status.reader_toJson)) (.field rfl))
    (.field? fun _ _ => rfl)

end Condition

theorem ConditionSet.reader_toJson (set : ConditionSet) : reader set.toJson = .ok set :=
  Reader.list_map fun c _ => c.reader_toJson

namespace StatusCondition

open Fields

variable {c : StatusCondition} {j : Json}

theorem reader_toJson (h : c.lastTransitionTime.IsValid) : reader c.toJson = .ok c := by
  obtain ⟨type, status, time, reason, message⟩ := c
  have hread : timeReader (.string time.text) = .ok time := by
    simp [timeReader, Reader.string, Except.bind, Timestamp.parse?_text h]
  refine reader_record (by decide) ?_
  exact .seq (.seq (.seq (.seq (.map _ (.field rfl)) (.field status.reader_toJson)) (.field hread))
    (.field rfl)) (.field? fun _ _ => rfl)

theorem isTextual_toJson (c : StatusCondition) : Json.IsTextual 1 c.toJson := by
  obtain ⟨type, status, time, reason, message⟩ := c
  intro m hm
  cases message <;> simp [Json.field, Json.field?] at hm
  · rcases hm with rfl | rfl | rfl | rfl <;> trivial
  · rcases hm with rfl | rfl | rfl | rfl | rfl <;> trivial

theorem isValid_of_timeReader {t : Timestamp} (h : timeReader j = .ok t) : t.IsValid := by
  unfold timeReader at h
  cases hs : Reader.string j with
  | error e =>
    rw [hs] at h
    cases h
  | ok text =>
    rw [hs] at h
    cases hp : Timestamp.parse? text with
    | none => simp [Except.bind, hp] at h
    | some t' =>
      simp only [Except.bind, hp, Option.elim_some, Except.ok.injEq] at h
      exact h ▸ Timestamp.isValid_of_parse? hp

theorem reads_of_reader (h : reader j = .ok c) :
    (required "type" Reader.string).read (fields.given j) = .ok c.type ∧
    (required "status" ConditionStatus.reader).read (fields.given j) = .ok c.status ∧
    (required "lastTransitionTime" timeReader).read (fields.given j) = .ok c.lastTransitionTime ∧
    (required "reason" Reader.string).read (fields.given j) = .ok c.reason ∧
    (Fields.optional "message" Reader.string).read (fields.given j) = .ok c.message := by
  have hread := read_given_of_reader h
  generalize fields.given j = members at hread
  simp only [fields, read_seq_eq_ok_iff, read_map_eq_ok_iff] at hread
  obtain ⟨_, _, ⟨_, _, ⟨_, _, ⟨_, _, ⟨_, htype, rfl⟩, hstatus, rfl⟩, htime, rfl⟩, hreason, rfl⟩,
    hmessage, rfl⟩ := hread
  exact ⟨htype, hstatus, htime, hreason, hmessage⟩

theorem isValid_of_reader (h : reader j = .ok c) : c.lastTransitionTime.IsValid := by
  obtain ⟨-, -, htime, -, -⟩ := reads_of_reader h
  rcases read_fieldWith_eq_ok_iff.mp htime with ⟨j', -, hj⟩ | ⟨-, hn⟩
  · exact isValid_of_timeReader hj
  · cases hn

end StatusCondition

namespace Status

variable {s : Status} {set : ConditionSet} {now : Timestamp} {text : String}

/-- The times of a status are points of time. -/
def IsDated (s : Status) : Prop := ∀ e ∈ s.conditions, e.lastTransitionTime.IsValid

theorem reader_toJson (h : s.IsDated) : reader s.toJson = .ok s := by
  obtain ⟨conditions⟩ := s
  refine Fields.reader_record (by decide) ?_
  exact .map _ (.field (Reader.list_map fun c hc => StatusCondition.reader_toJson (h c hc)))

theorem isTextual_toJson (s : Status) : Json.IsTextual 3 s.toJson := by
  intro m hm
  obtain rfl : m = ("conditions", .array (s.conditions.map StatusCondition.toJson)) := by
    simpa [Json.field] using hm
  intro j hj
  obtain ⟨c, -, rfl⟩ := List.mem_map.mp hj
  exact c.isTextual_toJson

theorem parse_render (h : s.IsDated) : parse s.render = .ok s := by
  rw [parse, Json.readText, render, Json.parse?_pretty (isTextual_toJson s) (by decide)]
  exact reader_toJson h

theorem isDated_of_reader {j : Json} (h : reader j = .ok s) : s.IsDated := by
  obtain ⟨entries, hread, rfl⟩ :=
    Fields.read_map_eq_ok_iff.mp (Fields.read_given_of_reader h)
  intro c hc
  obtain ⟨j', hj'⟩ := Fields.exists_reader_of_read_list hread hc
  exact StatusCondition.isValid_of_reader hj'

theorem isDated_of_parse (h : parse text = .ok s) : s.IsDated := by
  unfold parse Json.readText at h
  split at h
  · exact isDated_of_reader h
  · cases h

theorem IsDated.merge (h : s.IsDated) (c : Condition) (hn : now.IsValid) :
    (s.merge c now).IsDated := by
  obtain ⟨es⟩ := s
  induction es with
  | nil => exact List.forall_mem_singleton.mpr hn
  | cons e es ih =>
    obtain ⟨he, hes⟩ := List.forall_mem_cons.mp h
    by_cases ht : e.type = c.type
    · rw [merge_cons_of_eq ht]
      refine List.forall_mem_cons.mpr ⟨?_, hes⟩
      show (if e.status = c.status then e.lastTransitionTime else now).IsValid
      split
      · exact he
      · exact hn
    · rw [merge_cons_of_ne ht]
      exact List.forall_mem_cons.mpr ⟨he, ih hes⟩

theorem IsDated.apply (h : s.IsDated) (set : ConditionSet) (hn : now.IsValid) :
    (s.apply set now).1.IsDated := by
  induction set generalizing s with
  | nil => exact h
  | cons c set ih =>
    rw [apply_cons]
    exact ih (h.merge c hn.truncate)

end Status

end AdmissionForecast
