import AdmissionForecast.Config.Basic
import AdmissionForecast.Proofs.Pod.Document
import AdmissionForecast.Proofs.Status.Document

/-! # What is written is read back

Records of every kind are read back from what is written for them. For pods and statuses this asks
for what a record that was read always has, so that reading and writing once more changes nothing.
-/

namespace AdmissionForecast

namespace Reader

variable {α : Type} {r : Reader α} {write : α → Json} {IsSound : α → Prop}

/-- The sound values are read back from what is written for them. What is read from any document
is sound, and so is read back as well. -/
structure ReadsBack (r : Reader α) (write : α → Json) (IsSound : α → Prop) : Prop where
  written : ∀ x, IsSound x → r (write x) = .ok x
  read : ∀ j x, r j = .ok x → IsSound x ∧ r (write x) = .ok x

theorem ReadsBack.of_sound (hwrite : ∀ x, IsSound x → r (write x) = .ok x)
    (hsound : ∀ j x, r j = .ok x → IsSound x) : ReadsBack r write IsSound :=
  ⟨hwrite, fun j x h => ⟨hsound j x h, hwrite x (hsound j x h)⟩⟩

theorem ReadsBack.of_all (hwrite : ∀ x, r (write x) = .ok x) :
    ReadsBack r write fun _ => True :=
  .of_sound (fun x _ => hwrite x) fun _ _ _ => trivial

end Reader

namespace Config

open Fields

theorem reader_toJson (c : Config) : reader c.toJson = .ok c := by
  obtain ⟨schemaVersion, workers, fieldManager, attribution, policyVersion, notes⟩ := c
  refine reader_record (by decide) ?_
  exact .seq (.seq (.seq (.seq (.seq (.map _ (.field rfl))
    (.field (Reader.uint64_toNat workers)))
    (.field rfl))
    (.field rfl))
    (.field rfl))
    (.ofOption fun _ _ => rfl)

end Config

/-- Every namespace, configuration and set of conditions is read back, every pod whose volumes are
plain, and every status whose times are points of time. -/
theorem records_read_back :
    Namespace.reader.ReadsBack Namespace.toJson (fun _ => True) ∧
      Pod.reader.ReadsBack Pod.toJson Pod.IsPlain ∧
      Config.reader.ReadsBack Config.toJson (fun _ => True) ∧
      ConditionSet.reader.ReadsBack ConditionSet.toJson (fun _ => True) ∧
      Status.reader.ReadsBack Status.toJson Status.IsDated := by
  refine ⟨.of_all Namespace.reader_toJson, ?_, .of_all Config.reader_toJson,
    .of_all ConditionSet.reader_toJson, ?_⟩
  · exact .of_sound (fun _ => Pod.reader_toJson) fun _ _ => Pod.isPlain_of_reader
  · exact .of_sound (fun _ => Status.reader_toJson) fun _ _ => Status.isDated_of_reader

def Pod.onNode : Pod where
  metadata := { name := "agent", inNamespace := some "tools" }
  spec := { hostPID := true
            volumes := [{ name := "logs"
                          sources := StringMap.empty.insert "hostPath"
                            (.object [("path", .string "/var/log"), ("type", .string "")]) }] }

theorem records_read_back_pod_on_node :
    Pod.onNode.IsPlain ∧ Pod.reader Pod.onNode.toJson = .ok Pod.onNode := by
  have hplain : Pod.onNode.IsPlain := by
    refine List.forall_mem_singleton.mpr ⟨?_, ?_⟩
    · exact List.forall_mem_singleton.mpr (by decide)
    · exact List.forall_mem_singleton.mpr ⟨rfl, rfl⟩
  exact ⟨hplain, records_read_back.2.1.written _ hplain⟩

end AdmissionForecast
