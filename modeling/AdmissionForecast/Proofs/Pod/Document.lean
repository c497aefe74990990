import AdmissionForecast.Namespace
import AdmissionForecast.Pod.Json
import AdmissionForecast.Proofs.Json.Records

/-! # The documents of namespaces and pods

Namespaces are read back from what is written for them, and so are pods whose volumes have
sources of their own: a source by the key `name` would be taken for the name of the volume.
-/

namespace AdmissionForecast

open Fields

namespace ObjectMeta

theorem reader_toJson (m : ObjectMeta) : reader m.toJson = .ok m := by
  obtain ⟨name, inNamespace, labels, annotations⟩ := m
  refine reader_record (by decide) ?_
  exact .seq (.seq (.seq (.map _ (.field rfl)) (.field? fun _ _ => rfl)) .mapField) .mapField

end ObjectMeta

namespace Namespace

theorem reader_toJson (ns : Namespace) : reader ns.toJson = .ok ns := by
  obtain ⟨metadata⟩ := ns
  refine reader_record (by decide) ?_
  exact .map _ (.field metadata.reader_toJson)

end Namespace

namespace SeccompProfile

theorem reader_toJson (p : SeccompProfile) : reader p.toJson = .ok p := by
  obtain ⟨kind, localhostProfile⟩ := p
  refine reader_record (by decide) ?_
  exact .seq (.map _ (.field rfl)) (.field? fun _ _ => rfl)

end SeccompProfile

namespace Sysctl

theorem reader_toJson (s : Sysctl) : reader s.toJson = .ok s := by
  obtain ⟨name, value⟩ := s
  refine reader_record (by decide) ?_
  exact .seq (.map _ (.field rfl)) (.field rfl)

end Sysctl

namespace PodSecurityContext

theorem reader_toJson (c : PodSecurityContext) : reader c.toJson = .ok c := by
  obtain ⟨runAsNonRoot, runAsUser, seccompProfile, sysctls⟩ := c
  refine reader_record (by decide) ?_
  exact .seq (.seq (.seq (.map _ (.field? fun _ _ => rfl))
    (.field? fun n _ => Reader.optional_of_ne_null nofun (Reader.int64_toInt n)))
    (.field? fun p _ => Reader.optional_of_ne_null nofun p.reader_toJson))
    (.fieldUnlessEmpty fun s _ => s.reader_toJson)

end PodSecurityContext

namespace Capabilities

theorem reader_toJson (c : Capabilities) : reader c.toJson = .ok c := by
  obtain ⟨add, drop⟩ := c
  refine reader_record (by decide) ?_
  exact .seq (.map _ (.field (Reader.list_map fun _ _ => rfl)))
    (.field (Reader.list_map fun _ _ => rfl))

end Capabilities

namespace SecurityContext

theorem reader_toJson (c : SecurityContext) : reader c.toJson = .ok c := by
  obtain ⟨privileged, escalation, runAsNonRoot, runAsUser, capabilities, profile, procMount⟩ := c
  refine reader_record (by decide) ?_
  exact .seq (.seq (.seq (.seq (.seq (.seq (.map _ (.field? fun _ _ => rfl))
    (.field? fun _ _ => rfl))
    (.field? fun _ _ => rfl))
    (.field? fun n _ => Reader.optional_of_ne_null nofun (Reader.int64_toInt n)))
    (.field? fun c _ => Reader.optional_of_ne_null nofun c.reader_toJson))
    (.field? fun p _ => Reader.optional_of_ne_null nofun p.reader_toJson))
    (.field? fun _ _ => rfl)

end SecurityContext

namespace ContainerPort

theorem reader_toJson (p : ContainerPort) : reader p.toJson = .ok p := by
  obtain ⟨containerPort, hostPort⟩ := p
  refine reader_record (by decide) ?_
  exact .seq (.map _ (.field (Reader.int32_toInt containerPort)))
    (.field? fun n _ => Reader.optional_of_ne_null nofun (Reader.int32_toInt n))

end ContainerPort

namespace Container

theorem reader_toJson (c : Container) : reader c.toJson = .ok c := by
  obtain ⟨name, securityContext, ports⟩ := c
  refine reader_record (by decide) ?_
  exact .seq (.seq (.map _ (.field rfl))
    (.field? fun c _ => Reader.optional_of_ne_null nofun c.reader_toJson))
    (.fieldUnlessEmpty fun p _ => p.reader_toJson)

end Container

namespace Volume

variable {v : Volume} {j : Json}

/-- No source is kept by the key `name`, and every source is a value as it is kept. -/
structure IsPlain (v : Volume) : Prop where
  unnamed : ∀ e ∈ v.sources.entries, e.1 ≠ "name"
  kept : ∀ e ∈ v.sources.entries, e.2.IsKept

theorem reader_eq_ok_iff {members : List (String × Json)} :
    reader (.object members) = .ok v ↔ fields.ofMembers members = .ok v.name ∧
      Reader.map Reader.value (.object (sourceMembers members)) = .ok v.sources := by
  obtain ⟨name, sources⟩ := v
  rw [reader]
  cases fields.ofMembers members <;>
    cases Reader.map Reader.value (.object (sourceMembers members)) <;>
    simp [bind, Except.bind, pure, Except.pure]

theorem reader_toJson (h : v.IsPlain) : reader v.toJson = .ok v := by
  have hname : fields.ofMembers (("name", .string v.name) :: v.sources.entries) = .ok v.name := by
    refine ofMembers_eq_ok_iff.mpr ⟨?_, rfl⟩
    have hcount : v.sources.entries.countP (fun m => decide (m.1 = "name")) = 0 :=
      List.countP_eq_zero.mpr fun m hm => by simpa using h.unnamed m hm
    simp [fields, Fields.required, Fields.fieldWith, Fields.repeats, hcount]
  have hmembers :
      sourceMembers (("name", .string v.name) :: v.sources.entries) = v.sources.entries := by
    rw [sourceMembers, List.filter_cons_of_neg (by simp)]
    exact List.filter_eq_self.mpr fun m hm => by simpa using h.unnamed m hm
  have hsources : Reader.map Reader.value (Json.ofMap id v.sources) = .ok v.sources :=
    Reader.map_ofMap fun e he => (h.kept e he).value
  rw [Json.ofMap, show v.sources.entries.map (fun e => (e.1, id e.2)) = v.sources.entries from
    List.map_id _] at hsources
  exact reader_eq_ok_iff.mpr ⟨hname, by rwa [hmembers]⟩

theorem isPlain_of_reader (h : reader j = .ok v) : v.IsPlain := by
  cases j with
  | object members =>
    have hsources := (reader_eq_ok_iff.mp h).2
    constructor <;> intro e he <;>
      obtain ⟨m, hm, hkey, hvalue⟩ := Reader.exists_member_of_map hsources he
    · simpa [hkey] using (List.mem_filter.mp hm).2
    · exact Json.isKept_of_value hvalue
  | _ => cases h

end Volume

namespace PodSpec

variable {s : PodSpec} {j : Json}

def IsPlain (s : PodSpec) : Prop := ∀ v ∈ s.volumes, v.IsPlain

theorem reader_toJson (h : s.IsPlain) : reader s.toJson = .ok s := by
  obtain ⟨network, pid, ipc, securityContext, containers, initContainers, volumes⟩ := s
  refine reader_record (by decide) ?_
  exact .seq (.seq (.seq (.seq (.seq (.seq (.map _ (.field rfl)) (.field rfl)) (.field rfl))
    (.field? fun c _ => Reader.optional_of_ne_null nofun c.reader_toJson))
    (.field (Reader.list_map fun c _ => c.reader_toJson)))
    (.fieldUnlessEmpty fun c _ => c.reader_toJson))
    (.fieldUnlessEmpty fun v hv => Volume.reader_toJson (h v hv))

theorem read_volumes {members : List (String × Json)} (h : fields.read members = .ok s) :
    (withDefault "volumes" [] (Reader.list Volume.reader)).read members = .ok s.volumes := by
  simp only [fields, read_seq_eq_ok_iff, read_map_eq_ok_iff] at h
  obtain ⟨_, volumes, ⟨_, _, ⟨_, _, ⟨_, _, ⟨_, _, ⟨_, _, ⟨_, _, rfl⟩, _, rfl⟩, _, rfl⟩, _, rfl⟩, _,
    rfl⟩, _, rfl⟩, hvolumes, rfl⟩ := h
  exact hvolumes

theorem isPlain_of_reader (h : reader j = .ok s) : s.IsPlain := by
  intro v hv
  obtain ⟨j', hj'⟩ := exists_reader_of_read_list (read_volumes (read_given_of_reader h)) hv
  exact Volume.isPlain_of_reader hj'

end PodSpec

namespace Pod

variable {p : Pod} {j : Json}

def IsPlain (p : Pod) : Prop := p.spec.IsPlain

theorem reader_toJson (h : p.IsPlain) : reader p.toJson = .ok p := by
  obtain ⟨metadata, spec⟩ := p
  refine reader_record (by decide) ?_
  exact .seq (.map _ (.field metadata.reader_toJson)) (.field (PodSpec.reader_toJson h))

theorem read_spec {members : List (String × Json)} (h : fields.read members = .ok p) :
    (withDefault "spec" {} PodSpec.reader).read members = .ok p.spec := by
  simp only [fields, read_seq_eq_ok_iff, read_map_eq_ok_iff] at h
  obtain ⟨_, spec, ⟨_, _, rfl⟩, hspec, rfl⟩ := h
  exact hspec

theorem isPlain_of_reader (h : reader j = .ok p) : p.IsPlain := by
  rcases read_fieldWith_eq_ok_iff.mp (read_spec (read_given_of_reader h)) with
    ⟨j', -, hj'⟩ | ⟨-, hd⟩
  · exact PodSpec.isPlain_of_reader hj'
  · rw [IsPlain, ← Option.some.inj hd]
    exact fun v hv => nomatch hv

end Pod

end AdmissionForecast
