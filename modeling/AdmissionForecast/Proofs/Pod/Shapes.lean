import AdmissionForecast.Proofs.Json.Overlooking
import AdmissionForecast.Proofs.Pod.Document

/-! # The shapes of namespaces and pods

For every record of a namespace or a pod, the names that it knows and what it reads under them. A
volume is no record here: it keeps its members whatever their names are, and overlooks only their
order.
-/

namespace AdmissionForecast

open Fields

open Json (Edit Shape)

namespace ObjectMeta

def shape : Shape := .record fields.names fun _ => .value

theorem overlooks_reader : reader.Overlooks shape :=
  Overlooks.reader (.seq (.seq (.seq (.map (.fieldWith Reader.overlooks_string) _)
    (.fieldWith Reader.overlooks_string.optional)) (.fieldWith Reader.overlooks_string.map))
    (.fieldWith Reader.overlooks_string.map))

end ObjectMeta

namespace Namespace

def part : String → Shape
  | "metadata" => ObjectMeta.shape
  | _ => .value

def shape : Shape := .record fields.names part

theorem overlooks_reader : reader.Overlooks shape :=
  Overlooks.reader (.map (.fieldWith ObjectMeta.overlooks_reader) _)

end Namespace

namespace SeccompProfile

def shape : Shape := .record fields.names fun _ => .value

theorem overlooks_reader : reader.Overlooks shape :=
  Overlooks.reader (.seq (.map (.fieldWith Reader.overlooks_string) _)
    (.fieldWith Reader.overlooks_string.optional))

end SeccompProfile

namespace Sysctl

def shape : Shape := .record fields.names fun _ => .value

theorem overlooks_reader : reader.Overlooks shape :=
  Overlooks.reader (.seq (.map (.fieldWith Reader.overlooks_string) _)
    (.fieldWith Reader.overlooks_string))

end Sysctl

namespace PodSecurityContext

def part : String → Shape
  | "seccompProfile" => SeccompProfile.shape
  | "sysctls" => .list Sysctl.shape
  | _ => .value

def shape : Shape := .record fields.names part

theorem overlooks_reader : reader.Overlooks shape :=
  Overlooks.reader (.seq (.seq (.seq (.map (.fieldWith Reader.overlooks_bool.optional) _)
    (.fieldWith (Reader.overlooks_intIn _ _).map_result.optional))
    (.fieldWith SeccompProfile.overlooks_reader.optional))
    (.fieldWith Sysctl.overlooks_reader.list))

end PodSecurityContext

namespace Capabilities

def shape : Shape := .record fields.names fun _ => .list .value

theorem overlooks_reader : reader.Overlooks shape :=
  Overlooks.reader (.seq (.map (.fieldWith Reader.overlooks_string.list) _)
    (.fieldWith Reader.overlooks_string.list))

end Capabilities

namespace SecurityContext

def part : String → Shape
  | "capabilities" => Capabilities.shape
  | "seccompProfile" => SeccompProfile.shape
  | _ => .value

def shape : Shape := .record fields.names part

theorem overlooks_reader : reader.Overlooks shape :=
  Overlooks.reader (.seq (.seq (.seq (.seq (.seq (.seq
    (.map (.fieldWith Reader.overlooks_bool.optional) _)
    (.fieldWith Reader.overlooks_bool.optional)) (.fieldWith Reader.overlooks_bool.optional))
    (.fieldWith (Reader.overlooks_intIn _ _).map_result.optional))
    (.fieldWith Capabilities.overlooks_reader.optional))
    (.fieldWith SeccompProfile.overlooks_reader.optional))
    (.fieldWith Reader.overlooks_string.optional))

end SecurityContext

namespace ContainerPort

def shape : Shape := .record fields.names fun _ => .value

theorem overlooks_reader : reader.Overlooks shape :=
  Overlooks.reader (.seq (.map (.fieldWith (Reader.overlooks_intIn _ _).map_result) _)
    (.fieldWith (Reader.overlooks_intIn _ _).map_result.optional))

end ContainerPort

namespace Container

def part : String → Shape
  | "securityContext" => SecurityContext.shape
  | "ports" => .list ContainerPort.shape
  | _ => .value

def shape : Shape := .record fields.names part

theorem overlooks_reader : reader.Overlooks shape :=
  Overlooks.reader (.seq (.seq (.map (.fieldWith Reader.overlooks_string) _)
    (.fieldWith SecurityContext.overlooks_reader.optional))
    (.fieldWith ContainerPort.overlooks_reader.list))

end Container

namespace Volume

theorem overlooks_fields : fields.reader.Overlooks (.record fields.names fun _ => .value) :=
  Overlooks.reader (.fieldWith Reader.overlooks_string)

theorem sourceMembers_append_cons (before after : List (String × Json)) (name : String) :
    (∀ j, sourceMembers (before ++ (name, j) :: after) = sourceMembers (before ++ after)) ∨
    ∀ j, sourceMembers (before ++ (name, j) :: after) =
      sourceMembers before ++ (name, j) :: sourceMembers after := by
  by_cases h : name = "name" <;> simp [sourceMembers, h]

theorem overlooks_reader : reader.Overlooks .value := by
  intro fits j j' he v
  have hname := overlooks_fields (he.of_value fits _) v.name
  have hsources := Reader.overlooks_value.map
  cases he with
  | item => exact iff_of_false nofun nofun
  | @permute _ members members' hn hp =>
    have hn' : ((sourceMembers members).map Prod.fst).Nodup :=
      (List.filter_sublist.map Prod.fst).nodup hn
    have he : Edit fits .value (.object (sourceMembers members))
        (.object (sourceMembers members')) := .permute hn' (hp.filter _)
    rw [reader_eq_ok_iff, reader_eq_ok_iff]
    exact and_congr hname (hsources he v.sources)
  | @member _ before after name j j' he =>
    rw [reader_eq_ok_iff, reader_eq_ok_iff]
    refine and_congr hname ?_
    rcases sourceMembers_append_cons before after name with heq | heq
    · rw [heq, heq]
    · rw [heq, heq]
      exact hsources (.member he) v.sources

end Volume

namespace PodSpec

def part : String → Shape
  | "securityContext" => PodSecurityContext.shape
  | "containers" => .list Container.shape
  | "initContainers" => .list Container.shape
  | "volumes" => .list .value
  | _ => .value

def shape : Shape := .record fields.names part

theorem overlooks_reader : reader.Overlooks shape :=
  Overlooks.reader (.seq (.seq (.seq (.seq (.seq (.seq
    (.map (.fieldWith Reader.overlooks_bool) _) (.fieldWith Reader.overlooks_bool))
    (.fieldWith Reader.overlooks_bool))
    (.fieldWith PodSecurityContext.overlooks_reader.optional))
    (.fieldWith Container.overlooks_reader.list)) (.fieldWith Container.overlooks_reader.list))
    (.fieldWith Volume.overlooks_reader.list))

end PodSpec

namespace Pod

def part : String → Shape
  | "metadata" => ObjectMeta.shape
  | "spec" => PodSpec.shape
  | _ => .value

def shape : Shape := .record fields.names part

theorem overlooks_reader : reader.Overlooks shape :=
  Overlooks.reader (.seq (.map (.fieldWith ObjectMeta.overlooks_reader) _)
    (.fieldWith PodSpec.overlooks_reader))

end Pod

end AdmissionForecast
