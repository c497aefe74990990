import AdmissionForecast.Pod.Basic

/-! # Pods in JSON

How pods are written and read. Fields come in the order of their declaration. A volume keeps
every member but its name as a source.
-/

namespace AdmissionForecast

namespace SeccompProfile

def toJson (p : SeccompProfile) : Json :=
  .record [Json.field "type" (.string p.kind),
    Json.field? "localhostProfile" (p.localhostProfile.map .string)]

def fields : Fields SeccompProfile :=
  SeccompProfile.mk <$> .required "type" Reader.string
    <*> .optional "localhostProfile" Reader.string

def reader : Reader SeccompProfile := fields.reader

end SeccompProfile

namespace Sysctl

def toJson (s : Sysctl) : Json :=
  .record [Json.field "name" (.string s.name), Json.field "value" (.string s.value)]

def fields : Fields Sysctl :=
  Sysctl.mk <$> .required "name" Reader.string <*> .required "value" Reader.string

def reader : Reader Sysctl := fields.reader

end Sysctl

namespace PodSecurityContext

def toJson (c : PodSecurityContext) : Json :=
  .record [Json.field? "runAsNonRoot" (c.runAsNonRoot.map .bool),
    Json.field? "runAsUser" (c.runAsUser.map fun n => .int n.toInt),
    Json.field? "seccompProfile" (c.seccompProfile.map SeccompProfile.toJson),
    Json.fieldUnlessEmpty "sysctls" Sysctl.toJson c.sysctls]

def fields : Fields PodSecurityContext :=
  PodSecurityContext.mk <$> .optional "runAsNonRoot" Reader.bool
    <*> .optional "runAsUser" Reader.int64
    <*> .optional "seccompProfile" SeccompProfile.reader
    <*> .withDefault "sysctls" [] (Reader.list Sysctl.reader)

def reader : Reader PodSecurityContext := fields.reader

end PodSecurityContext

namespace Capabilities

def toJson (c : Capabilities) : Json :=
  .record [Json.field "add" (.ofStrings c.add), Json.field "drop" (.ofStrings c.drop)]

def fields : Fields Capabilities :=
  Capabilities.mk <$> .withDefault "add" [] (Reader.list Reader.string)
    <*> .withDefault "drop" [] (Reader.list Reader.string)

def reader : Reader Capabilities := fields.reader

end Capabilities

namespace SecurityContext

def toJson (c : SecurityContext) : Json :=
  .record [Json.field? "privileged" (c.privileged.map .bool),
    Json.field? "allowPrivilegeEscalation" (c.allowPrivilegeEscalation.map .bool),
    Json.field? "runAsNonRoot" (c.runAsNonRoot.map .bool),
    Json.field? "runAsUser" (c.runAsUser.map fun n => .int n.toInt),
    Json.field? "capabilities" (c.capabilities.map Capabilities.toJson),
    Json.field? "seccompProfile" (c.seccompProfile.map SeccompProfile.toJson),
    Json.field? "procMount" (c.procMount.map .string)]

def fields : Fields SecurityContext :=
  SecurityContext.mk <$> .optional "privileged" Reader.bool
    <*> .optional "allowPrivilegeEscalation" Reader.bool
    <*> .optional "runAsNonRoot" Reader.bool
    <*> .optional "runAsUser" Reader.int64
    <*> .optional "capabilities" Capabilities.reader
    <*> .optional "seccompProfile" SeccompProfile.reader
    <*> .optional "procMount" Reader.string

def reader : Reader SecurityContext := fields.reader

end SecurityContext

namespace ContainerPort

def toJson (p : ContainerPort) : Json :=
  .record [Json.field "containerPort" (.int p.containerPort.toInt),
    Json.field? "hostPort" (p.hostPort.map fun n => .int n.toInt)]

def fields : Fields ContainerPort :=
  ContainerPort.mk <$> .required "containerPort" Reader.int32
    <*> .optional "hostPort" Reader.int32

def reader : Reader ContainerPort := fields.reader

end ContainerPort

namespace Container

def toJson (c : Container) : Json :=
  .record [Json.field "name" (.string c.name),
    Json.field? "securityContext" (c.securityContext.map SecurityContext.toJson),
    Json.fieldUnlessEmpty "ports" ContainerPort.toJson c.ports]

def fields : Fields Container :=
  Container.mk <$> .required "name" Reader.string
    <*> .optional "securityContext" SecurityContext.reader
    <*> .withDefault "ports" [] (Reader.list ContainerPort.reader)

def reader : Reader Container := fields.reader

end Container

namespace Volume

def toJson (v : Volume) : Json := .object (("name", .string v.name) :: v.sources.entries)

def fields : Fields String := .required "name" Reader.string

/-- The members of a volume other than its name. -/
def sourceMembers (members : List (String × Json)) : List (String × Json) :=
  members.filter fun m => m.1 ≠ "name"

/-- Volumes are only ever objects. -/
def reader : Reader Volume
  | .object members => do
    let name ← fields.ofMembers members
    let sources ← Reader.map Reader.value (.object (sourceMembers members))
    return { name, sources }
  | _ => .error .malformed

end Volume

namespace PodSpec

def toJson (s : PodSpec) : Json :=
  .record [Json.field "hostNetwork" (.bool s.hostNetwork), Json.field "hostPID" (.bool s.hostPID),
    Json.field "hostIPC" (.bool s.hostIPC),
    Json.field? "securityContext" (s.securityContext.map PodSecurityContext.toJson),
    Json.field "containers" (.array (s.containers.map Container.toJson)),
    Json.fieldUnlessEmpty "initContainers" Container.toJson s.initContainers,
    Json.fieldUnlessEmpty "volumes" Volume.toJson s.volumes]

def fields : Fields PodSpec :=
  PodSpec.mk <$> .withDefault "hostNetwork" false Reader.bool
    <*> .withDefault "hostPID" false Reader.bool
    <*> .withDefault "hostIPC" false Reader.bool
    <*> .optional "securityContext" PodSecurityContext.reader
    <*> .withDefault "containers" [] (Reader.list Container.reader)
    <*> .withDefault "initContainers" [] (Reader.list Container.reader)
    <*> .withDefault "volumes" [] (Reader.list Volume.reader)

def reader : Reader PodSpec := fields.reader

end PodSpec

namespace Pod

def toJson (p : Pod) : Json :=
  .record [Json.field "metadata" p.metadata.toJson, Json.field "spec" p.spec.toJson]

def fields : Fields Pod :=
  Pod.mk <$> .required "metadata" ObjectMeta.reader <*> .withDefault "spec" {} PodSpec.reader

def reader : Reader Pod := fields.reader

end Pod

end AdmissionForecast
