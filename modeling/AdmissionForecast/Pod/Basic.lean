import AdmissionForecast.ObjectMeta
import AdmissionForecast.WellKnown

/-! # Pods

The part of a pod that the Pod Security Standards look at.
-/

namespace AdmissionForecast

structure SeccompProfile where
  kind : String
  localhostProfile : Option String := none
  deriving DecidableEq

structure Sysctl where
  name : String
  value : String
  deriving DecidableEq

structure PodSecurityContext where
  runAsNonRoot : Option Bool := none
  runAsUser : Option Int64 := none
  seccompProfile : Option SeccompProfile := none
  sysctls : List Sysctl := []
  deriving DecidableEq

structure Capabilities where
  add : List String := []
  drop : List String := []
  deriving DecidableEq

structure SecurityContext where
  privileged : Option Bool := none
  allowPrivilegeEscalation : Option Bool := none
  runAsNonRoot : Option Bool := none
  runAsUser : Option Int64 := none
  capabilities : Option Capabilities := none
  seccompProfile : Option SeccompProfile := none
  procMount : Option String := none
  deriving DecidableEq

structure ContainerPort where
  containerPort : Int32
  hostPort : Option Int32 := none
  deriving DecidableEq

structure Container where
  name : String
  securityContext : Option SecurityContext := none
  ports : List ContainerPort := []
  deriving DecidableEq

/-- A volume with its sources by kind; what a source holds is of no concern. -/
structure Volume where
  name : String
  sources : StringMap Json := .empty

structure PodSpec where
  hostNetwork : Bool := false
  hostPID : Bool := false
  hostIPC : Bool := false
  securityContext : Option PodSecurityContext := none
  containers : List Container := []
  initContainers : List Container := []
  volumes : List Volume := []

structure Pod where
  metadata : ObjectMeta
  spec : PodSpec := {}

def SeccompProfile.runtimeDefault : SeccompProfile := { kind := "RuntimeDefault" }

def Volume.ofKind (name kind : String) : Volume :=
  { name, sources := StringMap.empty.insert kind (.object []) }

/-- The kind of a volume: the least of its source keys. -/
def Volume.sourceKind? (v : Volume) : Option String := v.sources.keys.head?

namespace Container

/-- A setting of the container's security context, absent if it has none. -/
def security {α : Type} (setting : SecurityContext → Option α) (c : Container) : Option α :=
  c.securityContext.bind setting

def seccompKind? (c : Container) : Option String :=
  (c.security (·.seccompProfile)).map (·.kind)

def capabilities? (c : Container) : Option Capabilities := c.security (·.capabilities)

end Container

namespace PodSpec

/-- The init containers and then the regular ones. -/
def allContainers (s : PodSpec) : List Container := s.initContainers ++ s.containers

/-- A setting of the pod's own security context, absent if it has none. -/
def security {α : Type} (setting : PodSecurityContext → Option α) (s : PodSpec) : Option α :=
  s.securityContext.bind setting

def seccompKind? (s : PodSpec) : Option String :=
  (s.security (·.seccompProfile)).map (·.kind)

end PodSpec

namespace Pod

def inNamespaceNamed (inNamespace name : String) : Pod :=
  { metadata := { name, inNamespace := some inNamespace } }

def name (p : Pod) : String := p.metadata.name

def annotate (p : Pod) (key value : String) : Pod :=
  { p with metadata := p.metadata.annotate key value }

/-- Whether the pod was admitted for an end user. -/
def isUserWorkload (p : Pod) : Bool :=
  p.metadata.annotations.get? WellKnown.subjectTypeKey = some WellKnown.userSubjectType

end Pod

end AdmissionForecast
