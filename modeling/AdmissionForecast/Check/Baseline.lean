import AdmissionForecast.Check.Basic

/-! # Checks of the baseline level

They keep a pod from the known ways of escalating privileges.
-/

namespace AdmissionForecast.Check.Baseline

def allowedCapabilities : List String :=
  ["AUDIT_WRITE", "CHOWN", "DAC_OVERRIDE", "FOWNER", "FSETID", "KILL", "MKNOD",
    "NET_BIND_SERVICE", "SETFCAP", "SETGID", "SETPCAP", "SETUID", "SYS_CHROOT"]

def safeSysctls : List String :=
  ["kernel.shm_rmid_forced", "net.ipv4.ip_local_port_range",
    "net.ipv4.ip_unprivileged_port_start", "net.ipv4.tcp_syncookies", "net.ipv4.ping_group_range"]

def isUnconfined (kind : Option String) : Bool := kind = some "Unconfined"

def privileged : Check where
  id := "privileged"
  level := .baseline
  reason := "privileged"
  details spec := about (offenders (fun c => c.security (·.privileged) = some true) spec) fun cs =>
    s!"{containersPhrase cs} must not set securityContext.privileged=true"

def sharedHostNamespaces (spec : PodSpec) : List String :=
  (if spec.hostNetwork then ["hostNetwork=true"] else []) ++
    (if spec.hostPID then ["hostPID=true"] else []) ++
    (if spec.hostIPC then ["hostIPC=true"] else [])

def hostNamespaces : Check where
  id := "hostNamespaces"
  level := .baseline
  reason := "host namespaces"
  details spec := about (sharedHostNamespaces spec) fun xs => ", ".intercalate xs

def hostPathVolumes : Check where
  id := "hostPathVolumes"
  level := .baseline
  reason := "hostPath volumes"
  details spec := about (badVolumes (fun v => v.sourceKind? = some "hostPath") spec) volumesPhrase

/-- The ports of the host that a container takes; the port zero takes none. -/
def usedHostPorts (c : Container) : List Int32 :=
  (c.ports.filterMap (·.hostPort)).filter (· ≠ 0)

def hostPorts : Check where
  id := "hostPorts"
  level := .baseline
  reason := "hostPort"
  details spec :=
    about (offenders (fun c => !(usedHostPorts c).isEmpty) spec) fun cs =>
      let ports := spec.allContainers.flatMap usedHostPorts
      let listed := ", ".intercalate (ports.map fun p => toString p.toInt)
      s!"{containersPhrase cs} use hostPorts {listed}"

def addedBeyond (allowed : List String) (c : Container) : List String :=
  ((c.capabilities?.map (·.add)).getD []).filter fun cap => !allowed.contains cap

def capabilityDetails (allowed : List String) (spec : PodSpec) : List String :=
  about (offenders (fun c => !(addedBeyond allowed c).isEmpty) spec) fun cs =>
    let added := ascendingOnce (spec.allContainers.flatMap (addedBeyond allowed))
    s!"{containersPhrase cs} must not include {quoteAll added} in " ++
      "securityContext.capabilities.add"

def capabilities : Check where
  id := "capabilities_baseline"
  level := .baseline
  reason := "non-default capabilities"
  details := capabilityDetails allowedCapabilities

def procMount : Check where
  id := "procMount"
  level := .baseline
  reason := "procMount"
  details spec :=
    about (offenders (fun c => (c.security (·.procMount)).any (· ≠ "Default")) spec) fun cs =>
      s!"{containersPhrase cs} must not set securityContext.procMount to a non-default value"

def forbiddenSysctls (spec : PodSpec) : List String :=
  (((spec.securityContext.map (·.sysctls)).getD []).map (·.name)).filter fun name =>
    !safeSysctls.contains name

def sysctls : Check where
  id := "sysctls"
  level := .baseline
  reason := "forbidden sysctls"
  details spec := about (forbiddenSysctls spec) fun names => ", ".intercalate names

def seccompProfile : Check where
  id := "seccompProfile_baseline"
  level := .baseline
  reason := "seccompProfile"
  details spec :=
    (if isUnconfined spec.seccompKind?
      then ["pod must not set securityContext.seccompProfile.type to \"Unconfined\""] else []) ++
    about (offenders (fun c => isUnconfined c.seccompKind?) spec) fun cs =>
      s!"{containersPhrase cs} must not set securityContext.seccompProfile.type to \"Unconfined\""

def all : List Check :=
  [privileged, hostNamespaces, hostPathVolumes, hostPorts, capabilities, procMount, sysctls,
    seccompProfile]

end AdmissionForecast.Check.Baseline
