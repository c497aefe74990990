import AdmissionForecast.Check.Baseline

/-! # Checks of the restricted level

They ask for a hardened configuration: what a pod does not set may be as wrong as what it sets.
-/

namespace AdmissionForecast.Check.Restricted

def allowedVolumeKinds : List String :=
  ["configMap", "csi", "downwardAPI", "emptyDir", "ephemeral", "persistentVolumeClaim",
    "projected", "secret"]

/-- The kinds of seccomp profiles that confine a container. -/
def isConfining (kind : String) : Bool := kind = "RuntimeDefault" || kind = "Localhost"

def privilegeEscalation : Check where
  id := "allowPrivilegeEscalation"
  level := .restricted
  reason := "allowPrivilegeEscalation != false"
  details spec :=
    about (offenders (fun c => c.security (·.allowPrivilegeEscalation) ≠ some false) spec) fun cs =>
      s!"{containersPhrase cs} must set securityContext.allowPrivilegeEscalation=false"

def dropsAll (c : Container) : Bool := c.capabilities?.any fun caps => caps.drop.contains "ALL"

def capabilities : Check where
  id := "capabilities_restricted"
  level := .restricted
  reason := "unrestricted capabilities"
  details spec :=
    (about (offenders (fun c => !dropsAll c) spec) fun cs =>
      s!"{containersPhrase cs} must set securityContext.capabilities.drop=[\"ALL\"]") ++
    Baseline.capabilityDetails ["NET_BIND_SERVICE"] spec

def runAsNonRoot : Check where
  id := "runAsNonRoot"
  level := .restricted
  reason := "runAsNonRoot != true"
  details spec :=
    let podValue := spec.security (·.runAsNonRoot)
    (if podValue = some false
      then ["pod must not set securityContext.runAsNonRoot=false"] else []) ++
    (about (offenders (fun c => c.security (·.runAsNonRoot) = some false) spec) fun cs =>
      s!"{containersPhrase cs} must not set securityContext.runAsNonRoot=false") ++
    (if podValue = some true then []
      else about (offenders (fun c => (c.security (·.runAsNonRoot)).isNone) spec) fun cs =>
        s!"pod or {containersPhrase cs} must set securityContext.runAsNonRoot=true")

def runAsUser : Check where
  id := "runAsUser"
  level := .restricted
  reason := "runAsUser=0"
  details spec :=
    (if spec.security (·.runAsUser) = some 0 then ["pod must not set runAsUser=0"] else []) ++
    about (offenders (fun c => c.security (·.runAsUser) = some 0) spec) fun cs =>
      s!"{containersPhrase cs} must not set runAsUser=0"

/-- The sentence about the pod's own profile, if it does not confine. -/
def podSeccompDetails (kind : Option String) : List String :=
  match kind with
  | some k =>
    if isConfining k then []
    else [s!"pod must not set securityContext.seccompProfile.type to {quote k}"]
  | none => []

def seccompProfile : Check where
  id := "seccompProfile_restricted"
  level := .restricted
  reason := "seccompProfile"
  overrides := ["seccompProfile_baseline"]
  details spec :=
    podSeccompDetails spec.seccompKind? ++
    (about (offenders (fun c => c.seccompKind?.any (fun k => !isConfining k)) spec) fun cs =>
      s!"{containersPhrase cs} must not set securityContext.seccompProfile.type to an " ++
        "unconfined value") ++
    (if spec.seccompKind?.isSome then []
      else about (offenders (fun c => c.seccompKind?.isNone) spec) fun cs =>
        s!"pod or {containersPhrase cs} must set securityContext.seccompProfile.type to " ++
          "\"RuntimeDefault\" or \"Localhost\"")

def volumeKind (v : Volume) : String := v.sourceKind?.getD "unknown"

def isAllowedVolume (v : Volume) : Bool := allowedVolumeKinds.contains (volumeKind v)

def volumes : Check where
  id := "restrictedVolumes"
  level := .restricted
  reason := "restricted volume types"
  details spec :=
    about (badVolumes (fun v => !isAllowedVolume v) spec) fun vs =>
      let kinds := ascendingOnce ((spec.volumes.filter fun v => !isAllowedVolume v).map volumeKind)
      volumesPhrase vs ++ counted vs " uses " " use " ++ ", ".intercalate kinds

def all : List Check :=
  [privilegeEscalation, capabilities, runAsNonRoot, runAsUser, seccompProfile, volumes]

end AdmissionForecast.Check.Restricted
