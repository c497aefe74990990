/-! # Well-known names

The keys and values that the admission plugin, the label synchronisation controller and the
platform agree on.
-/

namespace AdmissionForecast.WellKnown

/-- The label that enforces a level on a namespace. -/
def enforceLabel : String := "pod-security.kubernetes.io/enforce"

/-- The label that makes admission warn about pods that violate a level. -/
def warnLabel : String := "pod-security.kubernetes.io/warn"

/-- The label that makes admission audit pods that violate a level. -/
def auditLabel : String := "pod-security.kubernetes.io/audit"

/-- The labels that name a level without enforcing it, in the order they are looked at. -/
def alertLabels : List String := [warnLabel, auditLabel]

/-- The annotation that holds the weakest level that every workload of a namespace meets. -/
def sufficientLevelKey : String :=
  "security.openshift.io/MinimallySufficientPodSecurityStandard"

/-- The label that, set to `false`, turns off label synchronisation. -/
def labelSyncLabel : String := "security.openshift.io/scc.podSecurityLabelSync"

/-- The annotation that names the kind of subject whose constraint admitted a pod. -/
def subjectTypeKey : String := "security.openshift.io/validated-scc-subject-type"

def userSubjectType : String := "user"

/-- The namespaces that exist before any operator runs. -/
def runLevelZeroNames : List String := ["default", "kube-system", "kube-public"]

def platformNameStart : String := "openshift"

end AdmissionForecast.WellKnown
