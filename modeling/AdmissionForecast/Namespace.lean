import AdmissionForecast.ObjectMeta
import AdmissionForecast.WellKnown

/-! # Namespaces

A namespace as the cluster reports it. It is enforcing once it carries the enforce label,
whatever the label's value.
-/

namespace AdmissionForecast

structure Namespace where
  metadata : ObjectMeta
  deriving DecidableEq, Inhabited

namespace Namespace

def named (name : String) : Namespace := ⟨{ name }⟩

def name (ns : Namespace) : String := ns.metadata.name

def label? (ns : Namespace) (key : String) : Option String := ns.metadata.labels.get? key

def annotated? (ns : Namespace) (key : String) : Option String := ns.metadata.annotations.get? key

def addLabel (ns : Namespace) (key value : String) : Namespace :=
  ⟨ns.metadata.addLabel key value⟩

def annotate (ns : Namespace) (key value : String) : Namespace :=
  ⟨ns.metadata.annotate key value⟩

def isEnforcing (ns : Namespace) : Bool := ns.metadata.labels.contains WellKnown.enforceLabel

def toJson (ns : Namespace) : Json := .record [Json.field "metadata" ns.metadata.toJson]

def fields : Fields Namespace := Namespace.mk <$> .required "metadata" ObjectMeta.reader

def reader : Reader Namespace := fields.reader

/-- The namespaces that do not enforce a level yet, and how many do. -/
def selectNonEnforcing (all : List Namespace) : List Namespace × Nat :=
  let selected := all.filter fun ns => !ns.isEnforcing
  (selected, all.length - selected.length)

end Namespace

end AdmissionForecast
