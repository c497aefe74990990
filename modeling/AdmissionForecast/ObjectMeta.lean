import AdmissionForecast.Json.Read
import AdmissionForecast.StringMap

/-! # Object metadata

What namespaces and pods have in common: a name, the namespace they are in, labels and
annotations.
-/

namespace AdmissionForecast

structure ObjectMeta where
  name : String
  inNamespace : Option String := none
  labels : StringMap String := .empty
  annotations : StringMap String := .empty
  deriving DecidableEq, Inhabited

namespace ObjectMeta

def addLabel (m : ObjectMeta) (key value : String) : ObjectMeta :=
  { m with labels := m.labels.insert key value }

def annotate (m : ObjectMeta) (key value : String) : ObjectMeta :=
  { m with annotations := m.annotations.insert key value }

/-- A member for a map that is left out when the map is empty. -/
def mapField (name : String) (m : StringMap String) : Option (String × Json) :=
  if m.isEmpty then none else some (name, .ofMap .string m)

def toJson (m : ObjectMeta) : Json :=
  .record [Json.field "name" (.string m.name), Json.field? "namespace" (m.inNamespace.map .string),
    mapField "labels" m.labels, mapField "annotations" m.annotations]

def fields : Fields ObjectMeta :=
  ObjectMeta.mk <$> .required "name" Reader.string <*> .optional "namespace" Reader.string
    <*> .withDefault "labels" .empty (Reader.map Reader.string)
    <*> .withDefault "annotations" .empty (Reader.map Reader.string)

def reader : Reader ObjectMeta := fields.reader

end ObjectMeta

end AdmissionForecast
