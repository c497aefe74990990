import AdmissionForecast.Namespace
import AdmissionForecast.Pod.Json

/-! # Snapshots of a cluster

The namespaces and pods of a cluster at one time, read from a document in one of two layouts:
lists of namespaces and pods, or one list of items that each name their kind.
-/

namespace AdmissionForecast

structure Snapshot where
  namespaces : List Namespace := []
  pods : List Pod := []
  /-- The namespaces whose dry runs fail. -/
  dryRunFailures : StringMap Unit := .empty

namespace Snapshot

def stringSet : Reader (StringMap Unit) := fun j =>
  (Reader.list Reader.string j).map fun xs => .ofList (xs.map fun x => (x, ()))

def fields : Fields Snapshot :=
  Snapshot.mk <$> .withDefault "namespaces" [] (Reader.list Namespace.reader)
    <*> .withDefault "pods" [] (Reader.list Pod.reader)
    <*> .withDefault "dry_run_failures" .empty stringSet

/-- An item of a list, by its kind. -/
inductive Item where
  | namespaceItem (ns : Namespace)
  | podItem (pod : Pod)
  | other

/-- Reads the rest of an item once its kind is known. In an array nothing may follow the kind
of an item that is skipped. -/
def readItemOfKind (kind : String) (rest : Json) : Except ReadError Item :=
  if kind = "Namespace" then (Namespace.reader rest).map .namespaceItem
  else if kind = "Pod" then (Pod.reader rest).map .podItem
  else match rest with
    | .array (_ :: _) => .error .malformed
    | _ => .ok .other

def itemReader : Reader Item
  | .object members =>
    match Fields.member? "kind" members with
    | some (_, .string kind) =>
      readItemOfKind kind (.object (members.filter fun m => m.1 ≠ "kind"))
    | some _ => .error .malformed
    | none => .error (.missing "kind")
  | .array (.string kind :: rest) => readItemOfKind kind (.array rest)
  | .array [] => .error (.missing "kind")
  | _ => .error .malformed

/-- The snapshot of a list of items. -/
def ofItems (items : List Item) : Snapshot where
  namespaces := items.filterMap fun | .namespaceItem ns => some ns | _ => none
  pods := items.filterMap fun | .podItem pod => some pod | _ => none

/-- The layout is a list of items if the document has such a member, whatever it holds. -/
def reader : Reader Snapshot := fun j =>
  match j with
  | .object members =>
    match Fields.member? "items" members with
    | some (_, items) => (Reader.list itemReader items).map ofItems
    | none => fields.reader j
  | _ => fields.reader j

def parse (text : String) : Except ReadError Snapshot := Json.readWhole reader text

/-- Why a text is no snapshot, in words; only missing fields are told in detail. -/
def errorText : ReadError → String
  | .missing field => "missing field `" ++ field ++ "`"
  | .malformed => "<json>"

def toJson (s : Snapshot) : Json :=
  .record [Json.field "namespaces" (.array (s.namespaces.map Namespace.toJson)),
    Json.field "pods" (.array (s.pods.map Pod.toJson)),
    Json.field "dry_run_failures" (.ofStrings s.dryRunFailures.keys)]

def podsIn (s : Snapshot) (inNamespace : String) : List Pod :=
  s.pods.filter fun p => p.metadata.inNamespace = some inNamespace

end Snapshot

end AdmissionForecast
