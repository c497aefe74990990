import AdmissionForecast.Cluster.Snapshot
import AdmissionForecast.Proofs.Json.Normal
import AdmissionForecast.Proofs.Json.Text

/-! # The two layouts of a snapshot

An item is read by its kind as a record of that kind would be read, and its kind is a member that
no record asks for. So a list of items is read as the two lists of its namespaces and its pods are.
-/

namespace AdmissionForecast.Snapshot

open Json (normal)

variable {kind : String} {j : Json} {items : List Json} {members : List (String × Json)}
  {its : List Item} {nss : List Namespace} {pods : List Pod} {s : Snapshot}

def kindOf? (item : Json) : Option String :=
  match item with
  | .object members =>
    match Json.member? members "kind" with
    | some (.string kind) => some kind
    | _ => none
  | _ => none

/-- The items of one kind in their order. -/
def itemsOfKind (kind : String) (items : List Json) : List Json :=
  items.filter fun j => kindOf? j = some kind

theorem isLocal_namespaceFields : Namespace.fields.IsLocal :=
  .map (.fieldWith _ _ _) _

theorem isLocal_podFields : Pod.fields.IsLocal :=
  .seq (.map (.fieldWith _ _ _) _) (.fieldWith _ _ _)

theorem itemReader_object (h : Fields.value? "kind" members = some (.string kind)) :
    itemReader (.object members) =
      readItemOfKind kind (.object (members.filter fun m => m.1 ≠ "kind")) := by
  obtain ⟨⟨i, j⟩, hm, rfl⟩ := Option.map_eq_some_iff.mp h
  simp [itemReader, hm]

theorem exists_members_of_kindOf? (h : kindOf? j = some kind) :
    ∃ members, normal j = .object members ∧
      itemReader (normal j) =
        readItemOfKind kind (.object (members.filter fun m => m.1 ≠ "kind")) := by
  unfold kindOf? at h
  split at h
  · rename_i members
    split at h
    · rename_i kind' hk
      obtain rfl : kind' = kind := Option.some.inj h
      have hv := Json.value?_normalMembers members "kind"
      rw [hk] at hv
      exact ⟨_, rfl, itemReader_object hv⟩
    · cases h
  · cases h

theorem itemReader_record {α : Type} {f : Fields α} {c : α → Item} {it : Item} (hf : f.IsLocal)
    (hn : "kind" ∉ f.names) (hread : ∀ rest, readItemOfKind kind rest = (f.reader rest).map c)
    (h : kindOf? j = some kind) :
    itemReader (normal j) = .ok it ↔ ∃ a, f.reader (normal j) = .ok a ∧ c a = it := by
  obtain ⟨members, hj, hitem⟩ := exists_members_of_kindOf? h
  have hfilter (a : α) : f.reader (.object (members.filter fun m => m.1 ≠ "kind")) = .ok a ↔
      f.reader (.object members) = .ok a := Fields.reader_filter_eq_ok_iff hf hn
  rw [hitem, hj, hread]
  simp only [← hfilter]
  cases f.reader (.object (members.filter fun m => m.1 ≠ "kind")) <;> simp [Except.map]

theorem itemReader_other (h : kindOf? j = some kind) (hns : kind ≠ "Namespace")
    (hpod : kind ≠ "Pod") : itemReader (normal j) = .ok .other := by
  obtain ⟨members, -, hitem⟩ := exists_members_of_kindOf? h
  rw [hitem, readItemOfKind, if_neg hns, if_neg hpod]
  exact fun _ _ hc => nomatch hc

/-- What the records of a list of items are read as. -/
def ReadsAs (items : List Json) (nss : List Namespace) (pods : List Pod) : Prop :=
  List.Forall₂ (fun j ns => Namespace.reader (normal j) = .ok ns)
      (itemsOfKind "Namespace" items) nss ∧
    List.Forall₂ (fun j pod => Pod.reader (normal j) = .ok pod) (itemsOfKind "Pod" items) pods

theorem itemsOfKind_cons (kind : String) (j : Json) (items : List Json) :
    itemsOfKind kind (j :: items) =
      if kindOf? j = some kind then j :: itemsOfKind kind items else itemsOfKind kind items := by
  simp [itemsOfKind, List.filter_cons]

theorem itemReader_namespace {it : Item} (h : kindOf? j = some "Namespace") :
    itemReader (normal j) = .ok it ↔
      ∃ ns, Namespace.reader (normal j) = .ok ns ∧ .namespaceItem ns = it :=
  itemReader_record isLocal_namespaceFields (by decide) (fun _ => rfl) h

theorem itemReader_pod {it : Item} (h : kindOf? j = some "Pod") :
    itemReader (normal j) = .ok it ↔
      ∃ pod, Pod.reader (normal j) = .ok pod ∧ .podItem pod = it :=
  itemReader_record isLocal_podFields (by decide) (fun _ => rfl) h

theorem readsAs_of_items (hkind : ∀ j ∈ items, (kindOf? j).isSome = true)
    (h : List.Forall₂ (fun j it => itemReader (normal j) = .ok it) items its) :
    ReadsAs items (ofItems its).namespaces (ofItems its).pods := by
  induction h with
  | nil => exact ⟨.nil, .nil⟩
  | @cons j it items its hit hits ih =>
    obtain ⟨hj, hrest⟩ := List.forall_mem_cons.mp hkind
    obtain ⟨kind, hk⟩ := Option.isSome_iff_exists.mp hj
    obtain ⟨hnss, hpods⟩ := ih hrest
    unfold ReadsAs
    rw [itemsOfKind_cons, itemsOfKind_cons, hk]
    by_cases hns : kind = "Namespace"
    · subst hns
      obtain ⟨ns, hread, rfl⟩ := (itemReader_namespace hk).mp hit
      exact ⟨.cons hread hnss, hpods⟩
    · by_cases hpod : kind = "Pod"
      · subst hpod
        obtain ⟨pod, hread, rfl⟩ := (itemReader_pod hk).mp hit
        exact ⟨hnss, .cons hread hpods⟩
      · obtain rfl : .other = it := Except.ok.inj ((itemReader_other hk hns hpod).symm.trans hit)
        simp only [Option.some.injEq, hns, hpod, if_false]
        exact ⟨hnss, hpods⟩

theorem exists_items_of_readsAs (hkind : ∀ j ∈ items, (kindOf? j).isSome = true)
    (h : ReadsAs items nss pods) :
    ∃ its, List.Forall₂ (fun j it => itemReader (normal j) = .ok it) items its ∧
      ofItems its = { namespaces := nss, pods } := by
  induction items generalizing nss pods with
  | nil =>
    obtain ⟨hnss, hpods⟩ := h
    obtain rfl := List.forall₂_nil_left_iff.mp hnss
    obtain rfl := List.forall₂_nil_left_iff.mp hpods
    exact ⟨[], .nil, rfl⟩
  | cons j items ih =>
    obtain ⟨hj, hrest⟩ := List.forall_mem_cons.mp hkind
    obtain ⟨kind, hk⟩ := Option.isSome_iff_exists.mp hj
    unfold ReadsAs at h
    rw [itemsOfKind_cons, itemsOfKind_cons, hk] at h
    obtain ⟨hnss, hpods⟩ := h
    by_cases hns : kind = "Namespace"
    · subst hns
      obtain ⟨ns, nss', hread, hnss', rfl⟩ := List.forall₂_cons_left_iff.mp hnss
      obtain ⟨its, hits, hof⟩ := ih hrest ⟨hnss', hpods⟩
      exact ⟨.namespaceItem ns :: its, .cons ((itemReader_namespace hk).mpr ⟨ns, hread, rfl⟩) hits,
        congrArg (fun s : Snapshot => { s with namespaces := ns :: s.namespaces }) hof⟩
    · by_cases hpod : kind = "Pod"
      · subst hpod
        obtain ⟨pod, pods', hread, hpods', rfl⟩ := List.forall₂_cons_left_iff.mp hpods
        obtain ⟨its, hits, hof⟩ := ih hrest ⟨hnss, hpods'⟩
        exact ⟨.podItem pod :: its, .cons ((itemReader_pod hk).mpr ⟨pod, hread, rfl⟩) hits,
          congrArg (fun s : Snapshot => { s with pods := pod :: s.pods }) hof⟩
      · simp only [Option.some.injEq, hns, hpod, if_false] at hnss hpods
        obtain ⟨its, hits, hof⟩ := ih hrest ⟨hnss, hpods⟩
        exact ⟨.other :: its, .cons (itemReader_other hk hns hpod) hits, hof⟩

theorem list_itemReader_eq_ok_iff (hkind : ∀ j ∈ items, (kindOf? j).isSome = true) :
    (Reader.list itemReader (normal (.array items))).map ofItems = .ok s ↔
      ReadsAs items s.namespaces s.pods ∧ s.dryRunFailures = .empty := by
  constructor
  · intro h
    cases hr : Reader.list itemReader (normal (.array items)) with
    | error e =>
      rw [hr] at h
      cases h
    | ok its =>
      rw [hr] at h
      obtain rfl : ofItems its = s := Except.ok.inj h
      exact ⟨readsAs_of_items hkind (Json.list_normal_eq_ok_iff.mp hr), rfl⟩
  · rintro ⟨hreads, hdry⟩
    obtain ⟨its, hits, hof⟩ := exists_items_of_readsAs hkind hreads
    rw [Json.list_normal_eq_ok_iff.mpr hits]
    show Except.ok (ofItems its) = _
    rw [hof, ← hdry]

theorem reader_object (h : Fields.value? "items" members = some j) :
    reader (.object members) = (Reader.list itemReader j).map ofItems := by
  obtain ⟨m, hm, rfl⟩ := Option.map_eq_some_iff.mp h
  simp [reader, hm]

theorem reader_items_eq_ok_iff {before after : List (String × Json)}
    (hkind : ∀ j ∈ items, (kindOf? j).isSome = true) (hlast : ∀ m ∈ after, m.1 ≠ "items") :
    reader (normal (.object (before ++ ("items", .array items) :: after))) = .ok s ↔
      ReadsAs items s.namespaces s.pods ∧ s.dryRunFailures = .empty := by
  rw [← list_itemReader_eq_ok_iff hkind]
  have hv := Json.value?_normalMembers (before ++ ("items", .array items) :: after) "items"
  rw [Json.member?_append_cons _ hlast] at hv
  have hread : reader (normal (.object (before ++ ("items", .array items) :: after))) =
      (Reader.list itemReader (normal (.array items))).map ofItems := reader_object hv
  rw [hread]

theorem reader_split_eq_ok_iff {ns pods : List Json} :
    reader (normal (.object [("namespaces", .array ns), ("pods", .array pods)])) = .ok s ↔
      List.Forall₂ (fun j ns => Namespace.reader (normal j) = .ok ns) ns s.namespaces ∧
      List.Forall₂ (fun j pod => Pod.reader (normal j) = .ok pod) pods s.pods ∧
      s.dryRunFailures = .empty := by
  have hnormal : normal (.object [("namespaces", .array ns), ("pods", .array pods)]) =
      .object [("namespaces", normal (.array ns)), ("pods", normal (.array pods))] := by
    have hlt : ¬ "pods" < "namespaces" := by decide
    simp [normal, Json.normalMembers, StringMap.ofList, StringMap.insert, StringMap.insertEntry,
      StringMap.empty, hlt]
  let split := [("namespaces", normal (.array ns)), ("pods", normal (.array pods))]
  have hreader : reader (.object split) = fields.ofMembers split := rfl
  have hrepeats : Fields.repeats fields.names split = false := rfl
  have hns : Fields.value? "namespaces" split = some (normal (.array ns)) := rfl
  have hpods : Fields.value? "pods" split = some (normal (.array pods)) := rfl
  have hdry : Fields.value? "dry_run_failures" split = none := rfl
  rw [hnormal, hreader, Fields.ofMembers_eq_ok_iff, hrepeats]
  simp only [fields, Fields.read_seq_eq_ok_iff, Fields.read_map_eq_ok_iff, Fields.withDefault,
    Fields.read_fieldWith_eq_ok_iff, hns, hpods, hdry, ↓existsAndEq, Option.some.injEq,
    exists_eq_left', reduceCtorEq, List.nil_eq, false_and, or_false, and_true, exists_const,
    true_and, false_or, Json.list_normal_eq_ok_iff]
  constructor
  · rintro ⟨pods', nss', ⟨hnss, hpods⟩, rfl⟩
    exact ⟨hnss, hpods, rfl⟩
  · rintro ⟨hnss, hpods, hdry⟩
    exact ⟨s.pods, s.namespaces, ⟨hnss, hpods⟩, by rw [← hdry]⟩

theorem mem_itemsOfKind : j ∈ itemsOfKind kind items ↔ j ∈ items ∧ kindOf? j = some kind := by
  simp [itemsOfKind]

theorem isReadable_split_iff {ns pods : List Json} :
    (Json.object [("namespaces", .array ns), ("pods", .array pods)]).isReadable = true ↔
      (∀ j ∈ ns, j.isReadable = true) ∧ ∀ j ∈ pods, j.isReadable = true := by
  rw [← Json.areReadable_iff, ← Json.areReadable_iff]
  simp [Json.isReadable, Json.haveReadable]

theorem isReadable_items_iff {before after : List (String × Json)}
    (hmembers : ∀ m ∈ before ++ after, m.2.isReadable = true)
    (hothers : ∀ j ∈ items, kindOf? j ≠ some "Namespace" → kindOf? j ≠ some "Pod" →
      j.isReadable = true) :
    (Json.object (before ++ ("items", .array items) :: after)).isReadable = true ↔
      (Json.object [("namespaces", .array (itemsOfKind "Namespace" items)),
        ("pods", .array (itemsOfKind "Pod" items))]).isReadable = true := by
  have hwhole : (Json.object (before ++ ("items", .array items) :: after)).isReadable = true ↔
      ∀ j ∈ items, j.isReadable = true := by
    rw [← Json.areReadable_iff]
    show Json.haveReadable _ = true ↔ (Json.array items).isReadable = true
    rw [Json.haveReadable_iff]
    constructor
    · exact fun h => h ("items", .array items) (by simp)
    · intro h m hm
      rcases List.mem_append.mp hm with hm | hm
      · exact hmembers m (List.mem_append_left _ hm)
      · rcases List.mem_cons.mp hm with rfl | hm
        · exact h
        · exact hmembers m (List.mem_append_right _ hm)
  rw [hwhole, isReadable_split_iff]
  simp only [mem_itemsOfKind, and_imp]
  constructor
  · exact fun h => ⟨fun j hj _ => h j hj, fun j hj _ => h j hj⟩
  · rintro ⟨hns, hpods⟩ j hj
    by_cases hkn : kindOf? j = some "Namespace"
    · exact hns j hj hkn
    · by_cases hkp : kindOf? j = some "Pod"
      · exact hpods j hj hkp
      · exact hothers j hj hkn hkp

/-- Both layouts are read as the same snapshot, or neither is, whatever other members the document
has and whatever items of other kinds it lists, as long as these can be read as values. -/
theorem parse_items_eq_ok_iff (text text' : String) (items : List Json)
    (before after : List (String × Json)) (hkind : ∀ j ∈ items, (kindOf? j).isSome = true)
    (htext : Json.parse? text = some (.object (before ++ ("items", .array items) :: after)))
    (hlast : ∀ m ∈ after, m.1 ≠ "items")
    (htext' : Json.parse? text' = some (.object
      [("namespaces", .array (itemsOfKind "Namespace" items)),
        ("pods", .array (itemsOfKind "Pod" items))]))
    (hmembers : ∀ m ∈ before ++ after, m.2.isReadable = true)
    (hothers : ∀ j ∈ items, kindOf? j ≠ some "Namespace" → kindOf? j ≠ some "Pod" →
      j.isReadable = true) :
    (∀ s, parse text = .ok s ↔ parse text' = .ok s) ∧
      ∀ s, parse text = .ok s → s.dryRunFailures = .empty := by
  have hparse (s : Snapshot) : parse text = .ok s ↔
      (Json.object [("namespaces", .array (itemsOfKind "Namespace" items)),
        ("pods", .array (itemsOfKind "Pod" items))]).isReadable = true ∧
      ReadsAs items s.namespaces s.pods ∧ s.dryRunFailures = .empty := by
    rw [parse, Json.readWhole_eq_ok_iff]
    simp only [htext, Option.some.injEq, exists_eq_left', isReadable_items_iff hmembers hothers,
      reader_items_eq_ok_iff hkind hlast]
  refine ⟨fun s => ?_, fun s hs => ((hparse s).mp hs).2.2⟩
  rw [hparse, parse, Json.readWhole_eq_ok_iff]
  simp only [htext', Option.some.injEq, exists_eq_left', reader_split_eq_ok_iff, ReadsAs, and_assoc]

/-- A list of three kinds. -/
theorem parse_items_eq_ok_iff_three_kinds :
    let ns : Json := .object [("kind", .string "Namespace"),
      ("metadata", .object [("name", .string "team-a")])]
    let node : Json := .object [("kind", .string "Node"), ("metadata", .string "any")]
    let pod : Json := .object [("metadata", .object [("name", .string "web")]),
      ("kind", .string "Pod")]
    let text :=
      (Json.object [("apiVersion", .string "v1"), ("items", .array [pod, node, ns])]).pretty
    let text' := (Json.object [("namespaces", .array [ns]), ("pods", .array [pod])]).pretty
    (parse text).isOk = true ∧ ∀ s, parse text = .ok s ↔ parse text' = .ok s := by
  intro ns node pod text text'
  have htext : Json.parse? text =
      some (.object ([("apiVersion", .string "v1")] ++ ("items", .array [pod, node, ns]) :: [])) :=
    Json.parse?_pretty (n := 5) (by simp [Json.IsTextual, ns, node, pod]) (by decide)
  have htext' : Json.parse? text' =
      some (.object [("namespaces", .array (itemsOfKind "Namespace" [pod, node, ns])),
        ("pods", .array (itemsOfKind "Pod" [pod, node, ns]))]) :=
    Json.parse?_pretty (n := 5) (by simp [Json.IsTextual, ns, pod]) (by decide)
  have hok : (parse text).isOk = true := by
    rw [parse, Json.readWhole, htext]
    decide +kernel
  exact ⟨hok, (parse_items_eq_ok_iff text text' [pod, node, ns]
    [("apiVersion", .string "v1")] [] (by decide) htext (by simp) htext'
    (by simp [Json.isReadable]) (by simp [ns, node, pod, Json.isReadable, Json.haveReadable])).1⟩

/-- A number that no double holds makes the whole document unreadable, in an item of any kind. -/
theorem parse_items_unreadable :
    let node : Json := .object [("kind", .string "Node"), ("weight", .unreadable)]
    let text := "\x7b\"items\":[\x7b\"kind\":\"Node\",\"weight\":1e400\x7d]\x7d"
    let text' := "\x7b\"namespaces\":[],\"pods\":[]\x7d"
    Json.parse? text = some (.object [("items", .array [node])]) ∧ kindOf? node = some "Node" ∧
      Json.parse? text' = some (.object [("namespaces", .array (itemsOfKind "Namespace" [node])),
        ("pods", .array (itemsOfKind "Pod" [node]))]) ∧
      (parse text).isOk = false ∧ (parse text').isOk = true := by
  dsimp only
  exact ⟨rfl, by decide, rfl, by decide +kernel, by decide +kernel⟩

end AdmissionForecast.Snapshot
