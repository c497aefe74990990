import AdmissionForecast.Command.Run
import AdmissionForecast.Proofs.Json.Normal
import AdmissionForecast.Proofs.Json.Text
import AdmissionForecast.Proofs.Status.Calls

/-! # Evaluations and the status file

An evaluation touches the status file in its last step only, where it is moved into its place. So
a run that ends in an error has left the file, whatever went wrong on the way, and a run that ends
in an outcome has merged its conditions into the status that it started from.
-/

namespace AdmissionForecast.Command

variable {env : Environment} {context : Log.Context} {now : Timestamp} {d : Disk} {i : Invocation}
  {pass : Pass} {base : Option Status} {writeStatus : Option String} {path : String}

/-- What surrounds a run on a disk. -/
def onDisk (env : Environment) (context : Log.Context) (now : Timestamp) :
    World (StateM Disk) where
  storage := Disk.storage
  now := pure now
  environment := env
  context := context

/-- The same where nothing goes wrong. -/
def onTree (env : Environment) (context : Log.Context) (now : Timestamp) :
    World (StateM FileTree) where
  storage := FileTree.storage
  now := pure now
  environment := env
  context := context

theorem firstExisting_onTree (cs : List ConfigCandidate) (t : FileTree) :
    (ConfigCandidate.firstExisting FileTree.storage cs t).2 = t := by
  induction cs with
  | nil => rfl
  | cons c cs ih =>
    show ((if t.exists? c.path then _ else _ : StateM FileTree _) t).2 = t
    split
    · rfl
    · exact ih

theorem firstExisting_onDisk (cs : List ConfigCandidate) (d : Disk) :
    ConfigCandidate.firstExisting Disk.storage cs d =
      ((ConfigCandidate.firstExisting FileTree.storage cs d.tree).1, d) := by
  induction cs with
  | nil => rfl
  | cons c cs ih =>
    show (if d.tree.exists? c.path then _ else _ : StateM Disk _) d =
      (((if d.tree.exists? c.path then _ else _ : StateM FileTree _) d.tree).1, d)
    split
    · rfl
    · exact ih

theorem parse?_ne_none_of_ofContent {c : ConfigCandidate} {text : String} {l : LoadedConfig}
    (h : LoadedConfig.ofContent c text = .ok l) : Json.parse? text ≠ none := by
  cases hp : Config.parse text with
  | error e => simp [LoadedConfig.ofContent, hp, Except.mapError, bind, Except.bind] at h
  | ok config => exact Json.parse?_ne_none_of_readText hp

theorem load_onDisk (env : Environment) (path : Option String) (d : Disk) :
    (LoadedConfig.load Disk.storage env path d).2.tree = d.tree ∧
      ∀ l, (LoadedConfig.load Disk.storage env path d).1 = .ok l →
        (LoadedConfig.load FileTree.storage env path d.tree).1 = .ok l := by
  have ht := firstExisting_onTree (ConfigCandidate.all path env) d.tree
  rw [LoadedConfig.load, LoadedConfig.load, LoadedConfig.loadFirst, LoadedConfig.loadFirst,
    bind_stateM_apply, bind_stateM_apply, firstExisting_onDisk]
  rcases hf : ConfigCandidate.firstExisting FileTree.storage (ConfigCandidate.all path env) d.tree
    with ⟨_ | c, t⟩
  · exact ⟨rfl, fun l hl => hl⟩
  · obtain rfl : t = d.tree := by rwa [hf] at ht
    simp only [bind_stateM_apply]
    cases hr : (Disk.storage.read c.path d).1 with
    | error e => exact ⟨rfl, fun l hl => nomatch hl⟩
    | ok text =>
      refine ⟨rfl, fun l hl => ?_⟩
      have hread : (FileTree.storage.read c.path d.tree).1 = .ok text :=
        Disk.read_eq_ok hr (parse?_ne_none_of_ofContent hl)
      rw [hread]
      exact hl

theorem loadConfig_onDisk (env : Environment) (context : Log.Context) (now : Timestamp)
    (i : Invocation) (d : Disk) :
    (loadConfig (onDisk env context now) i d).2.tree = d.tree ∧
      ∀ l, (loadConfig (onDisk env context now) i d).1 = .ok l →
        (loadConfig (onTree env context now) i d.tree).1 = .ok l := by
  obtain ⟨htree, hload⟩ := load_onDisk env i.configPath d
  refine ⟨htree, fun l hl => ?_⟩
  exact mapError_eq_ok_iff.mpr (hload l (mapError_eq_ok_iff.mp hl))

theorem loadSnapshot_onDisk (env : Environment) (context : Log.Context) (now : Timestamp)
    (path : String) (d : Disk) :
    (loadSnapshot (onDisk env context now) path d).2.tree = d.tree ∧
      ∀ s, (loadSnapshot (onDisk env context now) path d).1 = .ok s →
        (loadSnapshot (onTree env context now) path d.tree).1 = .ok s := by
  rw [loadSnapshot, loadSnapshot, bind_stateM_apply, bind_stateM_apply]
  cases hr : ((onDisk env context now).storage.read path d).1 with
  | error e => exact ⟨rfl, fun s hs => nomatch hs⟩
  | ok text =>
    refine ⟨rfl, fun s hs => ?_⟩
    obtain ⟨j, hj, -⟩ := Json.readWhole_eq_ok_iff.mp (mapError_eq_ok_iff.mp hs)
    have hread : ((onTree env context now).storage.read path d.tree).1 = .ok text :=
      Disk.read_eq_ok hr (by simp [hj])
    rw [hread]
    exact hs

/-- The status of the document that is given, if one is. -/
def IsBase (t : FileTree) (status : Option String) (base : Option Status) : Prop :=
  match status with
  | none => base = none
  | some path => ∃ s, base = some s ∧ t.HoldsDocument path s

theorem loadBase_onDisk (env : Environment) (context : Log.Context) (now : Timestamp)
    (status : Option String) (d : Disk) :
    (loadBase (onDisk env context now) status d).2.tree = d.tree ∧
      ∀ base, (loadBase (onDisk env context now) status d).1 = .ok base →
        IsBase d.tree status base := by
  cases status with
  | none => exact ⟨rfl, fun base hb => (Except.ok.inj hb).symm⟩
  | some path =>
    have ht :
        (StatusPublisher.loadStatus (onDisk env context now).storage path d).2.tree = d.tree :=
      StatusPublisher.tree_loadStatus path d
    rw [loadBase, bind_stateM_apply]
    cases hs : (StatusPublisher.loadStatus (onDisk env context now).storage path d).1 with
    | error e => exact ⟨ht, fun base hb => nomatch hb⟩
    | ok s =>
      refine ⟨ht, fun base hb => ?_⟩
      obtain rfl : some s = base := Except.ok.inj hb
      exact ⟨s, rfl, StatusPublisher.loadStatus_eq_ok hs⟩

/-- What a pass over a disk leaves: an error leaves the file that is to be written, and a report
comes with the status that it was merged into, written if that was asked for. -/
inductive PassOutcome (pass : Pass) (base : Option Status) (writeStatus : Option String)
    (now : Timestamp) (t t' : FileTree) : Except PassError (PassReport × Option Status) → Prop where
  | failed (e : PassError) : (∀ path ∈ writeStatus, t'.at? path = t.at? path) →
      PassOutcome pass base writeStatus now t t' (.error e)
  | shown {report : PassReport} : writeStatus = none → pass.evaluate.result = .ok report →
      PassOutcome pass base writeStatus now t t'
        (.ok (report, base.map fun s => (s.apply report.conditions now).1))
  | wrote {path : String} {report : PassReport} {start : Status} : writeStatus = some path →
      pass.evaluate.result = .ok report →
      StatusPublisher.StartsFrom { path, base } t start →
      t'.at? path = some (.file (start.apply report.conditions now).1.render.toUTF8) →
      PassOutcome pass base writeStatus now t t'
        (.ok (report, some (start.apply report.conditions now).1))

theorem outcome_runPass (env : Environment) (context : Log.Context) (now : Timestamp)
    (hw : d.tree.WellFormed) (pass : Pass) (base : Option Status) (writeStatus : Option String) :
    (writeStatus = none →
      (runPass (onDisk env context now) pass base writeStatus d).2.tree = d.tree) ∧
      PassOutcome pass base writeStatus now d.tree
        (runPass (onDisk env context now) pass base writeStatus d).2.tree
        (runPass (onDisk env context now) pass base writeStatus d).1.result := by
  cases writeStatus with
  | none =>
    refine ⟨fun _ => rfl, ?_⟩
    show PassOutcome pass base none now d.tree d.tree (pass.evaluate.result.map _)
    cases hr : pass.evaluate.result with
    | error e => exact .failed e fun path hp => nomatch hp
    | ok report => exact .shown rfl hr
  | some path =>
    refine ⟨(fun h => nomatch h), ?_⟩
    have hrun : runPass (onDisk env context now) pass base (some path) d =
        let done := pass.sync
          (StatusPublisher.publish Disk.storage { path, base } now) d
        (⟨done.1.steps, done.1.result.map fun r => (r.1, r.2.written)⟩, done.2) := rfl
    rw [hrun, Pass.sync]
    cases hr : pass.evaluate.result with
    | error e =>
      exact .failed e fun path hp => rfl
    | ok report =>
      simp only [bind_stateM_apply]
      obtain ⟨-, ho⟩ := StatusPublisher.outcome_publish hw { path, base } now report.conditions
      generalize StatusPublisher.publish Disk.storage { path, base } now report.conditions d = done
        at ho ⊢
      obtain ⟨⟨steps, result⟩, d'⟩ := done
      cases ho with
      | failed e hf => exact .failed (.publish e) fun path' hp => Option.some.inj hp ▸ hf
      | wrote hs hf => exact .wrote rfl hr hs hf

theorem exists_printed_status (report : PassReport) (shown : Option Status) :
    ∃ members, Report.pass .json report shown = Report.line (Json.object members).pretty ∧
      Fields.value? "status" members = shown.map fun s => s.toJson.normal := by
  refine ⟨_, rfl, ?_⟩
  rw [Json.value?_normalMembers, Json.member?, StringMap.get?_ofList]
  cases shown <;> simp [Json.field, Json.field?]

/-- The status that a run merges into: the document that is given, or else what the file that is
to be written holds. -/
def StartsFrom (t : FileTree) (status writeStatus : Option String) (start : Status) : Prop :=
  match status, writeStatus with
  | some path, _ => t.HoldsDocument path start
  | none, some path => t.Holds path start
  | none, none => False

/-- What a run that ends in an outcome has shown and written. -/
structure Finished (t t' : FileTree) (format : OutputFormat) (status writeStatus : Option String)
    (now : Timestamp) (r : Result) (report : PassReport) (shown : Option Status) : Prop where
  code : r.code = .ofReport report
  output : r.output = Report.pass format report shown
  isSome : shown.isSome = (status.isSome || writeStatus.isSome)
  merged : ∀ s ∈ shown, ∃ start, StartsFrom t status writeStatus start ∧
    s = (start.apply report.conditions now).1
  /-- The file is the document of the status that is shown. -/
  written : ∀ path ∈ writeStatus, ∃ s ∈ shown,
    t'.at? path = some (.file s.render.toUTF8) ∧ Json.parse? s.render = some s.toJson
  printed : format = .json → ∃ members, r.output = Report.line (Json.object members).pretty ∧
    Fields.value? "status" members = shown.map fun s => s.toJson.normal

def passOver (context : Log.Context) (loaded : LoadedConfig) (snapshot : Snapshot) : Pass where
  client := Admission.client snapshot loaded.config.policyVersion
  evaluator := Admission.evaluator
  config := loaded.config
  context := context

theorem ofFault_ge (f : Fault) : 10 ≤ (ExitCode.ofFault f).toNat := by
  unfold ExitCode.ofFault
  cases f.category <;> decide

theorem ofReport_le (r : PassReport) : (ExitCode.ofReport r).toNat ≤ 3 := by
  unfold ExitCode.ofReport
  split
  · decide
  · split
    · decide
    · split <;> decide

theorem code_fail (format : OutputFormat) (f : Fault) :
    (fail format f).result.code = .ofFault f := by
  cases format <;> rfl

theorem Finished.of_shown {t : FileTree} {status : Option String} (hbase : IsBase t status base)
    (t' : FileTree) (format : OutputFormat) (now : Timestamp) (report : PassReport) :
    Finished t t' format status none now
      ⟨Report.pass format report (base.map fun s => (s.apply report.conditions now).1),
        .ofReport report⟩ report (base.map fun s => (s.apply report.conditions now).1) where
  code := rfl
  output := rfl
  isSome := by
    cases status with
    | none => simp [show base = none from hbase]
    | some path =>
      obtain ⟨s, rfl, -⟩ := hbase
      rfl
  merged s hs := by
    cases status with
    | none => simp [show base = none from hbase] at hs
    | some path =>
      obtain ⟨start, rfl, hstart⟩ := hbase
      exact ⟨start, hstart, (Option.some.inj hs).symm⟩
  written path hp := nomatch hp
  printed hf := hf ▸ exists_printed_status report _

theorem Finished.of_wrote {t t' : FileTree} {status : Option String} {start s : Status}
    {report : PassReport} (hbase : IsBase t status base) (format : OutputFormat)
    (hstart : StatusPublisher.StartsFrom { path, base } t start)
    (hs : s = (start.apply report.conditions now).1)
    (hfile : t'.at? path = some (.file s.render.toUTF8)) :
    Finished t t' format status (some path) now
      ⟨Report.pass format report (some s), .ofReport report⟩ report (some s) where
  code := rfl
  output := rfl
  isSome := by simp
  merged s' hs' := by
    obtain rfl := Option.some.inj hs'
    refine ⟨start, ?_, hs⟩
    cases status with
    | none =>
      obtain rfl : base = none := hbase
      exact hstart
    | some path' =>
      obtain ⟨base, rfl, hdocument⟩ := hbase
      obtain rfl : start = base := hstart
      exact hdocument
  written path' hp := by
    obtain rfl := Option.some.inj hp
    exact ⟨s, rfl, hfile, Json.parse?_pretty s.isTextual_toJson (by decide)⟩
  printed hf := hf ▸ exists_printed_status report _

theorem PassOutcome.finished {t t' : FileTree} {status : Option String}
    {result : Except PassError (PassReport × Option Status)}
    (h : PassOutcome pass base writeStatus now t t' result) (hbase : IsBase t status base)
    (format : OutputFormat) :
    (∃ e, result = .error e ∧ ∀ path ∈ writeStatus, t'.at? path = t.at? path) ∨
      ∃ report shown, result = .ok (report, shown) ∧ pass.evaluate.result = .ok report ∧
        Finished t t' format status writeStatus now
          ⟨Report.pass format report shown, .ofReport report⟩ report shown := by
  cases h with
  | failed e hkept => exact .inl ⟨e, rfl, hkept⟩
  | shown hwrite hreport =>
    subst hwrite
    exact .inr ⟨_, _, rfl, hreport, .of_shown hbase t' format now _⟩
  | wrote hwrite hreport hstart hfile =>
    subst hwrite
    exact .inr ⟨_, _, rfl, hreport, .of_wrote hbase format hstart rfl hfile⟩

/-- A run stops with a fault and has left the file that is to be written, or it ends as is asked
for. -/
structure Leaves (t : FileTree) (writeStatus : Option String) (Ends : Result → FileTree → Prop)
    (done : Trace Notice Result × Disk) : Prop where
  unwritten : writeStatus = none → done.2.tree = t
  stopped_or_ended : (∃ f, done.1.result.code = .ofFault f ∧
    ∀ path ∈ writeStatus, done.2.tree.at? path = t.at? path) ∨ Ends done.1.result done.2.tree

/-- A stage that changes no file, and the run after it. -/
theorem Leaves.of_load {t : FileTree} {Ends : Result → FileTree → Prop} {α : Type}
    {Right : α → Prop} {load : StateM Disk (Except Fault α)}
    {next : Except Fault α → StateM Disk (Trace Notice Result)}
    (hload : (load d).2.tree = t ∧ ∀ a, (load d).1 = .ok a → Right a)
    (hfail : ∀ f d', (next (.error f) d').1.result.code = .ofFault f ∧ (next (.error f) d').2 = d')
    (hnext : ∀ a d', Right a → d'.tree = t → Leaves t writeStatus Ends (next (.ok a) d')) :
    Leaves t writeStatus Ends ((load >>= next) d) := by
  obtain ⟨htree, hright⟩ := hload
  rw [bind_stateM_apply]
  cases hr : (load d).1 with
  | error f =>
    obtain ⟨hcode, hdisk⟩ := hfail f (load d).2
    have hkept : (next (.error f) (load d).2).2.tree = t := by rw [hdisk, htree]
    exact ⟨fun _ => hkept, .inl ⟨f, hcode, fun path _ => by rw [hkept]⟩⟩
  | ok a => exact hnext a _ (hright a hr) htree

theorem leaves_evaluate (env : Environment) (context : Log.Context) (now : Timestamp)
    (i : Invocation) (snapshotPath : String) (status writeStatus : Option String)
    (hw : d.tree.WellFormed) :
    Leaves d.tree writeStatus
      (fun r t' => ∃ loaded snapshot report shown,
        (loadConfig (onTree env context now) i d.tree).1 = .ok loaded ∧
        (loadSnapshot (onTree env context now) snapshotPath d.tree).1 = .ok snapshot ∧
        (passOver context loaded snapshot).evaluate.result = .ok report ∧
        Finished d.tree t' i.format status writeStatus now r report shown)
      (evaluate (onDisk env context now) i snapshotPath status writeStatus d) := by
  rw [evaluate]
  refine .of_load (loadConfig_onDisk env context now i d)
    (fun f _ => ⟨code_fail i.format f, rfl⟩) fun loaded d₁ hl h₁ => ?_
  refine .of_load (h₁ ▸ loadSnapshot_onDisk env context now snapshotPath d₁)
    (fun f _ => ⟨code_fail i.format f, rfl⟩) fun snapshot d₂ hs h₂ => ?_
  refine .of_load (h₂ ▸ loadBase_onDisk env context now status d₂)
    (fun f _ => ⟨code_fail i.format f, rfl⟩) fun base d₃ hb h₃ => ?_
  obtain ⟨hkept, hpass⟩ := outcome_runPass env context now (h₃ ▸ hw)
    (passOver context loaded snapshot) base writeStatus
  rw [h₃] at hkept hpass
  change Leaves _ _ _ ((runPass (onDisk env context now) (passOver context loaded snapshot) base
    writeStatus >>= _) d₃)
  rw [bind_stateM_apply]
  generalize runPass (onDisk env context now) _ base writeStatus d₃ = x at hkept hpass ⊢
  obtain ⟨⟨steps, result⟩, d₄⟩ := x
  obtain ⟨e, rfl, hfile⟩ | ⟨report, shown, rfl, hr, hfinished⟩ := hpass.finished hb i.format
  · exact ⟨hkept, .inl ⟨_, code_fail i.format _, hfile⟩⟩
  · exact ⟨hkept, .inr ⟨loaded, snapshot, report, shown, hl, hs, hr, hfinished⟩⟩

def available : Status := ⟨[⟨"Available", .true, .ofClock 0 0, "AsExpected", none⟩]⟩

def undecided : Status :=
  ⟨[⟨Findings.conditionType .customer .inconclusive, .true, .ofClock 0 0, "Undecided", none⟩]⟩

/-- A namespace that does not tell its level, a status in the file that is to be written, and
another status in a file beside it. -/
def besideStatus (given previous : Status) : FileTree where
  entries :=
    [(["cluster.json"],
        .file "\x7b\"namespaces\":[\x7b\"metadata\":\x7b\"name\":\"team-a\"\x7d\x7d]\x7d".toUTF8),
      (["given.json"], .file given.render.toUTF8), (["status.json"], .file previous.render.toUTF8)]

def runBeside (status : Option String) : Trace Notice Result × Disk :=
  evaluate (onDisk (fun _ => none) ⟨"run-1", "host-1"⟩ (.ofClock 60 0))
    ⟨.evaluate "cluster.json" status (some "status.json"), none, .json, none, none⟩
    "cluster.json" status (some "status.json") ⟨besideStatus available undecided, []⟩

theorem at?_besideStatus (given previous : Status) :
    (besideStatus given previous).at? "given.json" = some (.file given.render.toUTF8) ∧
      (besideStatus given previous).at? "status.json" = some (.file previous.render.toUTF8) :=
  ⟨rfl, rfl⟩

theorem code_runBeside : ∀ status ∈ [some "given.json", none],
    (runBeside status).1.result.code = .inconclusive := by
  decide +kernel

end AdmissionForecast.Command
