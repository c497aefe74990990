import AdmissionForecast.Config.Load
import AdmissionForecast.Proofs.Config.Rules
import AdmissionForecast.Proofs.Json.Text

/-! # Loading the configuration

The first candidate that exists is the only one that is looked into. Its file is read, decoded and
checked, and whatever is wrong with it is an error: no later candidate is tried in its place.
-/

namespace AdmissionForecast

structure FileView where
  exists? : String → Bool
  read : String → Except FileError String

/-- Looking at a storage shows the view, and changes nothing. -/
structure Storage.Shows {σ : Type} (storage : Storage (StateM σ)) (s : σ) (view : FileView) :
    Prop where
  exists? : ∀ path, storage.exists? path s = (view.exists? path, s)
  read : ∀ path, storage.read path s = (view.read path, s)

theorem FileTree.shows (t : FileTree) : FileTree.storage.Shows t ⟨t.exists?, t.read⟩ :=
  ⟨fun _ => rfl, fun _ => rfl⟩

variable {σ : Type} {storage : Storage (StateM σ)} {s : σ} {view : FileView}
  {cs : List ConfigCandidate} {c : ConfigCandidate} {text : String} {config : Config}

def FileView.Has (view : FileView) (c : ConfigCandidate) : Prop := view.exists? c.path = true

instance : DecidablePred view.Has := fun _ => inferInstanceAs (Decidable (_ = true))

namespace LoadedConfig

variable {r : Except ConfigError LoadedConfig}

/-- How loading can end: with the settings that are built in if no candidate exists, and else as
the file of the first one that does makes it. -/
inductive Loads (view : FileView) (cs : List ConfigCandidate) :
    Except ConfigError LoadedConfig → Prop
  | builtIn (h : ∀ c ∈ cs, ¬ view.Has c) : Loads view cs (.ok ⟨.default, none, none⟩)
  | unreadable {c : ConfigCandidate} {e : FileError} (hc : IsFirst view.Has cs c)
      (hr : view.read c.path = .error e) : Loads view cs (.error (.unreadable c.path e))
  | notJson {c : ConfigCandidate} {text : String} {e : ReadError} (hc : IsFirst view.Has cs c)
      (hr : view.read c.path = .ok text) (hp : Config.parse text = .error e) :
      Loads view cs (.error (.notJson c.path))
  | invalid {c : ConfigCandidate} {text : String} {config : Config} {rule : Config.Rule}
      (hc : IsFirst view.Has cs c) (hr : view.read c.path = .ok text)
      (hp : Config.parse text = .ok config)
      (hv : IsFirst (fun rule => ¬ rule.Holds config) Config.Rule.inOrder rule) :
      Loads view cs (.error (.invalid (rule.violation config)))
  | loaded {c : ConfigCandidate} {text : String} {config : Config}
      (hc : IsFirst view.Has cs c) (hr : view.read c.path = .ok text)
      (hp : Config.parse text = .ok config) (hs : config.IsSound) :
      Loads view cs (.ok ⟨config, some c, some text⟩)

theorem ofContent_of_parse_error {e : ReadError} (hp : Config.parse text = .error e) :
    ofContent c text = .error (.notJson c.path) := by
  simp [ofContent, hp, Except.mapError, bind, Except.bind]

theorem ofContent_of_broken {rule : Config.Rule} (hp : Config.parse text = .ok config)
    (hv : IsFirst (fun rule => ¬ rule.Holds config) Config.Rule.inOrder rule) :
    ofContent c text = .error (.invalid (rule.violation config)) := by
  have hvalidate := Config.validate_eq_error_iff.mpr ⟨rule, hv, rfl⟩
  simp [ofContent, hp, hvalidate, Except.mapError, bind, Except.bind]

theorem ofContent_of_isSound (hp : Config.parse text = .ok config) (hs : config.IsSound) :
    ofContent c text = .ok ⟨config, some c, some text⟩ := by
  have hvalidate := Config.validate_eq_ok_iff.mpr hs
  simp [ofContent, hp, hvalidate, Except.mapError, bind, Except.bind, pure, Except.pure]

theorem loads_ofContent (hc : IsFirst view.Has cs c) (hr : view.read c.path = .ok text) :
    Loads view cs (ofContent c text) := by
  cases hp : Config.parse text with
  | error e => exact ofContent_of_parse_error hp ▸ .notJson hc hr hp
  | ok config =>
    cases hv : config.validate with
    | error v =>
      obtain ⟨rule, hrule, -⟩ := Config.validate_eq_error_iff.mp hv
      exact ofContent_of_broken hp hrule ▸ .invalid hc hr hp hrule
    | ok =>
      have hs := Config.validate_eq_ok_iff.mp hv
      exact ofContent_of_isSound hp hs ▸ .loaded hc hr hp hs

theorem firstExisting_of_shows (h : storage.Shows s view) (cs : List ConfigCandidate) :
    ConfigCandidate.firstExisting storage cs s =
      (cs.find? fun c => view.exists? c.path, s) := by
  induction cs with
  | nil => rfl
  | cons c cs ih =>
    show (match storage.exists? c.path s with
      | (b, s') => (if b then pure (some c) else ConfigCandidate.firstExisting storage cs :
          StateM σ _) s') = _
    rw [h.exists?, List.find?_cons]
    cases view.exists? c.path with
    | true => rfl
    | false => exact ih

theorem find?_eq_some_iff :
    (cs.find? fun c => view.exists? c.path) = some c ↔ IsFirst view.Has cs c := by
  rw [List.find?_eq_some_iff_append]
  simp only [IsFirst, FirstAfter, FileView.Has, Bool.not_eq_true', Bool.not_eq_true]
  tauto

theorem find?_eq_none_iff :
    (cs.find? fun c => view.exists? c.path) = none ↔ ∀ c ∈ cs, ¬ view.Has c := by
  simp [List.find?_eq_none, FileView.Has]

theorem loadFirst_of_none (h : storage.Shows s view) (hn : ∀ c ∈ cs, ¬ view.Has c) :
    loadFirst storage cs s = (.ok builtIn, s) := by
  simp only [loadFirst, bind, StateT.bind, firstExisting_of_shows h, find?_eq_none_iff.mpr hn]
  rfl

theorem loadFirst_of_isFirst (h : storage.Shows s view) (hc : IsFirst view.Has cs c) :
    loadFirst storage cs s =
      (match view.read c.path with
        | .error e => .error (.unreadable c.path e)
        | .ok text => ofContent c text, s) := by
  simp only [loadFirst, bind, StateT.bind, firstExisting_of_shows h, find?_eq_some_iff.mpr hc,
    h.read]
  cases view.read c.path <;> rfl

theorem loadFirst_of_loads (h : storage.Shows s view) (hr : Loads view cs r) :
    loadFirst storage cs s = (r, s) := by
  cases hr with
  | builtIn hn => exact loadFirst_of_none h hn
  | unreadable hc hr => rw [loadFirst_of_isFirst h hc, hr]
  | notJson hc hr hp => rw [loadFirst_of_isFirst h hc, hr, ← ofContent_of_parse_error hp]
  | invalid hc hr hp hv => rw [loadFirst_of_isFirst h hc, hr, ← ofContent_of_broken hp hv]
  | loaded hc hr hp hs => rw [loadFirst_of_isFirst h hc, hr, ← ofContent_of_isSound hp hs]

theorem exists_loads (view : FileView) (cs : List ConfigCandidate) : ∃ r, Loads view cs r := by
  cases hf : cs.find? fun c => view.exists? c.path with
  | none => exact ⟨_, .builtIn (find?_eq_none_iff.mp hf)⟩
  | some c =>
    have hc := find?_eq_some_iff.mp hf
    cases hr : view.read c.path with
    | error e => exact ⟨_, .unreadable hc hr⟩
    | ok text => exact ⟨_, loads_ofContent hc hr⟩

theorem snd_loadFirst (h : storage.Shows s view) : (loadFirst storage cs s).2 = s := by
  obtain ⟨r, hr⟩ := exists_loads view cs
  rw [loadFirst_of_loads h hr]

theorem fst_loadFirst_iff (h : storage.Shows s view) :
    (loadFirst storage cs s).1 = r ↔ Loads view cs r := by
  constructor
  · rintro rfl
    obtain ⟨r, hr⟩ := exists_loads view cs
    rwa [loadFirst_of_loads h hr]
  · intro hr
    rw [loadFirst_of_loads h hr]

theorem loads_ok_iff : (∃ l, Loads view cs (.ok l)) ↔
    (∀ c ∈ cs, ¬ view.Has c) ∨
      ∃ c text config, IsFirst view.Has cs c ∧ view.read c.path = .ok text ∧
        Config.parse text = .ok config ∧ config.IsSound := by
  constructor
  · rintro ⟨l, hn | - | - | - | ⟨hc, hr, hp, hs⟩⟩
    · exact .inl hn
    · exact .inr ⟨_, _, _, hc, hr, hp, hs⟩
  · rintro (hn | ⟨c, text, config, hc, hr, hp, hs⟩)
    · exact ⟨_, .builtIn hn⟩
    · exact ⟨_, .loaded hc hr hp hs⟩

theorem isSound_of_loads {l : LoadedConfig} (h : Loads view cs (.ok l)) : l.config.IsSound := by
  cases h with
  | builtIn => exact Config.isSound_default
  | loaded _ _ _ hs => exact hs

theorem loadFirst_congr {σ' : Type} {storage' : Storage (StateM σ')} {s' : σ'} {view' : FileView}
    {before after after' : List ConfigCandidate} (h : storage.Shows s view)
    (h' : storage'.Shows s' view') (hc : FirstAfter view.Has before c)
    (hc' : FirstAfter view'.Has before c) (hr : view'.read c.path = view.read c.path) :
    (loadFirst storage' (before ++ c :: after') s').1 =
      (loadFirst storage (before ++ c :: after) s).1 := by
  rw [loadFirst_of_isFirst h ⟨before, after, rfl, hc⟩,
    loadFirst_of_isFirst h' ⟨before, after', rfl, hc'⟩, hr]

/-- Loading is decided by the first candidate that exists, and changes nothing. It succeeds if
there is none, or its file can be read and decoded and the configuration is sound; whatever
exists after it, or would be found there, makes no difference. -/
theorem loadFirst_among (h : storage.Shows s view) (cliPath : Option String) (env : Environment)
    (userDirectory : Option String) :
    let cs := ConfigCandidate.among cliPath env userDirectory
    (∀ r, (loadFirst storage cs s).1 = r ↔ Loads view cs r) ∧ (loadFirst storage cs s).2 = s ∧
      ((∃ l, (loadFirst storage cs s).1 = .ok l) ↔
        (∀ c ∈ cs, ¬ view.Has c) ∨
          ∃ c text config, IsFirst view.Has cs c ∧ view.read c.path = .ok text ∧
            Config.parse text = .ok config ∧ config.IsSound) ∧
      (∀ l, (loadFirst storage cs s).1 = .ok l → l.config.IsSound) ∧
      (∀ before c after, cs = before ++ c :: after → FirstAfter view.Has before c →
        ∀ (σ' : Type) (storage' : Storage (StateM σ')) (s' : σ') (view' : FileView)
          (after' : List ConfigCandidate), storage'.Shows s' view' →
          FirstAfter view'.Has before c → view'.read c.path = view.read c.path →
            (loadFirst storage' (before ++ c :: after') s').1 = (loadFirst storage cs s).1) ∧
      (userDirectory = ConfigCandidate.userDirectory? env →
        load storage env cliPath = loadFirst storage cs) := by
  intro cs
  refine ⟨fun r => fst_loadFirst_iff h, snd_loadFirst h,
    by simp only [fst_loadFirst_iff h, loads_ok_iff],
    fun l hl => isSound_of_loads ((fst_loadFirst_iff h).mp hl), ?_, ?_⟩
  · rintro before c after hcs hc σ' storage' s' view' after' h' hc' hr
    rw [hcs]
    exact loadFirst_congr h h' hc hc' hr
  · rintro rfl
    rfl

/-- A path on the command line that leads nowhere is passed over, but a file that breaks two rules
is not, although a sound one would come after it. -/
theorem loadFirst_among_no_workers :
    let broken := "\x7b\"schema_version\":\"1.0.0\",\"workers\":0,\"field_manager\":\"\"\x7d"
    let sound := "\x7b\"schema_version\":\"1.0.0\"\x7d"
    let tree : FileTree := { entries :=
      [(["psr.json"], .file broken.toUTF8), (["etc"], .directory),
        (["etc", "pod-security-readiness"], .directory),
        (["etc", "pod-security-readiness", "config.json"], .file sound.toUTF8)] }
    let env : Environment := fun name => if name = "PSR_CONFIG" then some "/psr.json" else none
    FileTree.storage.Shows tree ⟨tree.exists?, tree.read⟩ ∧
      load FileTree.storage env (some "/missing.json") tree =
        (.error (.invalid (.invalidValue "workers" "must be between 1 and 64, got 0")), tree) := by
  intro broken sound tree env
  have h := FileTree.shows tree
  obtain ⟨hloads, hsame, -, -, -, hload⟩ := loadFirst_among h (some "/missing.json") env
    (ConfigCandidate.userDirectory? env)
  let config : Config := { schemaVersion := "1.0.0", workers := 0, fieldManager := "" }
  have hfirst : IsFirst (FileView.Has ⟨tree.exists?, tree.read⟩)
      (ConfigCandidate.among (some "/missing.json") env (ConfigCandidate.userDirectory? env))
      ⟨"/psr.json", .environment⟩ :=
    ⟨[⟨"/missing.json", .commandLine⟩], _, rfl, by decide +kernel, by decide +kernel⟩
  have hread : tree.read "/psr.json" = .ok broken := by decide +kernel
  have hparse : Config.parse broken = .ok config := by decide +kernel
  have hrule : IsFirst (fun rule => ¬ rule.Holds config) Config.Rule.inOrder .workers :=
    ⟨[.schema], _, rfl, by decide, by decide⟩
  have hreport : Config.Rule.workers.violation config =
      .invalidValue "workers" "must be between 1 and 64, got 0" := by decide
  refine ⟨h, (hload rfl).symm ▸ Prod.ext ((hloads _).mpr ?_) hsame⟩
  exact hreport ▸ .invalid hfirst hread hparse hrule

end LoadedConfig

end AdmissionForecast
