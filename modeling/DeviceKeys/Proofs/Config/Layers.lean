import DeviceKeys.Proofs.Config.Document
import DeviceKeys.Proofs.Environment
import DeviceKeys.Proofs.FileSystem.Reading

/-! # Which source a setting comes from

* `Unreadable`: why a path cannot be read as a text.
* `PathSetting.GivenBy`: what the settings file of a project gives for a setting, where the file is
  not there or holds a document of the right shape.
* `PathSetting.InForce`: the first source that has a setting: its variable, the file, the default.
* `PathSetting.Resolves`: the path that a setting leads to in a project, or the fault of the file. A
  file that is there is looked at whatever the variables hold.
* `settings_in_layers`: this is how the key store file and the export script are found; each of the
  two depends on its own sources alone.
-/

namespace DeviceKeys

variable {fs : FileSystem} {root : Path} {env : Environment}

/-! ## 1. The settings file -/

/-- The path does not read as a text, and why. -/
inductive FileSystem.Unreadable (fs : FileSystem) (p : Path) : IoFault → Prop
  | refused {fault : IoFault} (read : fs.read p = .error fault) : Unreadable fs p fault
  | noText {data : Bytes} (read : fs.read p = .ok data) (text : ¬Utf8.IsText data) :
      Unreadable fs p .notUtf8

theorem FileSystem.readText_eq_ok_iff {p : Path} {text : List Char} :
    fs.readText p = .ok text ↔ fs.read p = .ok (Utf8.encode text) := by
  unfold FileSystem.readText
  cases fs.read p with
  | error e => simp [bind, Except.bind]
  | ok data =>
    simp only [bind, Except.bind, Except.ok.injEq]
    rw [← Utf8.decode_eq_ok_iff]
    cases Utf8.decode data <;> simp

theorem FileSystem.readText_eq_error_iff {p : Path} {fault : IoFault} :
    fs.readText p = .error fault ↔ fs.Unreadable p fault := by
  unfold FileSystem.readText
  constructor
  · intro h
    cases hread : fs.read p with
    | error e =>
      rw [hread] at h
      cases h
      exact .refused hread
    | ok data =>
      rw [hread] at h
      simp only [bind, Except.bind] at h
      split at h
      · cases h
      · rename_i e hd
        cases h
        refine .noText hread fun ⟨cs, hcs⟩ => ?_
        rw [Utf8.decode_eq_ok_iff.mpr hcs] at hd
        cases hd
  · intro h
    cases h with
    | refused hread =>
      rw [hread]
      rfl
    | @noText data hread htext =>
      rw [hread]
      simp only [bind, Except.bind]
      cases hd : Utf8.decode data with
      | error e => rfl
      | ok cs => exact absurd ⟨cs, Utf8.decode_eq_ok_iff.mp hd⟩ htext

/-- The settings file of a project is there and reads as a text. -/
structure Config.Reads (fs : FileSystem) (root : Path) (text : List Char) : Prop where
  found : fs.exists? (root.join Config.fileName) = true
  read : fs.read (root.join Config.fileName) = .ok (Utf8.encode text)

namespace PathSetting

/-- What the settings file of a project gives for a setting. It is not there, or it holds a document
    that is refused for no setting. -/
inductive GivenBy (fs : FileSystem) (root : Path) (s : PathSetting) : Option String → Prop
  | noFile (absent : fs.exists? (root.join Config.fileName) = false) : GivenBy fs root s none
  | file {text : List Char} {doc : Toml.Table} {given : Option String}
      (reads : Config.Reads fs root text) (toml : Toml.document? text = some doc)
      (shape : FitsShape doc) (gives : s.GivenIn doc given) : GivenBy fs root s given

/-- The first source that has a setting: its variable, what the settings file gives, the default. -/
inductive InForce (env : Environment) (given : Option String) (s : PathSetting) : Path → Prop
  | byVariable {value : String} (set : env.Overrides s.variableName value) :
      InForce env given s (Path.ofString value)
  | byFile {value : String} (unset : ∀ v, ¬env.Overrides s.variableName v)
      (present : given = some value) : InForce env given s (Path.ofString value)
  | byDefault (unset : ∀ v, ¬env.Overrides s.variableName v) (absent : given = none) :
      InForce env given s s.fallback

/-- What a setting leads to in a project: a path seen from the root, or the fault of a settings file
    that is there and cannot be read as a text, or is not of the right form. -/
inductive Resolves (fs : FileSystem) (root : Path) (env : Environment) (s : PathSetting) :
    Except ConfigFault Path → Prop
  | unreadable {fault : IoFault} (found : fs.exists? (root.join Config.fileName) = true)
      (refused : fs.Unreadable (root.join Config.fileName) fault) :
      Resolves fs root env s (.error (.unreadable (root.join Config.fileName) fault))
  | malformed {text : List Char} (reads : Config.Reads fs root text)
      (refused : ∀ doc, Toml.document? text = some doc → ¬FitsShape doc) :
      Resolves fs root env s (.error (.malformed (root.join Config.fileName)))
  | settled {given : Option String} {p : Path} (gives : s.GivenBy fs root given)
      (force : s.InForce env given p) : Resolves fs root env s (.ok (root.join p))

/-- The path that a setting leads to from a root. -/
def path (root : Path) (c : Config) (s : PathSetting) : Path := root.join (s.of c)

variable {s : PathSetting} {given : Option String} {p : Path} {c : Config}

theorem inForce_iff : s.InForce env given p ↔
    p = (env.path? s.variableName).getD ((given.map Path.ofString).getD s.fallback) := by
  cases hp : env.path? s.variableName with
  | some q =>
    obtain ⟨value, hset, rfl⟩ := Environment.path?_eq_some_iff.mp hp
    constructor
    · rintro (⟨hset'⟩ | ⟨hunset, -⟩ | ⟨hunset, -⟩)
      · exact congrArg Path.mk (Option.some.inj (hset'.1.symm.trans hset.1))
      · exact absurd hset (hunset _)
      · exact absurd hset (hunset _)
    · rintro rfl
      exact .byVariable hset
  | none =>
    have hunset := Environment.path?_eq_none_iff.mp hp
    constructor
    · rintro (⟨hset⟩ | ⟨-, rfl⟩ | ⟨-, rfl⟩)
      · exact absurd hset (hunset _)
      · rfl
      · rfl
    · rintro rfl
      cases given with
      | none => exact .byDefault hunset rfl
      | some value => exact .byFile hunset rfl

theorem of_override (s : PathSetting) (c : Config) (env : Environment) :
    s.of (c.override env) = (env.path? s.variableName).getD (s.of c) := by
  cases s <;> rfl

theorem of_default (s : PathSetting) : s.of Config.default = s.fallback := by
  cases s <;> rfl

end PathSetting

/-! ## 2. Loading -/

namespace Config

/-- The ways in which loading the settings of a project ends. -/
inductive Loads (fs : FileSystem) (root : Path) (env : Environment) :
    Except ConfigFault Config → Prop
  | noFile (absent : fs.exists? (root.join fileName) = false) :
      Loads fs root env (.ok (default.override env))
  | unreadable {fault : IoFault} (found : fs.exists? (root.join fileName) = true)
      (refused : fs.Unreadable (root.join fileName) fault) :
      Loads fs root env (.error (.unreadable (root.join fileName) fault))
  | malformed {text : List Char} (reads : Reads fs root text)
      (refused : ∀ doc, Toml.document? text = some doc → ¬FitsShape doc) :
      Loads fs root env (.error (.malformed (root.join fileName)))
  | file {text : List Char} {doc : Toml.Table} {c : Config} (reads : Reads fs root text)
      (toml : Toml.document? text = some doc) (settings : ofDocument doc = some c) :
      Loads fs root env (.ok (c.override env))

theorem load_loads (fs : FileSystem) (root : Path) (env : Environment) :
    Loads fs root env (load fs root env) := by
  unfold load
  simp only
  split
  · rename_i hfound
    unfold loadFile
    cases hread : fs.readText (root.join fileName) with
    | error e => exact .unreadable hfound (FileSystem.readText_eq_error_iff.mp hread)
    | ok text =>
      have hreads : Reads fs root text := ⟨hfound, FileSystem.readText_eq_ok_iff.mp hread⟩
      cases htext : ofText text with
      | some c =>
        obtain ⟨doc, hdoc, hc⟩ := Option.bind_eq_some_iff.mp htext
        simp only [htext]
        exact .file hreads hdoc hc
      | none =>
        simp only [htext]
        refine .malformed hreads fun doc hdoc hshape => ?_
        obtain ⟨c, hc⟩ := exists_ofDocument_iff.mpr hshape
        have hsome : ofText text = some c := by simp [ofText, hdoc, hc]
        cases htext.symm.trans hsome
  · rename_i habsent
    exact .noFile (by simpa using habsent)

theorem load_eq {r : Except ConfigFault Config} (h : Loads fs root env r) :
    load fs root env = r := by
  unfold load
  cases h with
  | noFile habsent =>
    simp only [habsent]
    rfl
  | unreadable hfound hrefused =>
    simp only [hfound, if_true, loadFile, FileSystem.readText_eq_error_iff.mpr hrefused]
    rfl
  | @malformed text hreads hrefused =>
    have hnone : ofText text = none := by
      refine Option.bind_eq_none_iff.mpr fun doc hdoc => ?_
      refine Option.eq_none_iff_forall_ne_some.mpr fun c hc => ?_
      exact hrefused doc hdoc (exists_ofDocument_iff.mp ⟨c, hc⟩)
    have htext := FileSystem.readText_eq_ok_iff.mpr hreads.read
    simp only [hreads.found, if_true, loadFile, htext, hnone]
    rfl
  | @file text doc c hreads hdoc hc =>
    have hsome : ofText text = some c := by simp [ofText, hdoc, hc]
    have htext := FileSystem.readText_eq_ok_iff.mpr hreads.read
    simp only [hreads.found, if_true, loadFile, htext, hsome]
    rfl

/-- The settings that load are what the first source of each says. -/
theorem exists_givenBy {c : Config} (h : load fs root env = .ok c) (s : PathSetting) :
    ∃ given, s.GivenBy fs root given ∧ s.InForce env given (s.of c) := by
  have hends := load_loads fs root env
  rw [h] at hends
  cases hends with
  | noFile habsent =>
    refine ⟨none, .noFile habsent, PathSetting.inForce_iff.mpr ?_⟩
    rw [s.of_override, s.of_default]
    rfl
  | file hreads hdoc hc =>
    obtain ⟨given, hgiven, hof⟩ := ofDocument_eq_some_iff.mp hc s
    refine ⟨given, .file hreads hdoc (exists_ofDocument_iff.mp ⟨_, hc⟩) hgiven,
      PathSetting.inForce_iff.mpr ?_⟩
    rw [s.of_override, hof]

/-- The settings load if the file gives something for one of them. -/
theorem exists_load {s : PathSetting} {given : Option String} (h : s.GivenBy fs root given) :
    ∃ c, load fs root env = .ok c := by
  cases h with
  | noFile habsent => exact ⟨_, load_eq (.noFile habsent)⟩
  | file hreads hdoc hshape =>
    obtain ⟨c, hc⟩ := exists_ofDocument_iff.mpr hshape
    exact ⟨_, load_eq (.file hreads hdoc hc)⟩

theorem Reads.unique {text text' : List Char} (h : Reads fs root text)
    (h' : Reads fs root text') : text' = text :=
  Except.ok.inj ((FileSystem.readText_eq_ok_iff.mpr h'.read).symm.trans
    (FileSystem.readText_eq_ok_iff.mpr h.read))

/-- The settings file gives one thing for a setting. -/
theorem givenBy_unique {s : PathSetting} {given given' : Option String}
    (h : s.GivenBy fs root given) (h' : s.GivenBy fs root given') : given' = given := by
  cases h with
  | noFile habsent =>
    cases h' with
    | noFile => rfl
    | file hreads => cases habsent.symm.trans hreads.found
  | file hreads hdoc hshape hgiven =>
    cases h' with
    | noFile habsent => cases habsent.symm.trans hreads.found
    | file hreads' hdoc' hshape' hgiven' =>
      obtain rfl := hreads.unique hreads'
      cases hdoc.symm.trans hdoc'
      exact given_unique hgiven hgiven'

/-- **A setting leads to what its first source says**, if the settings file is none or of the right
    form. -/
theorem map_load_eq_iff (s : PathSetting) {r : Except ConfigFault Path} :
    (load fs root env).map (s.path root) = r ↔ s.Resolves fs root env r := by
  constructor
  · rintro rfl
    cases hload : load fs root env with
    | ok c =>
      obtain ⟨given, hgiven, hforce⟩ := exists_givenBy hload s
      exact .settled hgiven hforce
    | error e =>
      have hends := load_loads fs root env
      rw [hload] at hends
      cases hends with
      | unreadable hfound hrefused => exact .unreadable hfound hrefused
      | malformed hreads hrefused => exact .malformed hreads hrefused
  · intro h
    cases h with
    | unreadable hfound hrefused =>
      rw [load_eq (.unreadable hfound hrefused)]
      rfl
    | malformed hreads hrefused =>
      rw [load_eq (.malformed hreads hrefused)]
      rfl
    | @settled given p hgiven hforce =>
      obtain ⟨c, hload⟩ : ∃ c, load fs root env = .ok c := exists_load hgiven
      obtain ⟨given', hgiven', hforce'⟩ := exists_givenBy hload s
      obtain rfl := givenBy_unique hgiven hgiven'
      rw [hload]
      exact congrArg (fun q => Except.ok (root.join q))
        ((PathSetting.inForce_iff.mp hforce').trans (PathSetting.inForce_iff.mp hforce).symm)

/-! ## 3. Independence -/

/-- **Each setting depends on its own sources alone.** -/
theorem of_eq_of_sources {fs' : FileSystem} {root' : Path} {env' : Environment} {c c' : Config}
    (h : load fs root env = .ok c) (h' : load fs' root' env' = .ok c') {s : PathSetting}
    (hvariable : ∀ value, env'.Overrides s.variableName value ↔
      env.Overrides s.variableName value)
    (hgiven : ∀ given, s.GivenBy fs root given ↔ s.GivenBy fs' root' given) :
    s.of c' = s.of c := by
  obtain ⟨given, hg, hforce⟩ := exists_givenBy h s
  obtain ⟨given', hg', hforce'⟩ := exists_givenBy h' s
  obtain rfl := givenBy_unique ((hgiven given).mp hg) hg'
  rw [PathSetting.inForce_iff.mp hforce, PathSetting.inForce_iff.mp hforce',
    Environment.path?_congr hvariable]

/-- Files that are the same for both settings load as the same settings. -/
theorem load_congr {fs' : FileSystem} {text text' : List Char} {doc doc' : Toml.Table}
    (h : Reads fs root text) (h' : Reads fs' root text') (hdoc : Toml.document? text = some doc)
    (hdoc' : Toml.document? text' = some doc')
    (hsame : ∀ s : PathSetting, SameFor s.key (doc.find? s.table) (doc'.find? s.table)) :
    load fs' root env = load fs root env := by
  have htext : ofText text' = ofText text := by
    simp [ofText, hdoc, hdoc', ofDocument_congr hsame]
  unfold load loadFile
  simp only [h.found, h'.found, if_true, FileSystem.readText_eq_ok_iff.mpr h.read,
    FileSystem.readText_eq_ok_iff.mpr h'.read, htext]

end Config

/-! ## 4. The layers -/

/-- **The key store file and the export script are found in layers.**

    * A key store file that is given on the command line is seen from the working directory,
      whatever the tree, the root and the variables hold.
    * If none is given, the settings file of the project comes first: if it is there and cannot be
      read as a text, or is not of the right form, that is the end, whatever the variables hold.
      Else the path is the first of the variable, what the file gives, and the default, seen from
      the root. The export script is found in just this way from its own variable and key.
    * Each of the two is told by its own variable and what the file gives for it.
    * Other keys in the document, and tables that are missing, change nothing. -/
theorem settings_in_layers (fs : FileSystem) (root cwd : Path) (env : Environment) :
    (∀ given, keysPath fs (some given) cwd root env = .ok (cwd.join given)) ∧
    (∀ r, keysPath fs none cwd root env = r ↔ PathSetting.keysFile.Resolves fs root env r) ∧
    (∀ r, (Config.load fs root env).map (·.scriptPath root) = r ↔
      PathSetting.exportScript.Resolves fs root env r) ∧
    (∀ (s : PathSetting) fs' root' env' c c', Config.load fs root env = .ok c →
      Config.load fs' root' env' = .ok c' →
      (∀ value, env'.Overrides s.variableName value ↔ env.Overrides s.variableName value) →
      (∀ given, s.GivenBy fs root given ↔ s.GivenBy fs' root' given) → s.of c' = s.of c) ∧
    (∀ fs' text text' doc doc', Config.Reads fs root text → Config.Reads fs' root text' →
      Toml.document? text = some doc → Toml.document? text' = some doc' →
      (∀ s : PathSetting, Config.SameFor s.key (doc.find? s.table) (doc'.find? s.table)) →
      Config.load fs' root env = Config.load fs root env) := by
  refine ⟨fun given => rfl, fun r => Config.map_load_eq_iff .keysFile,
    fun r => Config.map_load_eq_iff .exportScript, ?_, ?_⟩
  · intro s fs' root' env' c c' h h' hvariable hgiven
    exact Config.of_eq_of_sources h h' hvariable hgiven
  · intro fs' text text' doc doc' h h' hdoc hdoc' hsame
    exact Config.load_congr h h' hdoc hdoc' hsame

end DeviceKeys
