import DeviceKeys.Proofs.CommandLine.Run
import DeviceKeys.Proofs.Config.Layers

/-! # The variables of a run of the key manager

A run looks at the variables for the project root and for the settings as paths
(`rootOf_congr`, `storePath_congr`), so a value counts byte for byte if it is a text, and is passed
over if it is none (`overrides_in_force`).
-/

namespace DeviceKeys.CommandLine

open Environment (Blank)
open FileSystem (pathTo)

variable {launch : Launcher} {runtime : Runtime} {env env' : Environment} {fs : FileSystem}
  {key : DeviceKey} {args : List Bytes} {i : Invocation} {flags : KeymgrFlags} {out : Output}
  {v : Bytes} {p : Path}

/-! ## 1. What a run looks at -/

theorem rootOf_congr
    (hroot : env'.path? Environment.projectRoot = env.path? Environment.projectRoot) :
    rootOf env' fs i = rootOf env fs i := by
  unfold rootOf projectRoot
  rw [hroot]

theorem storePath_congr
    (hroot : env'.path? Environment.projectRoot = env.path? Environment.projectRoot)
    (hkeys : env'.path? Environment.keysFile = env.path? Environment.keysFile)
    (hscript : env'.path? Environment.exportScript = env.path? Environment.exportScript) :
    storePath env' fs i = storePath env fs i := by
  have hoverride (c : Config) : c.override env' = c.override env := by
    unfold Config.override
    rw [hkeys, hscript]
  unfold storePath keysPath Config.load
  rw [rootOf_congr hroot]
  simp only [hoverride]

theorem rootOf_of_variable (hi : i.projectRoot = none)
    (hp : env.path? Environment.projectRoot = some p) :
    rootOf env fs i = (pathTo fs.cwd).join p := by
  unfold rootOf projectRoot
  rw [hi, hp]

theorem storePath_of_variable {c : Config} (hi : i.keysFile = none)
    (hload : Config.load fs (rootOf env fs i) env = .ok c)
    (hp : env.path? Environment.keysFile = some p) :
    storePath env fs i = .ok ((rootOf env fs i).join p) := by
  obtain ⟨given, -, hforce⟩ := Config.exists_givenBy hload .keysFile
  have hkeys : c.keysFile = p := by
    have hof := PathSetting.inForce_iff.mp hforce
    rwa [show env.path? PathSetting.keysFile.variableName = some p from hp] at hof
  unfold storePath keysPath
  rw [hi, hload]
  exact congrArg (fun q => Except.ok ((rootOf env fs i).join q)) hkeys

theorem run_of_worksOn (h : Invocation.ofArguments args = .ok i)
    (hc : i.command = .keymgr flags) (hworks : WorksOn env fs i p) :
    run launch runtime env fs key args out = runKeymgr (Style.inUse env) flags p key fs out := by
  have hpath := hworks.path_eq
  unfold storePath rootOf at hpath
  rw [run_of_arguments h, perform_of_isDirAt hworks.cwd]
  unfold performIn
  simp only [hc, hpath]

/-! ## 2. What counts -/

/-- A value that is no text is as good as none. -/
theorem storePath_of_not_isText (h : env.bindings.lookup Environment.keysFile = some v)
    (htext : ¬Utf8.IsText v) :
    storePath (env.without Environment.keysFile) fs i = storePath env fs i := by
  refine storePath_congr ?_ ?_ ?_
  · exact Environment.path?_congr fun _ => Environment.overrides_without_of_ne (by decide)
  · rw [Environment.path?_without_self, Environment.path?_of_not_isText h htext]
  · exact Environment.path?_congr fun _ => Environment.overrides_without_of_ne (by decide)

theorem rootOf_of_not_isText (h : env.bindings.lookup Environment.projectRoot = some v)
    (htext : ¬Utf8.IsText v) :
    rootOf (env.without Environment.projectRoot) fs i = rootOf env fs i := by
  refine rootOf_congr ?_
  rw [Environment.path?_without_self, Environment.path?_of_not_isText h htext]

/-- What is told by a text, and else by what comes after it. -/
theorem eq_iff_of_text {α : Type} {a later told : α} (htext : Utf8.IsText v → a = told)
    (hother : ¬Utf8.IsText v → later = a) : a = told ↔ Utf8.IsText v ∨ later = told := by
  by_cases h : Utf8.IsText v
  · simp [h, htext h]
  · simp [h, hother h]

/-- **A value that is not blank is in force just when it is a text**, or what comes after it leads
    to the same path.

    * With no key store file on the command line, and settings that load, the run works on the value
      of the variable, byte for byte, seen from the project root.
    * With no project root on the command line, the root is the value of the variable, byte for
      byte, seen from the working directory.

    The run does its work on the key store file that is told in this way, if it has a working
    directory. -/
theorem overrides_in_force (launch : Launcher) (runtime : Runtime) (env : Environment)
    (fs : FileSystem) (key : DeviceKey) (out : Output) (h : Invocation.ofArguments args = .ok i)
    (hc : i.command = .keymgr flags) :
    (i.keysFile = none → ∀ v, env.bindings.lookup Environment.keysFile = some v → ¬Blank v →
      ∀ c, Config.load fs (rootOf env fs i) env = .ok c →
        (storePath env fs i = .ok ((rootOf env fs i).join ⟨v⟩) ↔
          Utf8.IsText v ∨ storePath (env.without Environment.keysFile) fs i =
            .ok ((rootOf env fs i).join ⟨v⟩))) ∧
    (i.projectRoot = none → ∀ v, env.bindings.lookup Environment.projectRoot = some v → ¬Blank v →
      (rootOf env fs i = (pathTo fs.cwd).join ⟨v⟩ ↔
        Utf8.IsText v ∨ rootOf (env.without Environment.projectRoot) fs i =
          (pathTo fs.cwd).join ⟨v⟩)) ∧
    (∀ p, WorksOn env fs i p → run launch runtime env fs key args out =
      runKeymgr (Style.inUse env) flags p key fs out) := by
  refine ⟨fun hi v hv hblank c hload => ?_, fun hi v hv hblank => ?_,
    fun p hp => run_of_worksOn h hc hp⟩
  · exact eq_iff_of_text
      (fun htext => storePath_of_variable hi hload (Environment.path?_of_isText hv hblank htext))
      (storePath_of_not_isText hv)
  · exact eq_iff_of_text
      (fun htext => rootOf_of_variable hi (Environment.path?_of_isText hv hblank htext))
      (rootOf_of_not_isText hv)

/-- The arguments that ask for the manufacturer of a device. -/
def fetchArguments : List Bytes := ["keymgr", "--dev-id", "d"].map Utf8.ofString

/-- What these arguments say. -/
def fetchInvocation : Invocation :=
  ⟨none, none, .keymgr ⟨false, some "d", none, false, none⟩⟩

theorem ofArguments_fetch : Invocation.ofArguments fetchArguments = .ok fetchInvocation := by rfl

/-- An environment that names the key store file with blanks around. -/
def blanksAround : Environment := ⟨[(Environment.keysFile, Utf8.ofString " k ")]⟩

/-- Blanks around a value belong to it. -/
theorem override_keeps_blanks :
    storePath blanksAround FileSystem.empty fetchInvocation = .ok (Path.ofString "/ k ") := by
  have hload : Config.load FileSystem.empty (rootOf blanksAround FileSystem.empty fetchInvocation)
      blanksAround = .ok ⟨Path.ofString " k ", Config.default.exportScript⟩ := by rfl
  have hblank : ¬Blank (Utf8.ofString " k ") :=
    mt Environment.blank_ofString_iff.mp (by decide)
  exact ((overrides_in_force (fun _ _ fs => (.notStarted .noEntry, fs)) ⟨0, "", ""⟩ blanksAround
    FileSystem.empty ⟨List.replicate keyLength 7, rfl⟩ .standard ofArguments_fetch rfl).1 rfl _ rfl
      hblank _ hload).mpr (.inl ⟨" k ".toList, rfl⟩)

/-- An environment that names the key store file by a byte that is no text. -/
def noText : Environment := ⟨[(Environment.keysFile, [0xFF])]⟩

/-- A value that is no text is passed over: the run works on the default key store file. -/
theorem override_is_passed_over :
    Invocation.ofArguments fetchArguments = .ok fetchInvocation ∧
    fetchInvocation.keysFile = none ∧
    noText.bindings.lookup Environment.keysFile = some [0xFF] ∧ ¬Blank [0xFF] ∧
    Config.load FileSystem.empty (rootOf noText FileSystem.empty fetchInvocation) noText =
      .ok Config.default ∧
    storePath noText FileSystem.empty fetchInvocation = .ok (Path.ofString "/keys.json") ∧
    storePath noText FileSystem.empty fetchInvocation ≠
      .ok ((rootOf noText FileSystem.empty fetchInvocation).join ⟨[0xFF]⟩) := by
  have htext : ¬Utf8.IsText [0xFF] := by
    rintro ⟨cs, hcs⟩
    have hnone : (Utf8.decode [0xFF]).toOption = none := by decide
    rw [Utf8.decode_eq_ok_iff.mpr hcs] at hnone
    cases hnone
  have hpath : storePath noText FileSystem.empty fetchInvocation =
      .ok (Path.ofString "/keys.json") := by rfl
  have hroot : rootOf noText FileSystem.empty fetchInvocation = Path.ofString "/" := by rfl
  refine ⟨ofArguments_fetch, rfl, rfl, Environment.not_blank_of_not_isText htext, by rfl, hpath, ?_⟩
  rw [hpath, hroot]
  exact fun h => absurd (Except.ok.inj h) (by decide)

end DeviceKeys.CommandLine
