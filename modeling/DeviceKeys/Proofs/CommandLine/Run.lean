import DeviceKeys.CommandLine

/-! # What every run of a command has in common

Arguments that are accepted say what is performed (`run_of_arguments`), in the project at one root
(`rootOf`) and, for `keymgr`, on one key store file (`storePath`, `WorksOn`). All of it is seen from
the working directory: a run whose working directory has been taken away fails before it does
anything (`perform_of_removed`). A run that has printed all it has to print ends with status zero if
that can be flushed, and else with status one (`flushed_cases`).
-/

namespace DeviceKeys.CommandLine

variable {launch : Launcher} {runtime : Runtime} {env : Environment} {fs : FileSystem}
  {key : DeviceKey} {args : List Bytes} {i : Invocation} {out : Output}

/-- The project root of a run. -/
def rootOf (env : Environment) (fs : FileSystem) (i : Invocation) : Path :=
  projectRoot fs i.projectRoot env (FileSystem.pathTo fs.cwd)

/-- The path of the key store file of a run. -/
def storePath (env : Environment) (fs : FileSystem) (i : Invocation) : Except ConfigFault Path :=
  keysPath fs i.keysFile (FileSystem.pathTo fs.cwd) (rootOf env fs i) env

/-- A run has a working directory, and works on the key store file at a path. -/
structure WorksOn (env : Environment) (fs : FileSystem) (i : Invocation) (path : Path) : Prop where
  cwd : fs.isDirAt fs.cwd = true
  path_eq : storePath env fs i = .ok path

theorem WorksOn.unique {path path' : Path} (h : WorksOn env fs i path)
    (h' : WorksOn env fs i path') : path' = path :=
  Except.ok.inj (h'.path_eq.symm.trans h.path_eq)

theorem WorksOn.exists_and_iff {path : Path} {p : Path → Prop} (h : WorksOn env fs i path) :
    (∃ path, WorksOn env fs i path ∧ p path) ↔ p path :=
  ⟨fun ⟨_, h', hp⟩ => h.unique h' ▸ hp, fun hp => ⟨path, h, hp⟩⟩

theorem run_of_arguments (h : Invocation.ofArguments args = .ok i) :
    run launch runtime env fs key args out = perform launch runtime env fs key i out := by
  unfold run
  rw [h]

theorem failed_nil (f : Failure) (out : Output) (fs : FileSystem) :
    failed f out "" fs = .finished f.exitStatus out (errorLine f) fs := by
  simp [failed]

theorem perform_of_isDirAt (h : fs.isDirAt fs.cwd = true) :
    perform launch runtime env fs key i out =
      performIn launch runtime env fs key i out (FileSystem.pathTo fs.cwd) := by
  unfold perform FileSystem.currentDir
  rw [if_pos h]

theorem perform_of_removed (h : ¬fs.isDirAt fs.cwd = true) :
    ∃ f, perform launch runtime env fs key i out =
      .finished exitFailure out (errorLine f) fs := by
  unfold perform FileSystem.currentDir
  rw [if_neg h]
  exact ⟨_, failed_nil _ _ _⟩

/-- The ways in which a run ends that has printed all it has to print. -/
inductive Flushed (out : Output) (messages report : String) (fs : FileSystem) : Ended → Prop
  | done {out' : Output} (flush : out.flush = (.ok (), out')) :
      Flushed out messages report fs (.finished 0 out' (messages ++ report) fs)
  | failed {e : IoFault} {f : Failure} {out' : Output} (flush : out.flush = (.error e, out')) :
      Flushed out messages report fs (.finished exitFailure out' (messages ++ errorLine f) fs)

theorem flushed_cases (out : Output) (messages report : String) (fs : FileSystem) :
    Flushed out messages report fs (flushed out messages report fs) := by
  unfold flushed
  rcases h : out.flush with ⟨e | u, out'⟩
  · exact .failed h
  · exact .done h

end DeviceKeys.CommandLine
