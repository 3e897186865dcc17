import DeviceKeys.Proofs.CommandLine.Run
import DeviceKeys.Proofs.Manager.Effect
import DeviceKeys.Proofs.Manager.Generate
import DeviceKeys.Proofs.StandardOutput

/-! # How a run of the key manager ends

* `keymgr_cases`: the ways in which a run of `keymgr` ends, on the standard output of a process.
* `keymgr_exits`: what its exit status tells. It is zero just when the operation has taken effect as
  a whole and its value has reached standard output; each other status has its own cause, and then
  nothing is printed and nothing but directories is new.
-/

namespace DeviceKeys

open FileSystem (GrownBy)
open Manager (TakesEffect Unknown)

/-- An operation that prints something leaves the tree as it is. -/
theorem Manager.TakesEffect.fs_eq {fs fs' : FileSystem} {p : Path} {key : DeviceKey}
    {op : Operation} {value : Bytes} (h : TakesEffect fs p key op fs' value) (hne : value ≠ []) :
    fs' = fs := by
  cases h with
  | generated | dumped => exact absurd rfl hne
  | exported | fetched => rfl

namespace CommandLine

variable {launch : Launcher} {runtime : Runtime} {env : Environment} {fs : FileSystem}
  {key : DeviceKey} {args : List Bytes} {i : Invocation} {flags : KeymgrFlags} {out : Output}

/-! ## 1. The ways to end -/

/-- The ways in which a run of `keymgr` ends on the standard output of a process. -/
inductive KeymgrEnds (env : Environment) (fs : FileSystem) (key : DeviceKey) (i : Invocation)
    (op : Operation) (out : Output) : Ended → Prop
  | done {path : Path} {value : Bytes} {out' : Output} {messages : String} {fs' : FileSystem}
      (works : WorksOn env fs i path) (effect : TakesEffect fs path key op fs' value)
      (printed : out'.printed = value) (waiting : out'.waiting = [])
      (room : out = .standard ∨ value = []) :
      KeymgrEnds env fs key i op out (.finished 0 out' messages fs')
  | unprinted {path : Path} {value : Bytes} {out' : Output} {messages : String}
      (works : WorksOn env fs i path) (effect : TakesEffect fs path key op fs value)
      (full : out = .full) (value_ne : value ≠ [])
      (nothing : out'.printed = [] ∧ out'.flush.2.printed = []) :
      KeymgrEnds env fs key i op out (.finished exitFailure out' messages fs)
  | lacks {path : Path} {messages : String} (works : WorksOn env fs i path)
      (lacks : op.Lacks) : KeymgrEnds env fs key i op out (.finished exitUsage out messages fs)
  | unknown {path : Path} {messages : String} (works : WorksOn env fs i path)
      (unknown : Unknown fs path op) :
      KeymgrEnds env fs key i op out (.finished exitNotFound out messages fs)
  | failed {messages : String} {fs' : FileSystem}
      (other : ∀ path, WorksOn env fs i path → ¬op.Lacks ∧ ¬Unknown fs path op ∧
        ∀ fs' value, ¬TakesEffect fs path key op fs' value)
      (grown : GrownBy fs fs') :
      KeymgrEnds env fs key i op out (.finished exitFailure out messages fs')

/-- A run on a key store file. -/
theorem runKeymgr_cases {path : Path} (key : DeviceKey) (flags : KeymgrFlags) (styled : Bool)
    (hpath : WorksOn env fs i path)
    (hout : out.IsStandard) : KeymgrEnds env fs key i flags.operation out
      (runKeymgr styled flags path key fs out) := by
  have hends := Manager.run_cases fs path key flags.operation out
  unfold runKeymgr
  simp only
  generalize Manager.run fs path key flags.operation out = reply at hends ⊢
  cases hends with
  | @done outcome fs' pieces out' heffect hwrite =>
    have hflushed := flushed_cases out' (warning styled flags)
      (((outcome.status? styled).map (statusLine styled)).getD "") fs'
    simp only
    generalize flushed out' (warning styled flags) _ fs' = ended at hflushed ⊢
    cases hflushed with
    | done hflush =>
      obtain ⟨hprinted, hwaiting⟩ := hout.printed_eq hwrite hflush
      refine .done hpath heffect hprinted hwaiting (hout.imp id fun hfull => ?_)
      subst hfull
      exact Output.full_takes_iff.mp ⟨_, _, hwrite, hflush⟩
    | failed hflush =>
      obtain ⟨hfull, hne, hnothing⟩ := hout.of_flush_error hwrite hflush
      obtain rfl := heffect.fs_eq hne
      exact .unprinted hpath heffect hfull hne hnothing
  | refused heffect hwrite =>
    obtain ⟨hfull, hne, hnothing⟩ := hout.of_error hwrite
    exact .unprinted hpath heffect hfull hne hnothing
  | lacks hlacks => exact .lacks hpath hlacks
  | unknown hunknown => exact .unknown hpath hunknown
  | @failed fault fs' hgeneral hcomplete hknown hnone hgrown =>
    have hstatus : (⟨.manager fault, []⟩ : Failure).exitStatus = exitFailure := hgeneral
    simp only [failed, hstatus]
    refine .failed (fun path' hpath' => ?_) hgrown
    obtain rfl := hpath.unique hpath'
    exact ⟨hcomplete, hknown, hnone⟩

theorem keymgr_cases (launch : Launcher) (runtime : Runtime) (env : Environment) (fs : FileSystem)
    (key : DeviceKey) (hc : i.command = .keymgr flags) (hout : out.IsStandard) :
    KeymgrEnds env fs key i flags.operation out (perform launch runtime env fs key i out) := by
  by_cases hcwd : fs.isDirAt fs.cwd = true
  · rw [perform_of_isDirAt hcwd]
    unfold performIn
    simp only [hc]
    cases hpath : storePath env fs i with
    | error e =>
      have hnone : ∀ path, storePath env fs i ≠ .ok path := by simp [hpath]
      unfold storePath rootOf at hpath
      simp only [hpath]
      exact .failed (fun path h => absurd h.path_eq (hnone path)) (.refl fs)
    | ok path =>
      have hends := runKeymgr_cases key flags (Style.inUse env) ⟨hcwd, hpath⟩ hout
      unfold storePath rootOf at hpath
      simp only [hpath]
      exact hends
  · obtain ⟨f, hfailed⟩ : ∃ f, perform launch runtime env fs key i out =
        .finished exitFailure out (errorLine f) fs := perform_of_removed hcwd
    rw [hfailed]
    exact .failed (fun path h => absurd h.cwd hcwd) (.refl fs)

/-- A run that asks for a device that is not in the store says so. -/
theorem KeymgrEnds.of_unknown {path : Path} {op : Operation} {ended : Ended}
    (h : KeymgrEnds env fs key i op out ended) (hworks : WorksOn env fs i path)
    (hunknown : Unknown fs path op) :
    ∃ messages, ended = .finished exitNotFound out messages fs := by
  cases h with
  | done hpath heffect | unprinted hpath heffect =>
    obtain rfl := hworks.unique hpath
    exact absurd hunknown heffect.not_unknown
  | lacks _ hlacks => exact absurd hlacks hunknown.not_lacks
  | unknown => exact ⟨_, rfl⟩
  | failed hother => exact absurd hunknown (hother _ hworks).2.1

/-- A run that has all its ids, and cannot load the store, fails. -/
theorem KeymgrEnds.of_not_loaded {path : Path} {op : Operation} {ended : Ended} {e : StoreFault}
    (h : KeymgrEnds env fs key i op out ended) (hworks : WorksOn env fs i path)
    (hids : ¬op.Lacks) (hload : KeyFile.load fs path = .error e) :
    ∃ messages fs', ended = .finished exitFailure out messages fs' := by
  cases h with
  | done hpath heffect | unprinted hpath heffect =>
    obtain rfl := hworks.unique hpath
    obtain ⟨s, hs⟩ := heffect.exists_loaded
    cases hload.symm.trans hs
  | lacks _ hlacks => exact absurd hlacks hids
  | unknown hpath hunknown =>
    obtain rfl := hworks.unique hpath
    obtain ⟨-, s, -, -, hs, -⟩ := hunknown
    cases hload.symm.trans hs
  | failed => exact ⟨_, _, rfl⟩

/-! ## 2. The exit status -/

/-- **What the exit status of `keymgr` tells.** A run on a standard output that takes everything, or
    is full, ends

    * with status zero just when there is a working directory and the key store file is known, the
      operation has taken effect as a whole, and its value, byte for byte, is what has reached
      standard output, which it does unless standard output is full and there is something to print;
    * with status two just when the key store file is known and an id is missing or empty;
    * with status three just when the key store file is known and loads, and the device whose value
      is to be printed is not in it;
    * with status one otherwise, so always if the working directory has been taken away.

    If the status is not zero, nothing reaches standard output, what stood in the tree stands there
    as it was, and nothing but directories is new. -/
theorem keymgr_exits (launch : Launcher) (runtime : Runtime) (env : Environment) (fs : FileSystem)
    (key : DeviceKey) (h : Invocation.ofArguments args = .ok i) (hc : i.command = .keymgr flags)
    (hout : out.IsStandard) :
    ∃ status out' messages fs',
      run launch runtime env fs key args out = .finished status out' messages fs' ∧
      (status = 0 ↔ ∃ path value, WorksOn env fs i path ∧
        TakesEffect fs path key flags.operation fs' value ∧ out'.printed = value) ∧
      (∀ path fs'' value, WorksOn env fs i path →
        TakesEffect fs path key flags.operation fs'' value →
          fs'' = fs' ∧ (out'.printed = value ↔ out = .standard ∨ value = [])) ∧
      (status = 2 ↔ ∃ path, WorksOn env fs i path ∧ flags.operation.Lacks) ∧
      (status = 3 ↔ ∃ path, WorksOn env fs i path ∧ Unknown fs path flags.operation) ∧
      status ∈ [0, 1, 2, 3] ∧
      (status = 0 → out'.waiting = []) ∧
      (status ≠ 0 → out'.printed = [] ∧ out'.flush.2.printed = [] ∧ GrownBy fs fs' ∧
        ∀ l below e, fs.get? l = none → fs'.get? (below ++ l) = some e → e.isDir = true) := by
  rw [run_of_arguments h]
  have hends := keymgr_cases launch runtime env fs key hc hout
  have hbefore : out.printed = [] ∧ out.flush.2.printed = [] := by
    rcases hout with rfl | rfl <;> exact ⟨rfl, rfl⟩
  have hdirs : ∀ {fs' : FileSystem}, GrownBy fs fs' → GrownBy fs fs' ∧
      ∀ l below e, fs.get? l = none → fs'.get? (below ++ l) = some e → e.isDir = true :=
    fun hgrown => ⟨hgrown, fun _ _ _ hl he => hgrown.isDir_below hl he⟩
  generalize perform launch runtime env fs key i out = ended at hends ⊢
  cases hends with
  | @done path value out' messages fs' hpath heffect hprinted hwaiting hroom =>
    refine ⟨_, _, _, _, rfl, ?_, fun path' fs'' value' hpath' heffect' => ?_, ?_, ?_, by simp,
      fun _ => hwaiting, fun hne => absurd rfl hne⟩
    · exact ⟨fun _ => ⟨path, value, hpath, heffect, hprinted⟩, fun _ => rfl⟩
    · obtain rfl := hpath.unique hpath'
      obtain ⟨rfl, rfl⟩ := heffect'.unique heffect
      exact ⟨rfl, by simp [hprinted, hroom]⟩
    · simp [heffect.not_lacks]
    · simpa [hpath.exists_and_iff] using heffect.not_unknown
  | @unprinted path value out' messages hpath heffect hfull hne hnothing =>
    refine ⟨_, _, _, _, rfl, ⟨nofun, fun ⟨path', value', hpath', heffect', hprinted⟩ => ?_⟩,
      fun path' fs'' value' hpath' heffect' => ?_, ?_, ?_, by simp [exitFailure], nofun,
      fun _ => ⟨hnothing.1, hnothing.2, hdirs (.refl fs)⟩⟩
    · obtain rfl := hpath.unique hpath'
      obtain ⟨-, rfl⟩ := heffect'.unique heffect
      exact absurd (hprinted.symm.trans hnothing.1) hne
    · obtain rfl := hpath.unique hpath'
      obtain ⟨rfl, rfl⟩ := heffect'.unique heffect
      exact ⟨rfl, by simp [hnothing.1, hne, hne.symm, hfull, Output.full_ne_standard]⟩
    · simp [exitFailure, heffect.not_lacks]
    · simpa [exitFailure, hpath.exists_and_iff] using heffect.not_unknown
  | @lacks path messages hpath hlacks =>
    refine ⟨_, _, _, _, rfl, ⟨nofun, fun ⟨_, _, _, heffect, _⟩ => absurd hlacks heffect.not_lacks⟩,
      fun _ _ _ _ heffect => absurd hlacks heffect.not_lacks, ?_, ?_, by simp [exitUsage], nofun,
      fun _ => ⟨hbefore.1, hbefore.2, hdirs (.refl fs)⟩⟩
    · exact ⟨fun _ => ⟨path, hpath, hlacks⟩, fun _ => rfl⟩
    · exact ⟨nofun, fun ⟨_, _, hunknown⟩ => absurd hlacks hunknown.not_lacks⟩
  | @unknown path messages hpath hunknown =>
    have hnone : ∀ {path' fs' value}, WorksOn env fs i path' →
        ¬TakesEffect fs path' key flags.operation fs' value := fun hpath' heffect => by
      obtain rfl := hpath.unique hpath'
      exact heffect.not_unknown hunknown
    refine ⟨_, _, _, _, rfl,
      ⟨nofun, fun ⟨_, _, hpath', heffect, _⟩ => absurd heffect (hnone hpath')⟩,
      fun _ _ _ hpath' heffect => absurd heffect (hnone hpath'), ?_, ?_, by simp [exitNotFound],
      nofun, fun _ => ⟨hbefore.1, hbefore.2, hdirs (.refl fs)⟩⟩
    · exact ⟨nofun, fun ⟨_, _, hlacks⟩ => absurd hlacks hunknown.not_lacks⟩
    · exact ⟨fun _ => ⟨path, hpath, hunknown⟩, fun _ => rfl⟩
  | @failed messages fs' hother hgrown =>
    refine ⟨_, _, _, _, rfl, ⟨nofun, fun ⟨_, _, hpath, heffect, _⟩ => ?_⟩,
      fun _ _ _ hpath heffect => absurd heffect ((hother _ hpath).2.2 _ _), ?_, ?_,
      by simp [exitFailure], nofun, fun _ => ⟨hbefore.1, hbefore.2, hdirs hgrown⟩⟩
    · exact absurd heffect ((hother _ hpath).2.2 _ _)
    · exact ⟨nofun, fun ⟨_, hpath, hlacks⟩ => absurd hlacks (hother _ hpath).1⟩
    · exact ⟨nofun, fun ⟨_, hpath, hunknown⟩ => absurd hunknown (hother _ hpath).2.1⟩

/-- The arguments that ask for the key of a device that is not in the file `keys.json`. -/
def unknownArguments : List Bytes :=
  ["--keys-file", "keys.json", "keymgr", "--export-key", "--dev-id", "e"].map Utf8.ofString

/-- A run that asks for a device that is not in the store. -/
theorem keymgr_exits_unknown : ∃ out messages fs,
    run (fun _ _ fs => (.notStarted .noEntry, fs)) ⟨0, "", ""⟩ ⟨[]⟩ Manager.oneDeviceFile
      KeyFile.someKey unknownArguments .full = .finished 3 out messages fs ∧ out.printed = [] := by
  have hread : (Manager.oneDeviceFile.read (Path.ofString "/keys.json")).toOption =
      some KeyFile.oneDevice.saved := by decide +kernel
  have hload := KeyFile.load_of_read_saved (KeyFile.eq_ok_of_toOption hread)
  have hargs : Invocation.ofArguments unknownArguments = .ok
      ⟨none, some (Path.ofString "keys.json"), .keymgr ⟨false, some "e", none, true, none⟩⟩ := by
    rfl
  obtain ⟨status, out, messages, fs, hrun, -, -, -, hunknown, -, -, hfailed⟩ := keymgr_exits
    (fun _ _ fs => (.notStarted .noEntry, fs)) ⟨0, "", ""⟩ ⟨[]⟩ Manager.oneDeviceFile
    KeyFile.someKey hargs rfl (.inr rfl)
  obtain rfl := hunknown.mpr ⟨Path.ofString "/keys.json", ⟨rfl, by rfl⟩, "e", _, rfl, by decide,
    hload, by decide +kernel⟩
  exact ⟨out, messages, fs, hrun, (hfailed (by decide)).1⟩

end CommandLine

end DeviceKeys
