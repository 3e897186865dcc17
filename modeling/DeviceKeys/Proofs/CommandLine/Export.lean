import DeviceKeys.Proofs.CommandLine.Run
import DeviceKeys.Proofs.KeyFile
import DeviceKeys.Proofs.StandardOutput
import DeviceKeys.Proofs.Text.Decoding

/-! # How an export of compile commands ends

* `Exports`: what the script of a project exports, if there is a working directory, the settings
  load, the script starts and ends with status zero, and what it has printed is a text.
* `export_cases`: the ways in which a run of `export-compile-commands` ends.
* `export_prints_all_or_nothing`: it ends with status zero just when what the script exports has
  reached standard output. Otherwise nothing has, and the run reports a failure with status one,
  unless it breaks off while it prints (`export_breaks_off`).
-/

namespace DeviceKeys.CommandLine

variable {launch : Launcher} {runtime : Runtime} {env : Environment} {fs fs' : FileSystem}
  {key : DeviceKey} {args : List Bytes} {i : Invocation} {out out' : Output} {script root : Path}
  {text : Bytes}

/-! ## 1. What is exported -/

theorem exported_eq_ok_iff {r : ScriptRun} : exported script r = .ok text ↔
    (∃ err, r = .ended (.exited 0) text err) ∧ ∃ cs, text = Utf8.encode cs := by
  constructor
  · intro h
    unfold exported at h
    split at h
    · cases h
    · rename_i out err
      split at h
      · rename_i cs hdecode
        cases h
        exact ⟨⟨err, rfl⟩, cs, Utf8.decode_eq_ok_iff.mp hdecode⟩
      · cases h
    · cases h
  · rintro ⟨⟨err, rfl⟩, cs, hcs⟩
    simp only [exported, Utf8.decode_eq_ok_iff.mpr hcs]

/-- There is a working directory, the settings load, the script starts and ends with status zero,
    and what it has printed is a text in UTF-8. -/
structure Exports (launch : Launcher) (env : Environment) (fs : FileSystem) (i : Invocation)
    (text : Bytes) : Prop where
  cwd : fs.isDirAt fs.cwd = true
  ended : ∃ config err, Config.load fs (rootOf env fs i) env = .ok config ∧
    (launch (config.scriptPath (rootOf env fs i)) (rootOf env fs i) fs).1 =
      .ended (.exited 0) text err
  isText : ∃ cs, text = Utf8.encode cs

/-- One run of the script exports one text. -/
theorem Exports.unique {text' : Bytes} (h : Exports launch env fs i text)
    (h' : Exports launch env fs i text') : text = text' := by
  obtain ⟨config, err, hload, hrun⟩ := h.ended
  obtain ⟨config', err', hload', hrun'⟩ := h'.ended
  obtain rfl : config = config' := Except.ok.inj (hload.symm.trans hload')
  cases hrun.symm.trans hrun'
  rfl

theorem Exports.exists_and_iff {p : Bytes → Prop} (h : Exports launch env fs i text) :
    (∃ text, Exports launch env fs i text ∧ p text) ↔ p text :=
  ⟨fun ⟨_, h', hp⟩ => h'.unique h ▸ hp, fun hp => ⟨text, h, hp⟩⟩

/-! ## 2. The ways to end -/

/-- The ways in which a run of `export-compile-commands` ends. -/
inductive ExportEnds (launch : Launcher) (runtime : Runtime) (env : Environment) (fs : FileSystem)
    (i : Invocation) (out : Output) : Ended → Prop
  | printed {text : Bytes} {out' out'' : Output} {fs' : FileSystem}
      (exports : Exports launch env fs i text) (written : out.write text = (.ok (), out'))
      (flushed : out'.flush = (.ok (), out'')) :
      ExportEnds launch runtime env fs i out (.finished 0 out'' "" fs')
  | notFlushed {text : Bytes} {out' out'' : Output} {fs' : FileSystem} {e : IoFault} {f : Failure}
      (exports : Exports launch env fs i text) (written : out.write text = (.ok (), out'))
      (flushed : out'.flush = (.error e, out'')) :
      ExportEnds launch runtime env fs i out (.finished exitFailure out'' (errorLine f) fs')
  | broken {text : Bytes} {out' : Output} {fs' : FileSystem} {e : IoFault}
      (exports : Exports launch env fs i text) (written : out.write text = (.error e, out')) :
      ExportEnds launch runtime env fs i out (.finished exitBroken out' (brokenText runtime e) fs')
  | failed {f : Failure} {fs' : FileSystem} (none : ∀ text, ¬ Exports launch env fs i text) :
      ExportEnds launch runtime env fs i out (.finished exitFailure out (errorLine f) fs')

theorem runExport_cases {config : Config} (launch : Launcher) (runtime : Runtime) (out : Output)
    (hcwd : fs.isDirAt fs.cwd = true)
    (hload : Config.load fs (rootOf env fs i) env = .ok config) :
    ExportEnds launch runtime env fs i out (runExport launch runtime
      (config.scriptPath (rootOf env fs i)) (rootOf env fs i) fs out) := by
  unfold runExport
  rcases hrun : launch (config.scriptPath (rootOf env fs i)) (rootOf env fs i) fs with ⟨r, fs'⟩
  simp only
  cases hexp : exported (config.scriptPath (rootOf env fs i)) r with
  | error e =>
    have hstatus : (⟨.script e, []⟩ : Failure).exitStatus = exitFailure := by cases e <;> rfl
    simp only [failed_nil, hstatus]
    refine .failed fun text htext => ?_
    obtain ⟨config', err, hload', hended⟩ := htext.ended
    obtain rfl : config = config' := Except.ok.inj (hload.symm.trans hload')
    rw [hrun] at hended
    have hok : exported (config.scriptPath (rootOf env fs i)) r = .ok text :=
      exported_eq_ok_iff.mpr ⟨⟨err, hended⟩, htext.isText⟩
    rw [hexp] at hok
    cases hok
  | ok text =>
    obtain ⟨⟨err, rfl⟩, htext⟩ := exported_eq_ok_iff.mp hexp
    have hexports : Exports launch env fs i text :=
      ⟨hcwd, ⟨config, err, hload, by rw [hrun]⟩, htext⟩
    simp only
    rcases hwrite : out.write text with ⟨e | u, out'⟩
    · exact .broken hexports hwrite
    simp only
    have hflushed := flushed_cases out' "" "" fs'
    generalize flushed out' "" "" fs' = ended at hflushed ⊢
    cases hflushed with
    | done hflush => exact .printed hexports hwrite hflush
    | @failed e f out'' hflush =>
      rw [String.empty_append]
      exact .notFlushed hexports hwrite hflush

theorem export_cases (launch : Launcher) (runtime : Runtime) (env : Environment) (fs : FileSystem)
    (key : DeviceKey) (out : Output) (h : i.command = .exportCompileCommands) :
    ExportEnds launch runtime env fs i out (perform launch runtime env fs key i out) := by
  by_cases hcwd : fs.isDirAt fs.cwd = true
  · rw [perform_of_isDirAt hcwd]
    unfold performIn
    simp only [h]
    cases hload : Config.load fs (rootOf env fs i) env with
    | error e =>
      unfold rootOf at hload
      simp only [hload, configFailed, failed_nil]
      refine .failed fun text htext => ?_
      obtain ⟨config, err, hok, -⟩ := htext.ended
      unfold rootOf at hok
      rw [hload] at hok
      cases hok
    | ok config =>
      have hends := runExport_cases launch runtime out hcwd hload
      unfold rootOf at hload hends
      simp only [hload]
      exact hends
  · obtain ⟨f, hfailed⟩ : ∃ f, perform launch runtime env fs key i out =
        .finished exitFailure out (errorLine f) fs := perform_of_removed hcwd
    rw [hfailed]
    exact .failed fun text htext => hcwd htext.cwd

/-! ## 3. On standard output -/

/-- **An export prints all or nothing.** A run of `export-compile-commands` ends with status zero
    just when what the script exports has reached standard output, which it does unless standard
    output is full. Otherwise nothing reaches it, and the run ends with status one and the line for
    a failure; but where standard output is full, and what is to be printed ends a line or fills
    what may wait, the run breaks off, and tells so. -/
theorem export_prints_all_or_nothing (launch : Launcher) (runtime : Runtime) (env : Environment)
    (fs : FileSystem) (key : DeviceKey) (h : Invocation.ofArguments args = .ok i)
    (hc : i.command = .exportCompileCommands) (hout : out.IsStandard) :
    ∃ status out' messages fs',
      run launch runtime env fs key args out = .finished status out' messages fs' ∧
      (status = 0 ↔ ∃ text, Exports launch env fs i text ∧ out'.printed = text) ∧
      (∀ text, Exports launch env fs i text →
        (out'.printed = text ↔ out = .standard ∨ text = [])) ∧
      (status = 0 → out'.waiting = []) ∧
      (status ≠ 0 → out'.printed = [] ∧ out'.flush.2.printed = []) ∧
      (status = exitBroken ↔ ∃ text, Exports launch env fs i text ∧
        out = .full ∧ (0x0A ∈ text ∨ Output.lineCapacity ≤ text.length)) ∧
      (status ≠ 0 → status ≠ exitBroken → status = exitFailure ∧ ∃ f, messages = errorLine f) ∧
      (status = exitBroken → ∃ e, messages = brokenText runtime e) := by
  rw [run_of_arguments h]
  have hends := export_cases launch runtime env fs key out hc
  generalize perform launch runtime env fs key i out = ended at hends ⊢
  cases hends with
  | @printed text out' out'' fs' hexports hwrite hflush =>
    have hfits : ¬∃ e o', out.write text = (.error e, o') := by simp [hwrite]
    rw [← Output.writeAll_singleton] at hwrite
    obtain ⟨hprinted, hwaiting⟩ := hout.printed_eq hwrite hflush
    rw [List.flatten_singleton] at hprinted
    refine ⟨_, _, _, _, rfl, ?_, fun t ht => ?_, fun _ => hwaiting, by simp, ?_, by simp, nofun⟩
    · rw [hexports.exists_and_iff]
      simp [hprinted]
    · obtain rfl := hexports.unique ht
      have hdone : out = .standard ∨ text = [] := hout.imp id fun hfull => by
        subst hfull
        simpa using Output.full_takes_iff.mp ⟨_, _, hwrite, hflush⟩
      simp [hprinted, hdone]
    · rw [hexports.exists_and_iff]
      simpa [exitBroken] using mt hout.write_error_iff.mpr hfits
  | @notFlushed text out' out'' fs' e f hexports hwrite hflush =>
    have hfits : ¬∃ e o', out.write text = (.error e, o') := by simp [hwrite]
    rw [← Output.writeAll_singleton] at hwrite
    obtain ⟨rfl, hne, hnothing⟩ := hout.of_flush_error hwrite hflush
    rw [List.flatten_singleton] at hne
    refine ⟨_, _, _, _, rfl, ?_, fun t ht => ?_, by simp [exitFailure], fun _ => hnothing, ?_,
      fun _ _ => ⟨rfl, f, rfl⟩, nofun⟩
    · rw [hexports.exists_and_iff]
      simpa [exitFailure, hnothing.1] using hne.symm
    · obtain rfl := hexports.unique ht
      simp [hnothing.1, hne, hne.symm, Output.full_ne_standard]
    · rw [hexports.exists_and_iff]
      simpa [exitBroken, exitFailure] using mt hout.write_error_iff.mpr hfits
  | @broken text out' fs' e hexports hwrite =>
    have hbreaks := hout.write_error_iff.mp ⟨e, out', hwrite⟩
    rw [← Output.writeAll_singleton] at hwrite
    obtain ⟨rfl, hne, hnothing⟩ := hout.of_error hwrite
    rw [List.flatten_singleton] at hne
    refine ⟨_, _, _, _, rfl, ?_, fun t ht => ?_, by simp [exitBroken], fun _ => hnothing, ?_,
      by simp, fun _ => ⟨e, rfl⟩⟩
    · rw [hexports.exists_and_iff]
      simpa [exitBroken, hnothing.1] using hne.symm
    · obtain rfl := hexports.unique ht
      simp [hnothing.1, hne, hne.symm, Output.full_ne_standard]
    · rw [hexports.exists_and_iff]
      simpa using hbreaks
  | @failed f fs' hnone =>
    refine ⟨_, _, _, _, rfl, ?_, fun t ht => absurd ht (hnone t), by simp [exitFailure],
      fun _ => ?_, ?_, fun _ _ => ⟨rfl, f, rfl⟩, nofun⟩
    · simp [hnone, exitFailure]
    · rcases hout with rfl | rfl <;> exact ⟨rfl, rfl⟩
    · simp [hnone, exitFailure, exitBroken]

/-- A script that prints some bytes and ends well. -/
def printing (text : Bytes) : Launcher := fun _ _ fs => (.ended (.exited 0) text [], fs)

/-- The arguments for an export. -/
def exportArguments : List Bytes := [Utf8.ofString "export-compile-commands"]

/-- What is told of a run that breaks off, if nothing is. -/
def untold : Runtime := ⟨0, "", ""⟩

/-- What the arguments for an export say. -/
def exportInvocation : Invocation := ⟨none, none, .exportCompileCommands⟩

theorem exports_printing (cs : List Char) : Exports (printing (Utf8.encode cs)) ⟨[]⟩
    FileSystem.empty exportInvocation (Utf8.encode cs) where
  cwd := rfl
  ended := ⟨.default, [], by rfl, rfl⟩
  isText := ⟨cs, rfl⟩

/-- An export of an empty list. -/
theorem export_prints_brackets : ∃ out messages fs,
    run (printing (Utf8.ofString "[]")) untold ⟨[]⟩ FileSystem.empty KeyFile.someKey
        exportArguments .standard = .finished 0 out messages fs ∧
      out.printed = Utf8.ofString "[]" := by
  have hexports := exports_printing "[]".toList
  have hargs : Invocation.ofArguments exportArguments = .ok exportInvocation := by rfl
  obtain ⟨status, out, messages, fs, hrun, hzero, hdone, -⟩ := export_prints_all_or_nothing
    (printing (Utf8.ofString "[]")) untold ⟨[]⟩ FileSystem.empty KeyFile.someKey hargs rfl
    (.inl rfl)
  have hprinted := (hdone _ hexports).mpr (.inl rfl)
  obtain rfl := hzero.mpr ⟨_, hexports, hprinted⟩
  exact ⟨out, messages, fs, hrun, hprinted⟩

/-- A full standard output and one line to print: the run breaks off. -/
theorem export_breaks_off : ∃ out messages fs,
    Exports (printing [0x0A]) ⟨[]⟩ FileSystem.empty exportInvocation [0x0A] ∧
      run (printing [0x0A]) untold ⟨[]⟩ FileSystem.empty KeyFile.someKey exportArguments .full =
        .finished exitBroken out messages fs :=
  ⟨_, _, _, exports_printing ['\n'], rfl⟩

end DeviceKeys.CommandLine
