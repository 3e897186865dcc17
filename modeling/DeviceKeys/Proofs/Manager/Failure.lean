import DeviceKeys.Proofs.KeyFile
import DeviceKeys.Proofs.Manager.Run

/-! # What a failure leaves

* An operation that fails leaves every file, link and directory as it was. What it may have added
  are directories, and no file stands in them (`grownBy_of_run_error`).
* It has printed nothing, or a strict part of the value if the output failed (`print_error`).
* `failure_leaves_what_stood` says both, and the first also of the two steps below an operation:
  saving a store, and replacing a file.
-/

namespace DeviceKeys.Manager

open FileSystem

variable {fs fs' : FileSystem} {p : Path} {key : DeviceKey} {out out' : Output} {op : Operation}
  {deviceId manufacturerId : Option String} {fault : ManagerFault}

/-! ## 1. The tree -/

theorem grownBy_of_save_error {s : KeyStore} {e : StoreFault}
    (h : KeyFile.save fs p s = (.error e, fs')) : GrownBy fs fs' := by
  obtain ⟨io, -, hrep⟩ := KeyFile.replace_error_of_save h
  exact grownBy_of_replace_error hrep

theorem grownBy_of_generate_error
    (h : generate fs p key deviceId manufacturerId = (.error fault, fs')) : GrownBy fs fs' := by
  have hcases := generate_cases fs p key deviceId manufacturerId
  rw [h] at hcases
  cases hcases with
  | missing _ => exact .refl fs
  | notLoaded _ => exact .refl fs
  | notSaved _ _ _ hsave => exact grownBy_of_save_error hsave

theorem grownBy_of_dump_error {output : Path} (h : dump fs p output = (.error fault, fs')) :
    GrownBy fs fs' := by
  have hcases := dump_cases fs p output
  rw [h] at hcases
  cases hcases with
  | notLoaded _ => exact .refl fs
  | notWritten _ hrep => exact grownBy_of_replace_error hrep

theorem grownBy_of_run_error (h : (run fs p key op out).result = .error fault) :
    GrownBy fs (run fs p key op out).fs := by
  cases op with
  | generate deviceId manufacturerId =>
    rw [run_generate] at h ⊢
    exact grownBy_of_generate_error (Prod.ext h rfl)
  | exportKey deviceId =>
    rw [run_exportKey]
    exact .refl fs
  | cmakeDump output =>
    rw [run_cmakeDump] at h ⊢
    exact grownBy_of_dump_error (Prod.ext h rfl)
  | fetchManufacturerId deviceId =>
    rw [run_fetchManufacturerId]
    exact .refl fs

/-! ## 2. The output -/

/-- The fault is one of the output: then a strict part of some bytes has been printed in front of
    which nothing waited. With any other fault nothing has been printed. -/
def PrintsPart (out : Output) (fault : ManagerFault) (whole : Bytes) (out' : Output) : Prop :=
  (∀ e, fault ≠ .outputFailed e) ∧ out' = out ∨
    (∃ e, fault = .outputFailed e) ∧ (out.waiting = [] → ∃ part,
      out'.printed = out.printed ++ part ∧ part <+: whole ∧ part.length < whole.length)

theorem print_error {value : Except ManagerFault (List Bytes)}
    (hne : ∀ e, value ≠ .error (.outputFailed e)) (h : (print out value).1 = .error fault) :
    PrintsPart out fault (print .unlimited value).2.printed (print out value).2 := by
  have hcases := print_cases out value
  rcases hp : print out value with ⟨r, out'⟩
  rw [hp] at h hcases
  cases hcases with
  | nothing _ =>
    cases h
    exact .inl ⟨fun e he => hne e (he ▸ rfl), rfl⟩
  | taken _ => cases h
  | @failed pieces e _ hw =>
    cases h
    refine .inr ⟨⟨e, rfl⟩, fun hwait => ?_⟩
    have htook := Output.took_writeAll (o := out) (by simp [Output.Bounded, hwait]) pieces
    rw [hw] at htook
    rw [print_unlimited]
    cases htook with
    | part hgrown hwithin hlt =>
      obtain ⟨part, hpart⟩ := hgrown
      simp only [Output.content, hwait, List.append_nil] at hwithin hlt
      rw [← hpart] at hwithin hlt
      refine ⟨part, hpart.symm, (List.prefix_append_right_inj _).mp hwithin, ?_⟩
      rw [List.length_append, List.length_append] at hlt
      exact Nat.lt_of_add_lt_add_left hlt

theorem selected_map_ne_outputFailed (pieces : KeyRecord → List Bytes) (e : IoFault) :
    (selected fs p deviceId).map pieces ≠ .error (.outputFailed e) := by
  have hne := selected_ne_outputFailed fs p deviceId e
  cases hs : selected fs p deviceId with
  | ok record => simp [Except.map]
  | error fault =>
    rw [hs] at hne
    simpa [Except.map] using hne

theorem generate_ne_outputFailed (e : IoFault) :
    (generate fs p key deviceId manufacturerId).1 ≠ .error (.outputFailed e) := by
  have hcases := generate_cases fs p key deviceId manufacturerId
  generalize generate fs p key deviceId manufacturerId = r at hcases ⊢
  cases hcases <;> simp

theorem dump_ne_outputFailed {output : Path} (e : IoFault) :
    (dump fs p output).1 ≠ .error (.outputFailed e) := by
  have hcases := dump_cases fs p output
  generalize dump fs p output = r at hcases ⊢
  cases hcases <;> simp

theorem printsPart_of_run_error (h : (run fs p key op out).result = .error fault) :
    PrintsPart out fault (run fs p key op .unlimited).out.printed (run fs p key op out).out := by
  cases op with
  | generate deviceId manufacturerId =>
    rw [run_generate] at h ⊢
    exact .inl ⟨fun e he => generate_ne_outputFailed e (he ▸ h), rfl⟩
  | exportKey deviceId =>
    rw [run_exportKey] at h ⊢
    rw [run_exportKey]
    exact print_error (selected_map_ne_outputFailed keyPieces) h
  | cmakeDump output =>
    rw [run_cmakeDump] at h ⊢
    exact .inl ⟨fun e he => dump_ne_outputFailed e (he ▸ h), rfl⟩
  | fetchManufacturerId deviceId =>
    rw [run_fetchManufacturerId] at h ⊢
    rw [run_fetchManufacturerId]
    exact print_error (selected_map_ne_outputFailed manufacturerPieces) h

/-! ## 3. Every failure -/

/-- **A failure leaves what stood as it was.** When an operation, the saving of a store or the
    replacement of a file fails, every file, link and directory is as before, and nothing but
    directories stands at or below a location where nothing stood. An operation that fails has
    printed nothing, or the output has failed with a strict part of what an output without a limit
    would have been given. -/
theorem failure_leaves_what_stood (fs : FileSystem) (p : Path) :
    (∀ fs', ((∃ key op out fault, (run fs p key op out).result = .error fault ∧
          (run fs p key op out).fs = fs') ∨
        (∃ s e, KeyFile.save fs p s = (.error e, fs')) ∨
        ∃ data e, fs.replace p data = (.error e, fs')) →
      GrownBy fs fs' ∧ ∀ l below e, fs.get? l = none → fs'.get? (below ++ l) = some e →
        e.isDir = true) ∧
    ∀ key op out fault, (run fs p key op out).result = .error fault →
      PrintsPart out fault (run fs p key op .unlimited).out.printed
        (run fs p key op out).out := by
  refine ⟨fun fs' h => ?_, fun key op out fault h => printsPart_of_run_error h⟩
  have hgrown : GrownBy fs fs' := by
    rcases h with ⟨key, op, out, fault, h, rfl⟩ | ⟨s, e, h⟩ | ⟨data, e, h⟩
    · exact grownBy_of_run_error h
    · exact grownBy_of_save_error h
    · exact grownBy_of_replace_error h
  exact ⟨hgrown, fun l below e hl he => hgrown.isDir_below hl he⟩

/-- A medium that takes nothing more. -/
def fullMedium : FileSystem :=
  FileSystem.empty.withChance { Chance.plain with writeFault := some .noSpace }

/-- The write to the temporary file fails, and the file is gone again. -/
example : fullMedium.replace (Path.ofString "keys.json") [0x7B] =
    (.error (.atPath .noSpace (Path.ofString "/./.tmp000000")), fullMedium) := by
  rfl

end DeviceKeys.Manager
