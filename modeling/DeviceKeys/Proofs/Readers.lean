import DeviceKeys.Proofs.FileSystem.Interleaving
import DeviceKeys.Proofs.KeyFile

/-! # What readers see while stores are saved

Several writers save stores to one path, call by call and in any order, and some of them stop for
good on the way. `readers_see_whole_stores` says what the path reads as and what it loads as, at any
moment: what it did before any writer had moved its file, and after that the whole of one store.
`FileSystem.replace`, and with it every save, is such a run of calls (`runs_of_replace`).
-/

namespace DeviceKeys.KeyFile

open FileSystem

variable {ι : Type} {fs : FileSystem} {p : Path} {contents : ι → Bytes} {σ : Scene ι}

/-- **Readers see whole contents.** At first the path reads as a file, or its last component is told
    to be missing (or too long for a name, in which case nothing is ever moved there). So it stays
    until a writer has moved its file. From then on it reads as the whole contents of one that has.
    A path that reads as a file does so ever after. If all contents are saved stores, and the path
    loads at first, it loads at any moment: as what it was at first, or as one of these stores. -/
theorem readers_see_whole_stores (hbegins : Begins fs p)
    (h : Runs p contents (Scene.beginning ι fs) σ) :
    ((∃ old, fs.read p = .ok old) ∨ ∃ name, p.components.getLast? = some (.down name) ∧
        fs.read p = .error (if nameLimit < name.length then .nameTooLong else .noEntry)) ∧
      ((∀ i, σ.stage i ≠ .done) → σ.fs.read p = fs.read p) ∧
      (∀ i τ, σ.stage i = .done → Runs p contents σ τ →
        ∃ j, τ.stage j = .done ∧ τ.fs.read p = .ok (contents j)) ∧
      (∀ data τ, σ.fs.read p = .ok data → Runs p contents σ τ →
        τ.fs.read p = .ok data ∨ ∃ j, τ.stage j = .done ∧ τ.fs.read p = .ok (contents j)) ∧
      ∀ (s : KeyStore) (stores : ι → KeyStore), (∀ i, contents i = (stores i).saved) →
        fs.read p = .ok s.saved ∨ load fs p = .ok s →
          load σ.fs p = .ok s ∨ ∃ j, σ.stage j = .done ∧ load σ.fs p = .ok (stores j) := by
  have hmoment {τ : Scene ι} (hτ : Runs p contents σ τ) := read_during_runs hbegins (h.trans hτ)
  have hnow := read_during_runs hbegins h
  refine ⟨hbegins.read, hnow.1, fun i τ hi hτ => ?_, fun data τ hdata hτ => ?_,
    fun s stores hstores hs => ?_⟩
  · exact (hmoment hτ).2 i (done_of_runs hτ hi)
  · by_cases hd : ∃ i, τ.stage i = .done
    · obtain ⟨i, hi⟩ := hd
      exact .inr ((hmoment hτ).2 i hi)
    · -- no file had been moved before either
      have hτ' : ∀ i, τ.stage i ≠ .done := not_exists.mp hd
      have hσ : ∀ i, σ.stage i ≠ .done := fun i hi => hτ' i (done_of_runs hτ hi)
      rw [(hmoment hτ).1 hτ', ← hnow.1 hσ, hdata]
      exact .inl rfl
  · by_cases hd : ∃ i, σ.stage i = .done
    · obtain ⟨i, hi⟩ := hd
      obtain ⟨j, hj, hread⟩ := hnow.2 i hi
      exact .inr ⟨j, hj, load_of_read_saved (hstores j ▸ hread)⟩
    · rw [load_congr (hnow.1 (not_exists.mp hd))]
      exact .inl (hs.elim load_of_read_saved id)

/-- **A replacement is a run of such calls**, with none of others in between, if the path does not
    end in the name of a temporary file. -/
theorem runs_of_replace [DecidableEq ι] {i : ι}
    (hp : ∀ tag, p.components.getLast? ≠ some (.down (temporaryName tag)))
    (hi : σ.stage i = .start) : Runs p contents σ
      ⟨(σ.fs.replace p (contents i)).2,
        Function.update σ.stage i (endStage (σ.fs.replace p (contents i)).1)⟩ :=
  runs_of_calls (hi ▸ calls_of_replace hp σ.fs (contents i))

/-- The store file, and a link to it. -/
def linkedFile : FileSystem :=
  (FileSystem.empty.put [Utf8.ofString "keys.json"] (.file 0o600 oneDevice.saved)).put
    [Utf8.ofString "L"] (.link (Path.ofString "keys.json"))

/-- The stores of two writers. -/
def rivals : Bool → KeyStore
  | true => KeyStore.empty
  | false => oneDevice.put "e" ⟨"n", someKey⟩

/-- The name of the temporary file of one writer. -/
def halfName : Path.Name := temporaryName (Tag.ofNat 7)

/-- The link, once that writer has written all but the last byte of its temporary file and has
    stopped. -/
def halfWritten : FileSystem :=
  (linkedFile.put [halfName] (.file temporaryMode [])).append [halfName] [0x7B, 0x7D]

theorem calls_halfWritten : Calls (Path.ofString "L") (rivals true).saved (linkedFile, .start)
    (halfWritten, .writing (linkedFile.replaceTarget (Path.ofString "L")) [halfName] [0x0A]) := by
  have hbase : (linkedFile.temporaryBase (holderPath
      (linkedFile.replaceTarget (Path.ofString "L")))).toOption = some (Path.ofString "/") := by
    decide +kernel
  have hvacant : (linkedFile.vacant ((Path.ofString "/").join ⟨halfName⟩)).toOption =
      some [halfName] := by decide +kernel
  have hcreate : linkedFile.createFile ((Path.ofString "/").join ⟨halfName⟩) temporaryMode =
      .ok ([halfName], linkedFile.put [halfName] (.file temporaryMode [])) := by
    unfold createFile
    rw [eq_ok_of_toOption hvacant]
    rfl
  have hlast : (Path.ofString "L").components.getLast? ≠ some (.down halfName) := by
    decide +kernel
  have hdata : (rivals true).saved = [0x7B, 0x7D] ++ [0x0A] := by decide +kernel
  refine (Call.resolve linkedFile).calls.trans
    ((Call.create (eq_ok_of_toOption hbase) (isName_temporaryName _) hlast hcreate).calls.trans ?_)
  rw [hdata]
  exact (Call.write _ _ _ _ _).calls

/-- The other writer saves its store meanwhile, and that is what the path loads as. -/
theorem readers_see_the_finished_store : ∃ σ : Scene Bool,
    Runs (Path.ofString "L") (fun b => (rivals b).saved) (Scene.beginning Bool linkedFile) σ ∧
      (∃ target t, σ.stage true = .writing target t [0x0A]) ∧
      load σ.fs (Path.ofString "L") = .ok (rivals false) := by
  have hread : (linkedFile.read (Path.ofString "L")).toOption = some oneDevice.saved := by
    decide +kernel
  have hok : (halfWritten.replace (Path.ofString "L") (rivals false).saved).1.toBool = true := by
    decide +kernel
  have hlast : ∀ tag, (Path.ofString "L").components.getLast? ≠
      some (.down (temporaryName tag)) := by
    intro tag htag
    cases htag
  obtain ⟨u, fs', hrep⟩ := exists_eq_ok hok
  have hstopped : Runs (Path.ofString "L") (fun b => (rivals b).saved)
      (Scene.beginning Bool linkedFile) ⟨halfWritten, _⟩ :=
    runs_of_calls (i := true) calls_halfWritten
  have hrun := hstopped.trans (runs_of_replace (i := false) hlast rfl)
  simp only [hrep] at hrun
  obtain ⟨j, hj, hsaved⟩ := (readers_see_whole_stores (.inl ⟨_, eq_ok_of_toOption hread⟩)
    hrun).2.2.1 false _ rfl .refl
  cases j with
  | true => cases hj
  | false => exact ⟨_, hrun, ⟨_, _, rfl⟩, load_of_read_saved hsaved⟩

end DeviceKeys.KeyFile
