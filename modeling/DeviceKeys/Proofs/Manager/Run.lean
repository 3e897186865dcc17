import DeviceKeys.Manager
import DeviceKeys.Proofs.Output

/-! # What an operation comes to

Every way in which an operation on the key store can end, told by what happened to the file and to
the output.

* `generate_cases`: an id is missing, the store does not load, it is not saved, or it is saved.
* `dump_cases`: the store does not load, the key table is not written, or it is.
* `selected_of_loaded`: the record that is printed, once the store has been loaded.
* `print_cases`: nothing is printed because there is no value, or the output took the pieces or
  failed.
-/

namespace DeviceKeys.Manager

variable {fs fs' : FileSystem} {p : Path} {key : DeviceKey} {s : KeyStore}
  {deviceId manufacturerId : Option String} {out : Output}

theorem given_eq_some {value : Option String} {v : String} :
    given value = some v ↔ value = some v ∧ v ≠ "" := by
  unfold given
  rw [Option.filter_eq_some_iff]
  simp

theorem load_of_error {e : StoreFault} (h : KeyFile.load fs p = .error e) :
    load fs p = .error (.store e) := by
  unfold load
  rw [h]
  rfl

theorem load_of_ok (h : KeyFile.load fs p = .ok s) : load fs p = .ok s := by
  unfold load
  rw [h]
  rfl

/-! ## 1. Storing a drawn key -/

theorem generate_of_missing (h : given deviceId = none ∨ given manufacturerId = none) :
    generate fs p key deviceId manufacturerId = (.error (.missingArgument bothIds), fs) := by
  unfold generate
  rcases h with h | h
  · rw [h]
  · rw [h]
    cases given deviceId <;> rfl

theorem generate_of_not_loaded {id manufacturer : String} {e : StoreFault}
    (hd : given deviceId = some id) (hm : given manufacturerId = some manufacturer)
    (hl : KeyFile.load fs p = .error e) :
    generate fs p key deviceId manufacturerId = (.error (.store e), fs) := by
  unfold generate
  rw [hd, hm, load_of_error hl]

/-- With both ids and a loaded store, `generate` is the saving of the store with the record. -/
theorem generate_of_loaded {id manufacturer : String} (hd : given deviceId = some id)
    (hm : given manufacturerId = some manufacturer) (hl : KeyFile.load fs p = .ok s) :
    generate fs p key deviceId manufacturerId =
      match KeyFile.save fs p (s.put id ⟨manufacturer, key⟩) with
      | (.ok (), fs) => (.ok (.generated id manufacturer (s.get? id).isSome), fs)
      | (.error e, fs) => (.error (.store e), fs) := by
  unfold generate
  rcases hs : KeyFile.save fs p (s.put id ⟨manufacturer, key⟩) with ⟨e | u, fs'⟩
  · simp only [hd, hm, load_of_ok hl, KeyStore.insert, hs]
  · simp only [hd, hm, load_of_ok hl, KeyStore.insert, hs]

/-- The ways in which `generate` ends. -/
inductive Generates (fs : FileSystem) (p : Path) (key : DeviceKey)
    (deviceId manufacturerId : Option String) : Except ManagerFault Outcome × FileSystem → Prop
  | missing (absent : given deviceId = none ∨ given manufacturerId = none) :
      Generates fs p key deviceId manufacturerId (.error (.missingArgument bothIds), fs)
  | notLoaded {e : StoreFault} (loaded : KeyFile.load fs p = .error e) :
      Generates fs p key deviceId manufacturerId (.error (.store e), fs)
  | notSaved {id manufacturer : String} {s : KeyStore} {e : StoreFault} {fs' : FileSystem}
      (device : given deviceId = some id) (origin : given manufacturerId = some manufacturer)
      (loaded : KeyFile.load fs p = .ok s)
      (saved : KeyFile.save fs p (s.put id ⟨manufacturer, key⟩) = (.error e, fs')) :
      Generates fs p key deviceId manufacturerId (.error (.store e), fs')
  | stored {id manufacturer : String} {s : KeyStore} {fs' : FileSystem}
      (device : given deviceId = some id) (origin : given manufacturerId = some manufacturer)
      (loaded : KeyFile.load fs p = .ok s)
      (saved : KeyFile.save fs p (s.put id ⟨manufacturer, key⟩) = (.ok (), fs')) :
      Generates fs p key deviceId manufacturerId
        (.ok (.generated id manufacturer (s.get? id).isSome), fs')

theorem generate_cases (fs : FileSystem) (p : Path) (key : DeviceKey)
    (deviceId manufacturerId : Option String) :
    Generates fs p key deviceId manufacturerId
      (generate fs p key deviceId manufacturerId) := by
  cases hd : given deviceId with
  | none =>
    rw [generate_of_missing (.inl hd)]
    exact .missing (.inl hd)
  | some id =>
    cases hm : given manufacturerId with
    | none =>
      rw [generate_of_missing (.inr hm)]
      exact .missing (.inr hm)
    | some manufacturer =>
      cases hl : KeyFile.load fs p with
      | error e =>
        rw [generate_of_not_loaded hd hm hl]
        exact .notLoaded hl
      | ok s =>
        rw [generate_of_loaded hd hm hl]
        rcases hs : KeyFile.save fs p (s.put id ⟨manufacturer, key⟩) with ⟨e | u, fs'⟩
        · exact .notSaved hd hm hl hs
        · exact .stored hd hm hl hs

/-! ## 2. Writing the key table -/

/-- With a loaded store, `dump` is the replacement of the file by the table. -/
theorem dump_of_loaded {output : Path} (hl : KeyFile.load fs p = .ok s) : dump fs p output =
    match fs.replace output (Utf8.ofString s.keyTable) with
    | (.ok (), fs) => (.ok (.dumped output s.size), fs)
    | (.error e, fs) => (.error (.tableUnwritable output e), fs) := by
  unfold dump
  rcases hr : fs.replace output (Utf8.ofString s.keyTable) with ⟨e | u, fs'⟩
  · simp only [load_of_ok hl, hr]
  · simp only [load_of_ok hl, hr]

/-- The ways in which `dump` ends. -/
inductive Dumps (fs : FileSystem) (p output : Path) :
    Except ManagerFault Outcome × FileSystem → Prop
  | notLoaded {e : StoreFault} (loaded : KeyFile.load fs p = .error e) :
      Dumps fs p output (.error (.store e), fs)
  | notWritten {s : KeyStore} {e : IoFault} {fs' : FileSystem} (loaded : KeyFile.load fs p = .ok s)
      (replaced : fs.replace output (Utf8.ofString s.keyTable) = (.error e, fs')) :
      Dumps fs p output (.error (.tableUnwritable output e), fs')
  | written {s : KeyStore} {fs' : FileSystem} (loaded : KeyFile.load fs p = .ok s)
      (replaced : fs.replace output (Utf8.ofString s.keyTable) = (.ok (), fs')) :
      Dumps fs p output (.ok (.dumped output s.size), fs')

theorem dump_cases (fs : FileSystem) (p output : Path) :
    Dumps fs p output (dump fs p output) := by
  cases hl : KeyFile.load fs p with
  | error e =>
    unfold dump
    rw [load_of_error hl]
    exact .notLoaded hl
  | ok s =>
    rw [dump_of_loaded hl]
    rcases hr : fs.replace output (Utf8.ofString s.keyTable) with ⟨e | u, fs'⟩
    · exact .notWritten hl hr
    · exact .written hl hr

/-! ## 3. The record that is printed -/

/-- Without an id nothing is looked up. -/
theorem selected_of_missing (h : given deviceId = none) :
    selected fs p deviceId = .error (.missingArgument deviceIdOnly) := by
  unfold selected
  rw [h]

theorem selected_of_given {id : String} (h : given deviceId = some id) :
    selected fs p deviceId = (load fs p).bind fun s => recordOf s id := by
  unfold selected
  rw [h]
  rfl

/-- The record is that of the loaded store. -/
theorem selected_of_loaded {id : String} (h : given deviceId = some id)
    (hl : KeyFile.load fs p = .ok s) : selected fs p deviceId = recordOf s id := by
  rw [selected_of_given h, load_of_ok hl]
  rfl

theorem selected_ne_outputFailed (fs : FileSystem) (p : Path) (deviceId : Option String)
    (e : IoFault) :
    selected fs p deviceId ≠ .error (.outputFailed e) := by
  cases hd : given deviceId with
  | none =>
    rw [selected_of_missing hd]
    simp
  | some id =>
    cases hl : KeyFile.load fs p with
    | error e =>
      rw [selected_of_given hd, load_of_error hl]
      simp [Except.bind]
    | ok s =>
      rw [selected_of_loaded hd hl, recordOf]
      split <;> simp

/-! ## 4. Printing -/

/-- The ways in which `print` ends. -/
inductive Prints (out : Output) :
    Except ManagerFault (List Bytes) → Except ManagerFault Outcome × Output → Prop
  | nothing (fault : ManagerFault) : Prints out (.error fault) (.error fault, out)
  | taken {pieces : List Bytes} {out' : Output} (written : out.writeAll pieces = (.ok (), out')) :
      Prints out (.ok pieces) (.ok .printed, out')
  | failed {pieces : List Bytes} {e : IoFault} {out' : Output}
      (written : out.writeAll pieces = (.error e, out')) :
      Prints out (.ok pieces) (.error (.outputFailed e), out')

theorem print_cases (out : Output) (value : Except ManagerFault (List Bytes)) :
    Prints out value (print out value) := by
  unfold print
  cases value with
  | error fault => exact .nothing fault
  | ok pieces =>
    simp only
    rcases hw : out.writeAll pieces with ⟨e | u, out'⟩
    · exact .failed hw
    · exact .taken hw

theorem print_of_written {pieces : List Bytes} {out' : Output}
    (h : out.writeAll pieces = (.ok (), out')) :
    print out (.ok pieces) = (.ok .printed, out') := by
  unfold print
  simp only [h]

theorem print_of_refused {pieces : List Bytes} {e : IoFault} {out' : Output}
    (h : out.writeAll pieces = (.error e, out')) :
    print out (.ok pieces) = (.error (.outputFailed e), out') := by
  unfold print
  simp only [h]

/-- What an output without a limit prints of some pieces. -/
theorem print_unlimited (pieces : List Bytes) :
    print .unlimited (.ok pieces) = (.ok .printed, ⟨⟨pieces.flatten, none, .noSpace⟩, 0, []⟩) :=
  print_of_written (Output.writeAll_unlimited pieces)

/-! ## 5. One operation -/

theorem run_generate : run fs p key (.generate deviceId manufacturerId) out =
    ⟨(generate fs p key deviceId manufacturerId).1,
      (generate fs p key deviceId manufacturerId).2, out⟩ := by
  simp only [run]

theorem run_exportKey : run fs p key (.exportKey deviceId) out =
    ⟨(print out ((selected fs p deviceId).map keyPieces)).1, fs,
      (print out ((selected fs p deviceId).map keyPieces)).2⟩ := by
  simp only [run]

theorem run_cmakeDump {output : Path} : run fs p key (.cmakeDump output) out =
    ⟨(dump fs p output).1, (dump fs p output).2, out⟩ := by
  simp only [run]

theorem run_fetchManufacturerId : run fs p key (.fetchManufacturerId deviceId) out =
    ⟨(print out ((selected fs p deviceId).map manufacturerPieces)).1, fs,
      (print out ((selected fs p deviceId).map manufacturerPieces)).2⟩ := by
  simp only [run]

end DeviceKeys.Manager
