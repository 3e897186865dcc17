import DeviceKeys.Proofs.Manager.Effect
import DeviceKeys.Proofs.Manager.Printing

/-! # Which fault comes first

Several things can be wrong at once: an id is missing, the file holds no store, the device is not in
it, and nothing can be written. An operation ends with the first of them, in this order.

* `ActsOn`: what an operation that has its ids does with the store that it has loaded.
* `FirstFault`: the fault that comes first. Each constructor says that nothing earlier is wrong.
* `faults_in_order`: an operation ends with a fault just when that is the first one. A file that is
  not there is no fault: the operation acts on the empty store.
-/

namespace DeviceKeys.Manager

variable {fs : FileSystem} {p : Path} {key : DeviceKey} {op : Operation} {out : Output}
  {s : KeyStore} {r : Reply} {fault : ManagerFault}

/-! ## 1. With a loaded store -/

/-- What an operation that has its ids does with the store that it has loaded. -/
inductive ActsOn (fs : FileSystem) (p : Path) (key : DeviceKey) (s : KeyStore) (out : Output) :
    Operation → Reply → Prop
  | stored {id manufacturer : String} {fs' : FileSystem} (device : id ≠ "")
      (origin : manufacturer ≠ "")
      (saved : KeyFile.save fs p (s.put id ⟨manufacturer, key⟩) = (.ok (), fs')) :
      ActsOn fs p key s out (.generate (some id) (some manufacturer))
        ⟨.ok (.generated id manufacturer (s.get? id).isSome), fs', out⟩
  | notStored {id manufacturer : String} {e : IoFault} {fs' : FileSystem} (device : id ≠ "")
      (origin : manufacturer ≠ "")
      (refused : fs.replace p (s.put id ⟨manufacturer, key⟩).saved = (.error e, fs')) :
      ActsOn fs p key s out (.generate (some id) (some manufacturer))
        ⟨.error (.store (.unwritable p e)), fs', out⟩
  | dumped {output : Path} {fs' : FileSystem}
      (replaced : fs.replace output (Utf8.ofString s.keyTable) = (.ok (), fs')) :
      ActsOn fs p key s out (.cmakeDump output) ⟨.ok (.dumped output s.size), fs', out⟩
  | notDumped {output : Path} {e : IoFault} {fs' : FileSystem}
      (refused : fs.replace output (Utf8.ofString s.keyTable) = (.error e, fs')) :
      ActsOn fs p key s out (.cmakeDump output) ⟨.error (.tableUnwritable output e), fs', out⟩
  | printed {op : Operation} {id text : String} {record : KeyRecord} {pieces : List Bytes}
      {out' : Output} (prints : PrintsOf id record op pieces text) (device : id ≠ "")
      (found : s.get? id = some record) (written : out.writeAll pieces = (.ok (), out')) :
      ActsOn fs p key s out op ⟨.ok .printed, fs, out'⟩
  | notPrinted {op : Operation} {id text : String} {record : KeyRecord} {pieces : List Bytes}
      {e : IoFault} {out' : Output} (prints : PrintsOf id record op pieces text) (device : id ≠ "")
      (found : s.get? id = some record) (refused : out.writeAll pieces = (.error e, out')) :
      ActsOn fs p key s out op ⟨.error (.outputFailed e), fs, out'⟩
  | unknown {op : Operation} {id : String} (asked : op.printedDevice? = some id)
      (device : id ≠ "") (absent : s.get? id = none) :
      ActsOn fs p key s out op ⟨.error (.deviceNotFound id), fs, out⟩

/-- An operation that prints the record of a device, if there is one. -/
theorem actsOn_print {id : String} {pieces : KeyRecord → List Bytes} {text : KeyRecord → String}
    (hprints : ∀ record, PrintsOf id record op (pieces record) (text record))
    (hasked : op.printedDevice? = some id) (hid : id ≠ "") (hload : KeyFile.load fs p = .ok s) :
    ActsOn fs p key s out op
      ⟨(print out ((selected fs p (some id)).map pieces)).1, fs,
        (print out ((selected fs p (some id)).map pieces)).2⟩ := by
  rw [selected_of_loaded (given_eq_some.mpr ⟨rfl, hid⟩) hload, recordOf]
  cases hrecord : s.get? id with
  | none => exact .unknown hasked hid hrecord
  | some record =>
    have hcases := print_cases out (.ok (pieces record))
    simp only [Except.map]
    generalize print out (.ok (pieces record)) = printing at hcases ⊢
    cases hcases with
    | taken hwritten => exact .printed (hprints record) hid hrecord hwritten
    | failed hrefused => exact .notPrinted (hprints record) hid hrecord hrefused

theorem run_actsOn (hload : KeyFile.load fs p = .ok s) (h : ¬op.Lacks) :
    ActsOn fs p key s out op (run fs p key op out) := by
  cases op with
  | generate deviceId manufacturerId =>
    rw [run_generate]
    have hcases := generate_cases fs p key deviceId manufacturerId
    generalize generate fs p key deviceId manufacturerId = ended at hcases ⊢
    cases hcases with
    | missing habsent => exact absurd (lacks_generate.mpr habsent) h
    | notLoaded hl => cases hload.symm.trans hl
    | notSaved hd hm hl hs =>
      cases hload.symm.trans hl
      obtain ⟨rfl, hdevice⟩ := given_eq_some.mp hd
      obtain ⟨rfl, horigin⟩ := given_eq_some.mp hm
      obtain ⟨e, rfl, hrefused⟩ := KeyFile.replace_error_of_save hs
      exact .notStored hdevice horigin hrefused
    | stored hd hm hl hs =>
      cases hload.symm.trans hl
      obtain ⟨rfl, hdevice⟩ := given_eq_some.mp hd
      obtain ⟨rfl, horigin⟩ := given_eq_some.mp hm
      exact .stored hdevice horigin hs
  | exportKey deviceId =>
    rw [lacks_iff_of_requiredIds rfl] at h
    obtain ⟨id, hgiven⟩ := Option.ne_none_iff_exists'.mp h
    obtain ⟨rfl, hid⟩ := given_eq_some.mp hgiven
    rw [run_exportKey]
    exact actsOn_print (fun _ => .key) rfl hid hload
  | cmakeDump output =>
    rw [run_cmakeDump]
    have hcases := dump_cases fs p output
    generalize dump fs p output = ended at hcases ⊢
    cases hcases with
    | notLoaded hl => cases hload.symm.trans hl
    | notWritten hl hrefused =>
      cases hload.symm.trans hl
      exact .notDumped hrefused
    | written hl hreplaced =>
      cases hload.symm.trans hl
      exact .dumped hreplaced
  | fetchManufacturerId deviceId =>
    rw [lacks_iff_of_requiredIds rfl] at h
    obtain ⟨id, hgiven⟩ := Option.ne_none_iff_exists'.mp h
    obtain ⟨rfl, hid⟩ := given_eq_some.mp hgiven
    rw [run_fetchManufacturerId]
    exact actsOn_print (fun _ => .manufacturerId) rfl hid hload

/-- It does nothing else. -/
theorem run_eq_of_actsOn (hload : KeyFile.load fs p = .ok s) (h : ActsOn fs p key s out op r) :
    run fs p key op out = r := by
  cases h with
  | stored hd hm hs =>
    rw [run_generate, generate_of_loaded (given_eq_some.mpr ⟨rfl, hd⟩)
      (given_eq_some.mpr ⟨rfl, hm⟩) hload, hs]
  | notStored hd hm hr =>
    rw [run_generate, generate_of_loaded (given_eq_some.mpr ⟨rfl, hd⟩)
      (given_eq_some.mpr ⟨rfl, hm⟩) hload, KeyFile.save_of_replace_error hr]
  | dumped hr | notDumped hr => rw [run_cmakeDump, dump_of_loaded hload, hr]
  | printed hp hd hf hw => rw [run_of_found hp hd hload hf, print_of_written hw]
  | notPrinted hp hd hf hr => rw [run_of_found hp hd hload hf, print_of_refused hr]
  | @unknown op id ha hd hn =>
    have hselected : selected fs p (some id) = .error (.deviceNotFound id) := by
      rw [selected_of_loaded (given_eq_some.mpr ⟨rfl, hd⟩) hload, recordOf, hn]
    cases op with
    | generate | cmakeDump => cases ha
    | exportKey =>
      cases ha
      rw [run_exportKey, hselected]
      rfl
    | fetchManufacturerId =>
      cases ha
      rw [run_fetchManufacturerId, hselected]
      rfl

/-! ## 2. The order -/

/-- The fault that comes first. An id is missing; or else the file cannot be read, or holds no
    store; or else the device is not in the store; or else what is to be written is refused. -/
inductive FirstFault (fs : FileSystem) (p : Path) (key : DeviceKey) (op : Operation)
    (out : Output) : ManagerFault → Prop
  | missing (lacks : op.Lacks) : FirstFault fs p key op out (.missingArgument op.needs)
  | unreadable {e : IoFault} (complete : ¬op.Lacks) (read : fs.read p = .error e)
      (present : e ≠ .noEntry) : FirstFault fs p key op out (.store (.unreadable p e))
  | corrupt {data : Bytes} {refusal : Json.Refusal} (complete : ¬op.Lacks)
      (read : fs.read p = .ok data) (refused : KeyStore.ofJson data = .error refusal) :
      FirstFault fs p key op out (.store (.corrupt p refusal))
  | unknown {id : String} {s : KeyStore} (asked : op.printedDevice? = some id) (device : id ≠ "")
      (loaded : KeyFile.load fs p = .ok s) (absent : s.get? id = none) :
      FirstFault fs p key op out (.deviceNotFound id)
  | unwritable {id manufacturer : String} {s : KeyStore} {e : IoFault} {fs' : FileSystem}
      (stores : op = .generate (some id) (some manufacturer)) (device : id ≠ "")
      (origin : manufacturer ≠ "") (loaded : KeyFile.load fs p = .ok s)
      (refused : fs.replace p (s.put id ⟨manufacturer, key⟩).saved = (.error e, fs')) :
      FirstFault fs p key op out (.store (.unwritable p e))
  | tableUnwritable {output : Path} {s : KeyStore} {e : IoFault} {fs' : FileSystem}
      (dumps : op = .cmakeDump output) (loaded : KeyFile.load fs p = .ok s)
      (refused : fs.replace output (Utf8.ofString s.keyTable) = (.error e, fs')) :
      FirstFault fs p key op out (.tableUnwritable output e)
  | outputFailed {id text : String} {s : KeyStore} {record : KeyRecord} {pieces : List Bytes}
      {e : IoFault} {out' : Output} (prints : PrintsOf id record op pieces text) (device : id ≠ "")
      (loaded : KeyFile.load fs p = .ok s) (found : s.get? id = some record)
      (refused : out.writeAll pieces = (.error e, out')) :
      FirstFault fs p key op out (.outputFailed e)

/-- A fault is the first one just when the operation ends with it. -/
theorem result_eq_error_iff :
    (run fs p key op out).result = .error fault ↔ FirstFault fs p key op out fault := by
  constructor
  · intro h
    by_cases hlacks : op.Lacks
    · rw [run_of_missing hlacks] at h
      cases h
      exact .missing hlacks
    cases hload : KeyFile.load fs p with
    | error e =>
      rw [run_of_not_loaded hload hlacks] at h
      cases h
      rcases KeyFile.load_eq_error hload with ⟨fault, hr, hne, rfl⟩ | ⟨data, refusal, hr, hj, rfl⟩
      · exact .unreadable hlacks hr hne
      · exact .corrupt hlacks hr hj
    | ok s =>
      have hacts : ActsOn fs p key s out op (run fs p key op out) := run_actsOn hload hlacks
      generalize run fs p key op out = r at h hacts
      cases hacts with
      | stored | dumped | printed => cases h
      | notStored hd hm hr =>
        cases h
        exact .unwritable rfl hd hm hload hr
      | notDumped hr =>
        cases h
        exact .tableUnwritable rfl hload hr
      | notPrinted hp hd hf hr =>
        cases h
        exact .outputFailed hp hd hload hf hr
      | unknown ha hd hn =>
        cases h
        exact .unknown ha hd hload hn
  · intro h
    cases h with
    | missing hlacks => rw [run_of_missing hlacks]
    | unreadable hcomplete hr hne =>
      rw [run_of_not_loaded (KeyFile.load_of_fault hne hr) hcomplete]
    | corrupt hcomplete hr hj =>
      rw [run_of_not_loaded (KeyFile.load_of_refusal hr hj) hcomplete]
    | unknown ha hd hload hn => rw [run_eq_of_actsOn hload (.unknown ha hd hn)]
    | unwritable hop hd hm hload hr =>
      subst hop
      rw [run_eq_of_actsOn hload (.notStored hd hm hr)]
    | tableUnwritable hop hload hr =>
      subst hop
      rw [run_eq_of_actsOn hload (.notDumped hr)]
    | outputFailed hp hd hload hf hr => rw [run_eq_of_actsOn hload (.notPrinted hp hd hf hr)]

/-- **An operation ends with the first fault.**

    * It ends with a fault just when that is the first one (`FirstFault`).
    * If an id is missing the reply is the same whatever the tree holds: it asks for the id, and
      leaves tree and output as they are.
    * A key file that is not there is no fault. An operation that has its ids then does what it does
      with the empty store. -/
theorem faults_in_order (fs : FileSystem) (p : Path) (key : DeviceKey) (op : Operation)
    (out : Output) :
    (∀ fault, (run fs p key op out).result = .error fault ↔ FirstFault fs p key op out fault) ∧
    (op.Lacks → ∀ fs p key out,
      run fs p key op out = ⟨.error (.missingArgument op.needs), fs, out⟩) ∧
    (fs.read p = .error .noEntry → ¬op.Lacks →
      ActsOn fs p key .empty out op (run fs p key op out)) := by
  refine ⟨fun fault => result_eq_error_iff, fun hlacks fs p key out => run_of_missing hlacks,
    fun hread hcomplete => ?_⟩
  exact run_actsOn (KeyFile.load_of_noEntry hread) hcomplete

end DeviceKeys.Manager
