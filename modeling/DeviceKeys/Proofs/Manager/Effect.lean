import DeviceKeys.Proofs.FileSystem.Landing
import DeviceKeys.Proofs.Manager.Failure

/-! # Every way in which an operation ends

* `TakesEffect`: what an operation does when it takes effect as a whole: the tree it leaves, and the
  value it prints. Both are determined (`TakesEffect.unique`).
* `Operation.Lacks`, `Unknown`: an id it needs is missing, or the device whose value it is to print
  is not in the store. No two of the three go together.
* `run_cases`: an operation ends in one of these ways, or the output refuses the value, or it fails
  otherwise and nothing but directories is new.
-/

namespace DeviceKeys

/-- The ids that an operation needs. -/
def Operation.requiredIds : Operation → List (Option String)
  | .generate deviceId manufacturerId => [deviceId, manufacturerId]
  | .exportKey deviceId => [deviceId]
  | .cmakeDump _ => []
  | .fetchManufacturerId deviceId => [deviceId]

/-- An id that the operation needs is missing or empty. -/
def Operation.Lacks (op : Operation) : Prop := ∃ id ∈ op.requiredIds, id = none ∨ id = some ""

/-- What is asked for when an id is missing. -/
def Operation.needs : Operation → String
  | .generate _ _ => Manager.bothIds
  | _ => Manager.deviceIdOnly

/-- The device whose key or manufacturer id an operation prints. -/
def Operation.printedDevice? : Operation → Option String
  | .exportKey deviceId => deviceId
  | .fetchManufacturerId deviceId => deviceId
  | _ => none

namespace Manager

open FileSystem

variable {fs fs' : FileSystem} {p : Path} {key : DeviceKey} {op : Operation} {out : Output}
  {deviceId manufacturerId : Option String} {value value' : Bytes}

/-! ## 1. What an operation does -/

/-- What an operation leaves and prints when it takes effect as a whole. -/
inductive TakesEffect (fs : FileSystem) (p : Path) (key : DeviceKey) :
    Operation → FileSystem → Bytes → Prop
  | generated {id manufacturer : String} {s : KeyStore} {fs' : FileSystem} (device : id ≠ "")
      (origin : manufacturer ≠ "") (loaded : KeyFile.load fs p = .ok s)
      (saved : KeyFile.save fs p (s.put id ⟨manufacturer, key⟩) = (.ok (), fs'))
      (gives : ∃ k mode, Gives fs p (s.put id ⟨manufacturer, key⟩).saved fs' k mode) :
      TakesEffect fs p key (.generate (some id) (some manufacturer)) fs' []
  | dumped {output : Path} {s : KeyStore} {fs' : FileSystem} (loaded : KeyFile.load fs p = .ok s)
      (replaced : fs.replace output (Utf8.ofString s.keyTable) = (.ok (), fs'))
      (gives : ∃ k mode, Gives fs output (Utf8.ofString s.keyTable) fs' k mode) :
      TakesEffect fs p key (.cmakeDump output) fs' []
  | exported {id : String} {s : KeyStore} {record : KeyRecord} (device : id ≠ "")
      (loaded : KeyFile.load fs p = .ok s) (found : s.get? id = some record) :
      TakesEffect fs p key (.exportKey (some id)) fs
        (Utf8.encode (record.key.bytes.flatMap hexPair) ++ [0x0A])
  | fetched {id : String} {s : KeyStore} {record : KeyRecord} (device : id ≠ "")
      (loaded : KeyFile.load fs p = .ok s) (found : s.get? id = some record) :
      TakesEffect fs p key (.fetchManufacturerId (some id)) fs
        (Utf8.ofString record.manufacturerId)

/-- The device whose value is to be printed is not in the store. -/
def Unknown (fs : FileSystem) (p : Path) (op : Operation) : Prop :=
  ∃ id s, op.printedDevice? = some id ∧ id ≠ "" ∧ KeyFile.load fs p = .ok s ∧ s.get? id = none

theorem TakesEffect.unique (h : TakesEffect fs p key op fs' value) {fs'' : FileSystem}
    (h' : TakesEffect fs p key op fs'' value') : fs' = fs'' ∧ value = value' := by
  cases h with
  | generated _ _ hl hs _ =>
    cases h' with
    | generated _ _ hl' hs' _ =>
      cases hl.symm.trans hl'
      cases hs.symm.trans hs'
      exact ⟨rfl, rfl⟩
  | dumped hl hr _ =>
    cases h' with
    | dumped hl' hr' _ =>
      cases hl.symm.trans hl'
      cases hr.symm.trans hr'
      exact ⟨rfl, rfl⟩
  | exported _ hl hf =>
    cases h' with
    | exported _ hl' hf' =>
      cases hl.symm.trans hl'
      cases hf.symm.trans hf'
      exact ⟨rfl, rfl⟩
  | fetched _ hl hf =>
    cases h' with
    | fetched _ hl' hf' =>
      cases hl.symm.trans hl'
      cases hf.symm.trans hf'
      exact ⟨rfl, rfl⟩

theorem TakesEffect.not_lacks (h : TakesEffect fs p key op fs' value) : ¬op.Lacks := by
  cases h <;> simp_all [Operation.Lacks, Operation.requiredIds]

theorem TakesEffect.not_unknown (h : TakesEffect fs p key op fs' value) : ¬Unknown fs p op := by
  rintro ⟨id, s, hid, -, hl, hnone⟩
  cases h with
  | generated => cases hid
  | dumped => cases hid
  | exported _ hl' hf | fetched _ hl' hf =>
    cases hid
    cases hl.symm.trans hl'
    rw [hnone] at hf
    cases hf

theorem Unknown.not_lacks (h : Unknown fs p op) : ¬op.Lacks := by
  obtain ⟨id, s, hid, hne, -, -⟩ := h
  cases op <;> simp_all [Operation.Lacks, Operation.requiredIds, Operation.printedDevice?]

theorem TakesEffect.exists_loaded (h : TakesEffect fs p key op fs' value) :
    ∃ s, KeyFile.load fs p = .ok s := by
  cases h with
  | generated _ _ hl _ _ => exact ⟨_, hl⟩
  | dumped hl _ _ => exact ⟨_, hl⟩
  | exported _ hl _ => exact ⟨_, hl⟩
  | fetched _ hl _ => exact ⟨_, hl⟩

/-! ## 2. The ids -/

theorem given_eq_none {value : Option String} :
    given value = none ↔ value = none ∨ value = some "" := by
  cases value <;> simp [given, Option.filter_eq_none_iff]

theorem lacks_generate : (Operation.generate deviceId manufacturerId).Lacks ↔
    given deviceId = none ∨ given manufacturerId = none := by
  simp [Operation.Lacks, Operation.requiredIds, given_eq_none]

theorem lacks_iff_of_requiredIds (h : op.requiredIds = [deviceId]) :
    op.Lacks ↔ given deviceId = none := by
  simp [Operation.Lacks, h, given_eq_none]

/-- **An operation that lacks an id** asks for it, whatever the tree, the path and the output are,
    and leaves them alone. -/
theorem run_of_missing (h : op.Lacks) :
    run fs p key op out = ⟨.error (.missingArgument op.needs), fs, out⟩ := by
  cases op with
  | generate deviceId manufacturerId =>
    rw [run_generate, generate_of_missing (lacks_generate.mp h)]
    rfl
  | exportKey deviceId =>
    rw [run_exportKey, selected_of_missing ((lacks_iff_of_requiredIds rfl).mp h)]
    rfl
  | cmakeDump output => simp [Operation.Lacks, Operation.requiredIds] at h
  | fetchManufacturerId deviceId =>
    rw [run_fetchManufacturerId, selected_of_missing ((lacks_iff_of_requiredIds rfl).mp h)]
    rfl

/-- **The fault of a store that does not load** is what an operation ends with, unless it lacks an
    id. -/
theorem run_of_not_loaded {e : StoreFault} (hl : KeyFile.load fs p = .error e) (h : ¬op.Lacks) :
    run fs p key op out = ⟨.error (.store e), fs, out⟩ := by
  have hload := load_of_error hl
  have hselected {deviceId : Option String} (hd : given deviceId ≠ none) :
      selected fs p deviceId = .error (.store e) := by
    obtain ⟨id, hid⟩ := Option.ne_none_iff_exists'.mp hd
    rw [selected_of_given hid, hload]
    rfl
  cases op with
  | generate deviceId manufacturerId =>
    rw [lacks_generate, not_or] at h
    obtain ⟨id, hid⟩ := Option.ne_none_iff_exists'.mp h.1
    obtain ⟨manufacturer, hmanufacturer⟩ := Option.ne_none_iff_exists'.mp h.2
    rw [run_generate]
    unfold generate
    simp only [hid, hmanufacturer, hload]
  | exportKey deviceId =>
    rw [run_exportKey, hselected (mt (lacks_iff_of_requiredIds rfl).mpr h)]
    rfl
  | cmakeDump output =>
    rw [run_cmakeDump]
    unfold dump
    simp only [hload]
  | fetchManufacturerId deviceId =>
    rw [run_fetchManufacturerId, hselected (mt (lacks_iff_of_requiredIds rfl).mpr h)]
    rfl

/-! ## 3. The ways to end -/

/-- The ways in which an operation ends. -/
inductive Ends (fs : FileSystem) (p : Path) (key : DeviceKey) (op : Operation) (out : Output) :
    Reply → Prop
  | done {outcome : Outcome} {fs' : FileSystem} {pieces : List Bytes} {out' : Output}
      (effect : TakesEffect fs p key op fs' pieces.flatten)
      (written : out.writeAll pieces = (.ok (), out')) :
      Ends fs p key op out ⟨.ok outcome, fs', out'⟩
  | refused {pieces : List Bytes} {e : IoFault} {out' : Output}
      (effect : TakesEffect fs p key op fs pieces.flatten)
      (written : out.writeAll pieces = (.error e, out')) :
      Ends fs p key op out ⟨.error (.outputFailed e), fs, out'⟩
  | lacks {what : String} (lacks : op.Lacks) :
      Ends fs p key op out ⟨.error (.missingArgument what), fs, out⟩
  | unknown {id : String} (unknown : Unknown fs p op) :
      Ends fs p key op out ⟨.error (.deviceNotFound id), fs, out⟩
  | failed {fault : ManagerFault} {fs' : FileSystem} (general : fault.exitStatus = exitFailure)
      (complete : ¬op.Lacks) (known : ¬Unknown fs p op)
      (noEffect : ∀ fs' value, ¬TakesEffect fs p key op fs' value) (grown : GrownBy fs fs') :
      Ends fs p key op out ⟨.error fault, fs', out⟩

/-- Where the store does not load, nothing takes effect. -/
theorem Ends.notLoaded {e : StoreFault} (h : KeyFile.load fs p = .error e) (hids : ¬op.Lacks) :
    Ends fs p key op out ⟨.error (.store e), fs, out⟩ := by
  refine .failed rfl hids ?_ ?_ (.refl fs)
  · rintro ⟨id, s, -, -, hl, -⟩
    rw [h] at hl
    cases hl
  · intro fs' value heffect
    obtain ⟨s, hl⟩ := heffect.exists_loaded
    rw [h] at hl
    cases hl

theorem ends_generate : Ends fs p key (.generate deviceId manufacturerId) out
    ⟨(generate fs p key deviceId manufacturerId).1, (generate fs p key deviceId manufacturerId).2,
      out⟩ := by
  by_cases hlacks : (Operation.generate deviceId manufacturerId).Lacks
  · rw [generate_of_missing (lacks_generate.mp hlacks)]
    exact .lacks hlacks
  have hcases := generate_cases fs p key deviceId manufacturerId
  generalize generate fs p key deviceId manufacturerId = r at hcases ⊢
  cases hcases with
  | missing habsent => exact absurd (lacks_generate.mpr habsent) hlacks
  | notLoaded hl => exact .notLoaded hl hlacks
  | notSaved hd hm hl hs =>
    refine .failed rfl hlacks (fun ⟨id, s, hid, _⟩ => by cases hid) ?_ (grownBy_of_save_error hs)
    intro fs' value heffect
    obtain ⟨rfl, -⟩ := given_eq_some.mp hd
    obtain ⟨rfl, -⟩ := given_eq_some.mp hm
    cases heffect with
    | generated _ _ hl' hs' _ =>
      cases hl.symm.trans hl'
      cases hs.symm.trans hs'
  | stored hd hm hl hs =>
    obtain ⟨rfl, hdevice⟩ := given_eq_some.mp hd
    obtain ⟨rfl, horigin⟩ := given_eq_some.mp hm
    have hrep := KeyFile.save_eq_ok_iff.mp hs
    obtain ⟨l, name, hr⟩ := replace_eq_ok hrep
    have hwritten : out.writeAll [] = (.ok (), out) := rfl
    refine .done ?_ hwritten
    exact .generated hdevice horigin hl hs ⟨_, _, hr.gives hrep⟩

theorem ends_dump {output : Path} : Ends fs p key (.cmakeDump output) out
    ⟨(dump fs p output).1, (dump fs p output).2, out⟩ := by
  have hlacks : ¬(Operation.cmakeDump output).Lacks := by
    simp [Operation.Lacks, Operation.requiredIds]
  have hcases := dump_cases fs p output
  generalize dump fs p output = r at hcases ⊢
  cases hcases with
  | notLoaded hl => exact .notLoaded hl hlacks
  | notWritten hl hrep =>
    refine .failed rfl hlacks (fun ⟨id, s, hid, _⟩ => by cases hid) ?_
      (grownBy_of_replace_error hrep)
    intro fs' value heffect
    cases heffect with
    | dumped hl' hrep' _ =>
      cases hl.symm.trans hl'
      cases hrep.symm.trans hrep'
  | written hl hrep =>
    obtain ⟨l, name, hr⟩ := replace_eq_ok hrep
    have hwritten : out.writeAll [] = (.ok (), out) := rfl
    refine .done ?_ hwritten
    exact .dumped hl hrep ⟨_, _, hr.gives hrep⟩

/-- An operation that prints something of the record of a device. -/
theorem ends_print {pieces : KeyRecord → List Bytes} (hids : op.requiredIds = [deviceId])
    (hdevice : op.printedDevice? = deviceId)
    (heffect : ∀ {id : String} {s : KeyStore} {record : KeyRecord}, given deviceId = some id →
      KeyFile.load fs p = .ok s → s.get? id = some record →
        TakesEffect fs p key op fs (pieces record).flatten) :
    Ends fs p key op out ⟨(print out ((selected fs p deviceId).map pieces)).1, fs,
      (print out ((selected fs p deviceId).map pieces)).2⟩ := by
  have hlacks := lacks_iff_of_requiredIds hids
  cases hd : given deviceId with
  | none =>
    rw [selected_of_missing hd]
    exact .lacks (hlacks.mpr hd)
  | some id =>
    cases hl : KeyFile.load fs p with
    | error e =>
      rw [selected_of_given hd, load_of_error hl]
      exact .notLoaded hl (by simp [hlacks, hd])
    | ok s =>
      rw [selected_of_loaded hd hl, recordOf]
      cases hr : s.get? id with
      | none =>
        obtain ⟨hid, hne⟩ := given_eq_some.mp hd
        exact .unknown ⟨id, s, hdevice.trans hid, hne, hl, hr⟩
      | some record =>
        have hcases := print_cases out (.ok (pieces record))
        simp only [Except.map]
        generalize print out (.ok (pieces record)) = r at hcases ⊢
        cases hcases with
        | taken hw => exact .done (heffect hd hl hr) hw
        | failed hw => exact .refused (heffect hd hl hr) hw

/-- **Every way in which an operation ends.** -/
theorem run_cases (fs : FileSystem) (p : Path) (key : DeviceKey) (op : Operation) (out : Output) :
    Ends fs p key op out (run fs p key op out) := by
  cases op with
  | generate deviceId manufacturerId =>
    rw [run_generate]
    exact ends_generate
  | exportKey deviceId =>
    rw [run_exportKey]
    refine ends_print rfl rfl fun hd hl hr => ?_
    obtain ⟨rfl, hne⟩ := given_eq_some.mp hd
    exact .exported hne hl hr
  | cmakeDump output =>
    rw [run_cmakeDump]
    exact ends_dump
  | fetchManufacturerId deviceId =>
    rw [run_fetchManufacturerId]
    refine ends_print rfl rfl fun hd hl hr => ?_
    obtain ⟨rfl, hne⟩ := given_eq_some.mp hd
    simpa [manufacturerPieces] using TakesEffect.fetched hne hl hr

end Manager

end DeviceKeys
