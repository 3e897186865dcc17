import DeviceKeys.Proofs.KeyFile
import DeviceKeys.Proofs.LimitedOutput
import DeviceKeys.Proofs.Manager.Run

/-! # What is printed where not all of it fits

* `PrintsOf`: what an operation prints of the record of a device, and the pieces it writes it in.
* `run_of_found`: once the device has been found, the run is the writing of those pieces.
* `prints_what_fits`: an output that takes so many bytes, and then fails, has as much of the value
  as it takes, and the operation succeeds just when that is all.
-/

namespace DeviceKeys.Manager

variable {fs : FileSystem} {p : Path} {key : DeviceKey} {op : Operation} {out : Output}
  {s : KeyStore} {id text : String} {record : KeyRecord} {pieces : List Bytes}

/-- What an operation prints of the record of a device: the text, and the pieces it is written in.
    The key is printed with a line feed behind it, the manufacturer id with nothing. -/
inductive PrintsOf (id : String) (record : KeyRecord) :
    Operation → List Bytes → String → Prop
  | key : PrintsOf id record (.exportKey (some id)) (keyPieces record) (record.key.toHex ++ "\n")
  | manufacturerId : PrintsOf id record (.fetchManufacturerId (some id))
      (manufacturerPieces record) record.manufacturerId

/-- The pieces are those of the text. -/
theorem PrintsOf.flatten_eq (h : PrintsOf id record op pieces text) :
    pieces.flatten = Utf8.ofString text := by
  cases h with
  | key =>
    simp only [keyPieces, Utf8.ofString, DeviceKey.toHex, String.toList_append,
      String.toList_ofList, Utf8.encode_append, List.flatten_cons, List.flatten_nil,
      List.append_nil]
    rfl
  | manufacturerId => simp [manufacturerPieces]

/-- A device that is found is printed. -/
theorem run_of_found (h : PrintsOf id record op pieces text) (hid : id ≠ "")
    (hload : KeyFile.load fs p = .ok s) (hrecord : s.get? id = some record) :
    run fs p key op out = ⟨(print out (.ok pieces)).1, fs, (print out (.ok pieces)).2⟩ := by
  have hselected : selected fs p (some id) = .ok record := by
    rw [selected_of_loaded (given_eq_some.mpr ⟨rfl, hid⟩) hload, recordOf, hrecord]
  cases h with
  | key =>
    rw [run_exportKey, hselected]
    rfl
  | manufacturerId =>
    rw [run_fetchManufacturerId, hselected]
    rfl

/-- **What is printed is what fits.** Let a device with a non-empty id be in the store that is
    loaded. Let the output pass everything on at once and take `n` bytes, whatever it has received
    before, and then fail. When the key of the device or its manufacturer id is printed, the output
    has received the first `n` bytes of the value, or all of it if it is shorter. The operation
    succeeds just when the value has at most `n` bytes; otherwise the fault is that of the output,
    and the exit status is one. The tree is left as it is. However the output cuts what it is
    offered, the same comes of it. -/
theorem prints_what_fits {n : Nat} (key : DeviceKey) (out : Output)
    (h : PrintsOf id record op pieces text) (hid : id ≠ "") (hload : KeyFile.load fs p = .ok s)
    (hrecord : s.get? id = some record)
    (hcapacity : out.capacity = 0) (hroom : out.sink.room = some n) :
    ∃ result sink, run fs p key op out = ⟨result, fs, { out with sink := sink }⟩ ∧
      sink.received = out.printed ++ (Utf8.ofString text).take n ∧
      (result = .ok .printed ↔ (Utf8.ofString text).length ≤ n) ∧
      (∀ fault, result = .error fault ↔
        n < (Utf8.ofString text).length ∧ fault = .outputFailed out.sink.fault) ∧
      (ManagerFault.outputFailed out.sink.fault).exitStatus = 1 ∧
      ∀ offered, out.sink.Offered pieces offered ↔
        offered =
          (if (Utf8.ofString text).length ≤ n then .ok () else .error out.sink.fault, sink) := by
  rw [run_of_found h hid hload hrecord]
  have hwrite := Output.writeAll_unbuffered hcapacity pieces
  rw [h.flatten_eq] at hwrite
  rcases Nat.lt_or_ge n (Utf8.ofString text).length with hlt | hle
  · have hsink := Sink.write_of_excess hroom hlt
    rw [hsink] at hwrite
    rw [print_of_refused hwrite]
    refine ⟨_, _, rfl, rfl, ⟨nofun, fun hle => absurd hlt (Nat.not_lt.mpr hle)⟩, fun fault => ?_,
      rfl, fun offered => ?_⟩
    · constructor
      · intro heq
        cases heq
        exact ⟨hlt, rfl⟩
      · rintro ⟨-, rfl⟩
        rfl
    · rw [Sink.offered_iff, h.flatten_eq, hsink, if_neg (Nat.not_le.mpr hlt)]
  · have hfits : out.sink.Fits (Utf8.ofString text) := by
      intro m hm
      rw [hroom] at hm
      cases hm
      exact hle
    have hsink := Sink.write_of_fits hfits
    rw [hsink] at hwrite
    rw [print_of_written hwrite]
    refine ⟨_, _, rfl, ?_, ⟨fun _ => hle, fun _ => rfl⟩,
      fun fault => ⟨nofun, fun ⟨hlt, _⟩ => absurd hlt (Nat.not_lt.mpr hle)⟩, rfl, fun offered => ?_⟩
    · rw [List.take_of_length_le hle]
      rfl
    · rw [Sink.offered_iff, h.flatten_eq, hsink, if_pos hle]

/-- The store of one device, whose manufacturer id is a character of two bytes. -/
def accentedDevice : KeyStore := KeyStore.empty.put "d" ⟨"é", KeyFile.someKey⟩

/-- The key file with that store. -/
def accentedFile : FileSystem :=
  FileSystem.empty.put [Utf8.ofString "keys.json"] (.file 0o600 accentedDevice.saved)

/-- An output that takes one byte has half of the character. -/
theorem prints_half_of_character : ∃ result sink,
    run accentedFile (Path.ofString "keys.json") KeyFile.someKey (.fetchManufacturerId (some "d"))
      (.limited 1 "output full") = ⟨result, accentedFile, ⟨sink, 0, []⟩⟩ ∧
    sink.received = [0xC3] ∧ result = .error (.outputFailed (.other "output full")) := by
  have hread : (accentedFile.read (Path.ofString "keys.json")).toOption =
      some accentedDevice.saved := by
    decide +kernel
  have hload := KeyFile.load_of_read_saved (KeyFile.eq_ok_of_toOption hread)
  have hrecord : accentedDevice.get? "d" = some ⟨"é", KeyFile.someKey⟩ := by decide +kernel
  obtain ⟨result, sink, hrun, hreceived, -, hfault, -, -⟩ :=
    prints_what_fits KeyFile.someKey (.limited 1 "output full") .manufacturerId (by decide) hload
      hrecord rfl rfl
  exact ⟨result, sink, hrun, hreceived, (hfault _).mpr ⟨by decide +kernel, rfl⟩⟩

end DeviceKeys.Manager
