import DeviceKeys.Proofs.Json.Passed
import DeviceKeys.Proofs.Store.Reading

/-! # Key store files that are no text

A key store file is read byte by byte, and nothing asks of it as a whole that it be UTF-8. What is
wanted of it is asked to be: the ids of devices, the names of fields, manufacturer ids and keys.

* `Tells`: the pieces of a document tell members, whatever the strings that are passed over hold.
  Every document that is read is made of such pieces (`StoreForm.exists_tells`).
* **`KeyFile.not_text_is_corrupt`**: so bytes that are no text are corrupt, unless just strings in
  the values of fields that are not wanted are none. `loads_byte_passed_over` is such a file.
-/

namespace DeviceKeys

open Json
open Utf8 (IsText)

variable {s r : Bytes}

/-! ## 1. Documents in pieces -/

theorem FieldForm.spelled (name : String) (f : Field) (s r : Bytes) (h : FieldForm name s f r) :
    Spelled (fun x y => FieldForm name x f y) s r := by
  cases h with
  | manufacturerId h => exact .cons (by decide) (StringForm.spelled h) .manufacturerId
  | key h hk => exact .cons (by decide) (StringForm.spelled h) fun hx => .key hx hk
  | other hm hk h => exact h.spelled.mono fun hx => .other hm hk hx

theorem RecordForm.spelled (record : KeyRecord) (s r : Bytes) (h : RecordForm s record r) :
    Spelled (fun x y => RecordForm x record y) s r := by
  cases h with
  | object h hm hk =>
    exact .cons (by decide) (h.spelled FieldForm.spelled) fun hx => .object hx hm hk
  | @list s t u v w x _ m text k hs ht hu hv hw hk hx =>
    have hkey : Spelled (fun x y => ∃ z, StringForm x text z ∧ Blank z (0x5D :: y)) w r :=
      (StringForm.spelled hw).append (.of_token hx (by decide))
        fun hx hy => ⟨_, hx, hy⟩
    have hcomma : Spelled (fun x y => ∃ z c d, Blank x (0x2C :: z) ∧ Blank z (0x22 :: c) ∧
        StringForm c text d ∧ Blank d (0x5D :: y)) u r :=
      (Spelled.of_token hu (by decide)).append
        ((Spelled.of_token hv (by decide)).append hkey
          (P := fun x y => ∃ z c, Blank x (0x22 :: z) ∧ StringForm z text c ∧ Blank c (0x5D :: y))
          fun hx ⟨_, hy, hz⟩ => ⟨_, _, hx, hy, hz⟩)
        fun hx ⟨_, _, hy, hz, hd⟩ => ⟨_, _, _, hx, hy, hz, hd⟩
    have hmanufacturer : Spelled (fun x y => ∃ e z c d, StringForm x m e ∧ Blank e (0x2C :: z) ∧
        Blank z (0x22 :: c) ∧ StringForm c text d ∧ Blank d (0x5D :: y)) t r :=
      (StringForm.spelled ht).append hcomma
        fun hx ⟨_, _, _, hy, hz, hd, he⟩ => ⟨_, _, _, _, hx, hy, hz, hd, he⟩
    have hlist : Spelled (fun x y => RecordForm (0x5B :: x) ⟨m, k⟩ y) s r :=
      (Spelled.of_token hs (by decide)).append hmanufacturer
        fun hx ⟨_, _, _, _, hy, hz, hc, hd, he⟩ => .list hx hy hz hc hd hk he
    exact .cons (by decide) hlist id

/-- The pieces are a document with the given members, and so are any that are like them: those that
    hold other strings where strings are passed over. -/
def Tells (pieces : List Piece) (members : List (String × KeyRecord)) : Prop :=
  List.Forall₂ Piece.Alike pieces pieces ∧
    ∀ pieces', List.Forall₂ Piece.Alike pieces pieces' → StoreForm (bytesOf pieces') members

/-- **Every key store document is made of pieces that tell its members.** -/
theorem StoreForm.exists_tells {document : Bytes} {members : List (String × KeyRecord)}
    (h : StoreForm document members) :
    ∃ pieces, bytesOf pieces = document ∧ Tells pieces members := by
  obtain ⟨s, r, hs, hms, hr⟩ := h
  have hrest : Spelled (fun x y => ∃ z, Members (fun _ => RecordForm) true x members z ∧ Blank z y)
      s [] :=
    (hms.spelled fun _ => RecordForm.spelled).append (.of_ascii hr.ascii) fun hx hy => ⟨_, hx, hy⟩
  have hwhole : Spelled (fun x y => ∃ z w, Blank x (0x7B :: z) ∧
      Members (fun _ => RecordForm) true z members w ∧ Blank w y) document [] :=
    (Spelled.of_token hs (by decide)).append hrest
      fun hx ⟨_, hy, hz⟩ => ⟨_, _, hx, hy, hz⟩
  obtain ⟨pieces, hdocument, halike, hforms⟩ := hwhole
  refine ⟨pieces, by rw [hdocument, List.append_nil], halike, fun pieces' h' => ?_⟩
  have hform := hforms pieces' h' []
  rwa [List.append_nil] at hform

theorem Tells.storeForm {pieces : List Piece} {members : List (String × KeyRecord)}
    (h : Tells pieces members) : StoreForm (bytesOf pieces) members := h.2 pieces h.1

/-- Pieces are a text if what is passed over is. -/
theorem isText_bytesOf : ∀ {pieces : List Piece}, (∀ s, .passed s ∈ pieces → IsText s) →
    IsText (bytesOf pieces)
  | [], _ => .nil
  | piece :: pieces, h => by
    have hpiece : IsText piece.bytes := by
      cases piece with
      | text cs => exact ⟨cs, rfl⟩
      | passed s => exact h s List.mem_cons_self
    exact hpiece.append (isText_bytesOf fun s hs => h s (List.mem_cons_of_mem _ hs))

/-! ## 2. Key store files -/

namespace KeyFile

variable {fs : FileSystem} {p : Path} {document : Bytes}

/-- **Bytes that are no text are corrupt, unless they are pieces that tell members.** Those load,
    and what is no text of them is the contents of a string that is passed over: any others there
    would do. -/
theorem not_text_is_corrupt (hread : fs.read p = .ok document) (hbad : ¬IsText document) :
    ((∃ refusal, load fs p = .error (.corrupt p refusal)) ↔
        ¬∃ pieces members, bytesOf pieces = document ∧ Tells pieces members) ∧
      ∀ pieces members, bytesOf pieces = document → Tells pieces members →
        load fs p = .ok (KeyStore.ofList members) ∧ ∃ s, .passed s ∈ pieces ∧ ¬IsText s := by
  have hloads : ∀ pieces members, bytesOf pieces = document → Tells pieces members →
      load fs p = .ok (KeyStore.ofList members) := by
    rintro pieces members rfl htells
    have hstore := KeyStore.ofJson_eq_ok_iff.mpr ⟨members, htells.storeForm, rfl⟩
    rw [load_of_read hread, hstore]
    rfl
  refine ⟨⟨?_, fun hnot => ?_⟩, fun pieces members hpieces htells => ?_⟩
  · rintro ⟨refusal, hcorrupt⟩ ⟨pieces, members, hpieces, htells⟩
    rw [hloads pieces members hpieces htells] at hcorrupt
    cases hcorrupt
  · refine (loads_just_documents hread).2.2 fun ⟨members, hform⟩ => hnot ?_
    obtain ⟨pieces, hpieces, htells⟩ := hform.exists_tells
    exact ⟨pieces, members, hpieces, htells⟩
  · refine ⟨hloads pieces members hpieces htells, ?_⟩
    apply Classical.byContradiction
    intro hnone
    refine hbad (hpieces ▸ isText_bytesOf fun s hs => ?_)
    exact Classical.byContradiction fun hs' => hnone ⟨s, hs, hs'⟩

/-- A document with a byte that is part of no text, in a field that is not wanted. -/
def bytePassedOver : Bytes :=
  Utf8.ofString "\x7b\"d\":\x7b\"manufacturer_id\":\"m\",\"key\":\"" ++ List.replicate 64 0x37 ++
    Utf8.ofString "\",\"x\":\"" ++ [0xFF] ++ Utf8.ofString "\"\x7d\x7d"

/-- A file with that document. -/
def bytePassedOverFile : FileSystem :=
  FileSystem.empty.put [Utf8.ofString "keys.json"] (.file 0o600 bytePassedOver)

theorem not_isText_bytePassedOver : ¬IsText bytePassedOver := by
  have hdecode : (Utf8.decode bytePassedOver).toOption = none := by decide +kernel
  rintro ⟨cs, hcs⟩
  rw [Utf8.decode_eq_ok_iff.mpr hcs] at hdecode
  cases hdecode

theorem read_bytePassedOverFile :
    bytePassedOverFile.read (Path.ofString "keys.json") = .ok bytePassedOver := by
  have hread : (bytePassedOverFile.read (Path.ofString "keys.json")).toOption =
      some bytePassedOver := by decide +kernel
  exact eq_ok_of_toOption hread

theorem size_bytePassedOverFile :
    (load bytePassedOverFile (Path.ofString "keys.json")).toOption.map KeyStore.size = some 1 := by
  decide +kernel

/-- What is no text of it is the contents of a string that is passed over. -/
theorem byte_stands_in_passed_string : ∃ pieces members, bytesOf pieces = bytePassedOver ∧
    Tells pieces members ∧ ∃ s, .passed s ∈ pieces ∧ ¬IsText s := by
  obtain ⟨hiff, htold⟩ := not_text_is_corrupt read_bytePassedOverFile not_isText_bytePassedOver
  have htells : ∃ pieces members, bytesOf pieces = bytePassedOver ∧ Tells pieces members := by
    apply Classical.byContradiction
    intro hnot
    obtain ⟨refusal, hcorrupt⟩ := hiff.mpr hnot
    have hsize := size_bytePassedOverFile
    rw [hcorrupt] at hsize
    cases hsize
  obtain ⟨pieces, members, hpieces, htells⟩ := htells
  exact ⟨pieces, members, hpieces, htells, (htold pieces members hpieces htells).2⟩

/-- The document is no text, and its file loads as a store of one device. -/
theorem loads_byte_passed_over : ¬IsText bytePassedOver ∧
    bytePassedOverFile.read (Path.ofString "keys.json") = .ok bytePassedOver ∧
    ∃ store, load bytePassedOverFile (Path.ofString "keys.json") = .ok store ∧ store.size = 1 := by
  obtain ⟨store, hstore, hone⟩ := Option.map_eq_some_iff.mp size_bytePassedOverFile
  exact ⟨not_isText_bytePassedOver, read_bytePassedOverFile, store, eq_ok_of_toOption hstore, hone⟩

end KeyFile

end DeviceKeys
