import DeviceKeys.Store
import DeviceKeys.Proofs.Json.Grammar

/-! # The grammar of a key store document

* `RecordForm`: a record is an object with exactly one member for the manufacturer id and exactly
  one for the key, in any order, among any others, of which only the form counts (`FieldForm`); or a
  list of the two.
* `StoreForm`: a key store document is one object whose members are records, and nothing else but
  blanks. It tells the members in the order in which they stand; an id can stand there more than
  once.
-/

namespace DeviceKeys

open Json

/-- The text spells the key: 64 hexadecimal digits, with letters of either case. -/
def DeviceKey.SpelledBy (k : DeviceKey) (text : String) : Prop :=
  text.toList.map Char.toLower = k.hexChars

/-- A member of a record in braces: one of the two that are wanted, or another one. -/
inductive Field where
  | manufacturerId (m : String)
  | key (k : DeviceKey)
  | other

/-- The manufacturer id that a member holds. -/
def Field.manufacturerId? : Field → Option String
  | .manufacturerId m => some m
  | _ => none

/-- The key that a member holds. -/
def Field.key? : Field → Option DeviceKey
  | .key k => some k
  | _ => none

/-- The value of a member of a record, by the name of the member. -/
inductive FieldForm : String → Bytes → Field → Bytes → Prop
  | manufacturerId {s r : Bytes} {m : String} (h : StringForm s m r) :
      FieldForm "manufacturer_id" (0x22 :: s) (.manufacturerId m) r
  | key {s r : Bytes} {text : String} {k : DeviceKey} (h : StringForm s text r)
      (hk : k.SpelledBy text) : FieldForm "key" (0x22 :: s) (.key k) r
  | other {s r : Bytes} {name : String} (hm : name ≠ "manufacturer_id") (hk : name ≠ "key")
      (h : SkippedValue s r) : FieldForm name s .other r

/-- A record. -/
inductive RecordForm : Bytes → KeyRecord → Bytes → Prop
  | object {s r : Bytes} {fields : List (String × Field)} {m : String} {k : DeviceKey}
      (h : Members FieldForm true s fields r)
      (hm : fields.filterMap (·.2.manufacturerId?) = [m])
      (hk : fields.filterMap (·.2.key?) = [k]) : RecordForm (0x7B :: s) ⟨m, k⟩ r
  | list {s t u v w x r : Bytes} {m text : String} {k : DeviceKey} (hs : Blank s (0x22 :: t))
      (ht : StringForm t m u) (hu : Blank u (0x2C :: v)) (hv : Blank v (0x22 :: w))
      (hw : StringForm w text x) (hk : k.SpelledBy text) (hx : Blank x (0x5D :: r)) :
      RecordForm (0x5B :: s) ⟨m, k⟩ r

/-- A key store document with the given members. -/
def StoreForm (document : Bytes) (members : List (String × KeyRecord)) : Prop :=
  ∃ s r, Blank document (0x7B :: s) ∧ Members (fun _ => RecordForm) true s members r ∧ Blank r []

end DeviceKeys
