import DeviceKeys.Json.Skipped

/-! # The grammar of JSON, as far as a key store document needs it

What the readers of `DeviceKeys.Json` accept, said without them. Each part of the grammar relates
the bytes in front of which it stands to the bytes that are left behind it.

* `Blank` and `Comma` are what stands between tokens.
* `StringData` is a string whose value is wanted, with the bytes that it stands for; `StringForm` is
  one whose bytes are a text.
* `SkippedString`, `Scalar` and `SkippedValue` are what is passed over: a value of any depth, of
  which only the form counts, so that the bytes of its strings need be no text.
* `Members` is what stands between the braces of an object whose members are wanted.
-/

namespace DeviceKeys.Json

variable {α : Type}

/-! ## 1. Between tokens -/

/-- Any number of blanks. -/
def Blank (s r : Bytes) : Prop := ∃ ws, s = ws ++ r ∧ ∀ b ∈ ws, isSpace b = true

/-- What stands in front of an item: nothing if it is the first one, else a comma. -/
def Comma : Bool → Bytes → Bytes → Prop
  | true, s, r => s = r
  | false, s, r => Blank s (0x2C :: r)

/-! ## 2. Strings -/

/-- Four hexadecimal digits of either case, and their number. -/
inductive FourDigits : Bytes → Nat → Bytes → Prop
  | mk {a b c d : UInt8} {i j k l : Nat} (r : Bytes) (ha : hexValue? a = some i)
      (hb : hexValue? b = some j) (hc : hexValue? c = some k) (hd : hexValue? d = some l) :
      FourDigits (a :: b :: c :: d :: r) (((i * 16 + j) * 16 + k) * 16 + l) r

/-- The escapes of one letter: the quote, the two slashes, backspace, form feed, line feed, carriage
    return and tab. -/
def letters : List (UInt8 × Char) :=
  [(0x22, '"'), (0x5C, '\\'), (0x2F, '/'), (0x62, Char.ofNat 0x08), (0x66, Char.ofNat 0x0C),
    (0x6E, '\n'), (0x72, '\r'), (0x74, '\t')]

/-- An escape from the byte after its backslash, and the character it stands for. A number that is
    no character, a surrogate, can only stand with another one, the high one first. -/
inductive Escape : Bytes → Char → Bytes → Prop
  | letter {b : UInt8} {c : Char} (r : Bytes) (h : (b, c) ∈ letters) : Escape (b :: r) c r
  | digits {s r : Bytes} {n : Nat} {c : Char} (h : FourDigits s n r) (hc : c.toNat = n) :
      Escape (0x75 :: s) c r
  | pair {s t r : Bytes} {high low : Nat} {c : Char}
      (hs : FourDigits s high (0x5C :: 0x75 :: t)) (ht : FourDigits t low r)
      (hhigh : 0xD800 ≤ high ∧ high ≤ 0xDBFF) (hlow : 0xDC00 ≤ low ∧ low ≤ 0xDFFF)
      (hc : c.toNat = 0x10000 + (high - 0xD800) * 0x400 + (low - 0xDC00)) :
      Escape (0x75 :: s) c r

/-- The byte stands for itself in a string: it is no quote, no backslash and no control byte. -/
def Ordinary (b : UInt8) : Prop := b ≠ 0x22 ∧ b ≠ 0x5C ∧ 0x20 ≤ b

/-- A string from the byte after its opening quote, and the bytes it stands for. -/
inductive StringData : Bytes → Bytes → Bytes → Prop
  | close (r : Bytes) : StringData (0x22 :: r) [] r
  | byte {b : UInt8} {s data r : Bytes} (hb : Ordinary b) (h : StringData s data r) :
      StringData (b :: s) (b :: data) r
  | escape {s t data r : Bytes} {c : Char} (he : Escape s c t) (h : StringData t data r) :
      StringData (0x5C :: s) (String.utf8EncodeChar c ++ data) r

/-- A string from the byte after its opening quote: the bytes it stands for are those of a text. -/
def StringForm (s : Bytes) (text : String) (r : Bytes) : Prop := StringData s (Utf8.ofString text) r

/-- A string that is passed over, from the byte after its opening quote. Its bytes need be no text,
    and its surrogates may stand alone. -/
inductive SkippedString : Bytes → Bytes → Prop
  | close (r : Bytes) : SkippedString (0x22 :: r) r
  | byte {b : UInt8} {s r : Bytes} (hb : Ordinary b) (h : SkippedString s r) :
      SkippedString (b :: s) r
  | letter {b : UInt8} {c : Char} {s r : Bytes} (hb : (b, c) ∈ letters) (h : SkippedString s r) :
      SkippedString (0x5C :: b :: s) r
  | digits {s t r : Bytes} {n : Nat} (hs : FourDigits s n t) (h : SkippedString t r) :
      SkippedString (0x5C :: 0x75 :: s) r

/-! ## 3. Values that are passed over -/

/-- Digits, at least one. -/
def Digits (s r : Bytes) : Prop := ∃ d ds, s = d :: ds ++ r ∧ ∀ b ∈ d :: ds, isDigit b = true

/-- The digits in front of a number: a zero, or digits that do not start with one. -/
def WholePart (s r : Bytes) : Prop := s = 0x30 :: r ∨ s.head? ≠ some 0x30 ∧ Digits s r

/-- A point and digits, if they are there. -/
def Fraction (s r : Bytes) : Prop := s = r ∨ ∃ t, s = 0x2E :: t ∧ Digits t r

/-- A mark and digits with or without a sign, if they are there. -/
def Exponent (s r : Bytes) : Prop :=
  s = r ∨ ∃ mark t u, s = mark :: t ∧ isExponentMark mark = true ∧
    (t = u ∨ t = 0x2B :: u ∨ t = 0x2D :: u) ∧ Digits u r

/-- A number without its sign. -/
def Magnitude (s r : Bytes) : Prop := ∃ t u, WholePart s t ∧ Fraction t u ∧ Exponent u r

/-- The values that are words. -/
def words : List String := ["null", "true", "false"]

/-- A value without brackets. -/
inductive Scalar : Bytes → Bytes → Prop
  | word {w : String} (r : Bytes) (h : w ∈ words) : Scalar (Utf8.ofString w ++ r) r
  | positive {s r : Bytes} (h : Magnitude s r) : Scalar s r
  | negative {s r : Bytes} (h : Magnitude s r) : Scalar (0x2D :: s) r
  | string {s r : Bytes} (h : SkippedString s r) : Scalar (0x22 :: s) r

/-- The byte that opens a bracket. -/
def Bracket.opening : Bracket → UInt8
  | .list => 0x5B
  | .object => 0x7B

/-- What stands between the comma and the value of an item: blanks, or the name of a member and a
    colon. -/
def Bracket.Lead : Bracket → Bytes → Bytes → Prop
  | .list, s, r => Blank s r
  | .object, s, r => ∃ t u v, Blank s (0x22 :: t) ∧ SkippedString t u ∧ Blank u (0x3A :: v) ∧
      Blank v r

mutual

/-- A value that is passed over. -/
inductive SkippedValue : Bytes → Bytes → Prop
  | scalar {s r : Bytes} (h : Scalar s r) : SkippedValue s r
  | bracket {f : Bracket} {s r : Bytes} (h : SkippedItems f true s r) :
      SkippedValue (f.opening :: s) r

/-- The items of a bracket that is passed over and the byte that closes it. -/
inductive SkippedItems : Bracket → Bool → Bytes → Bytes → Prop
  | close {f : Bracket} {first : Bool} {s r : Bytes} (h : Blank s (f.closing :: r)) :
      SkippedItems f first s r
  | item {f : Bracket} {first : Bool} {s t u v r : Bytes} (hc : Comma first s t)
      (hl : f.Lead t u) (hv : SkippedValue u v) (h : SkippedItems f false v r) :
      SkippedItems f first s r

end

/-! ## 4. Objects whose members are wanted -/

/-- A member of an object: its name, a colon and its value. `value` says what stands where, for
    each name. -/
inductive Member (value : String → Bytes → α → Bytes → Prop) : Bytes → String × α → Bytes → Prop
  | mk {s t u v w r : Bytes} {name : String} {a : α} (hs : Blank s (0x22 :: t))
      (ht : StringForm t name u) (hu : Blank u (0x3A :: v)) (hv : Blank v w)
      (hw : value name w a r) : Member value s (name, a) r

/-- The members of an object and the brace that closes it. -/
inductive Members (value : String → Bytes → α → Bytes → Prop) :
    Bool → Bytes → List (String × α) → Bytes → Prop
  | close {first : Bool} {s r : Bytes} (h : Blank s (0x7D :: r)) : Members value first s [] r
  | member {first : Bool} {s t u r : Bytes} {m : String × α} {ms : List (String × α)}
      (hc : Comma first s t) (hm : Member value t m u) (h : Members value false u ms r) :
      Members value first s (m :: ms) r

end DeviceKeys.Json
