/-! # UTF-8

The reading and writing of text as bytes. One machine reads a byte sequence octet by octet
(`Utf8.advance`), and four uses run it:

* `Utf8.decode` gives the characters, or the first place at which the bytes are not UTF-8
  (`Utf8.Fault`: a sequence no character has, or a character cut short by the end);
* `Utf8.decodeLossy` gives the characters with U+FFFD for every longest start of a character that
  is not completed, and for every byte that starts none;
* `Utf8.pieces` gives the characters and, one by one, the bytes that belong to none;
* readers of quoted text run the machine beside their own.

`Utf8.encode` writes characters back.
-/

namespace DeviceKeys

/-- A byte sequence: the contents of a file, a path, what a program prints. -/
abbrev Bytes := List UInt8

namespace Utf8

/-! ## 1. Writing -/

/-- The UTF-8 bytes of a list of characters. -/
def encode (cs : List Char) : Bytes := cs.flatMap String.utf8EncodeChar

/-- The UTF-8 bytes of a text. -/
def ofString (s : String) : Bytes := encode s.toList

@[simp] theorem encode_nil : encode [] = [] := rfl

@[simp] theorem encode_cons (c : Char) (cs : List Char) :
    encode (c :: cs) = String.utf8EncodeChar c ++ encode cs := rfl

theorem encode_append (cs ds : List Char) : encode (cs ++ ds) = encode cs ++ encode ds := by
  simp [encode]

/-! ## 2. The machine -/

/-- A character of which the first `seen` bytes have been read: they give `value`, `owed` further
    bytes are missing, and the next of them lies between `low` and `high`. -/
structure Pending where
  value : Nat
  seen : Nat
  owed : Nat
  low : UInt8
  high : UInt8
  deriving DecidableEq, Repr

/-- What one byte does: it completes a character, takes one further, or fits no character. -/
inductive Step where
  | char (c : Char)
  | more (p : Pending)
  | refused
  deriving DecidableEq, Repr

/-- The first byte of a character. The bounds on the second byte rule out overlong forms,
    surrogates and values past U+10FFFF. -/
def first (b : UInt8) : Step :=
  let n := b.toNat
  if n < 0x80 then .char (Char.ofNat n)
  else if n < 0xC2 then .refused
  else if n < 0xE0 then .more ⟨n - 0xC0, 1, 1, 0x80, 0xBF⟩
  else if n = 0xE0 then .more ⟨0, 1, 2, 0xA0, 0xBF⟩
  else if n = 0xED then .more ⟨0xD, 1, 2, 0x80, 0x9F⟩
  else if n < 0xF0 then .more ⟨n - 0xE0, 1, 2, 0x80, 0xBF⟩
  else if n = 0xF0 then .more ⟨0, 1, 3, 0x90, 0xBF⟩
  else if n < 0xF4 then .more ⟨n - 0xF0, 1, 3, 0x80, 0xBF⟩
  else if n = 0xF4 then .more ⟨4, 1, 3, 0x80, 0x8F⟩
  else .refused

/-- A later byte of a character. -/
def next (p : Pending) (b : UInt8) : Step :=
  if p.low ≤ b ∧ b ≤ p.high then
    let value := p.value * 64 + (b.toNat - 0x80)
    if p.owed ≤ 1 then .char (Char.ofNat value)
    else .more ⟨value, p.seen + 1, p.owed - 1, 0x80, 0xBF⟩
  else .refused

/-- One byte, between characters (`none`) or within one. -/
def advance : Option Pending → UInt8 → Step
  | none, b => first b
  | some p, b => next p b

/-! ## 3. Reading -/

/-- Why, and where, bytes are not UTF-8. Both give the index of the first byte that belongs to no
    character; `width` counts the bytes that are certainly wrong. -/
inductive Fault where
  | invalid (width index : Nat)
  | incomplete (index : Nat)
  deriving DecidableEq, Repr

/-- The text of a fault. -/
def Fault.message : Fault → String
  | .invalid width index =>
    "invalid utf-8 sequence of " ++ toString width ++ " bytes from index " ++ toString index
  | .incomplete index => "incomplete utf-8 byte sequence from index " ++ toString index

/-- The index at which the fault stands. -/
def Fault.index : Fault → Nat
  | .invalid _ index => index
  | .incomplete index => index

/-- Reads on from a state of the machine; `i` is the index of the first byte not yet part of a
    character. -/
def decodeFrom : Option Pending → Nat → Bytes → Except Fault (List Char)
  | none, _, [] => .ok []
  | some _, i, [] => .error (.incomplete i)
  | st, i, b :: r =>
    match advance st b with
    | .char c => (decodeFrom none (i + ((st.map Pending.seen).getD 0 + 1)) r).map (c :: ·)
    | .more p => decodeFrom (some p) i r
    | .refused => .error (.invalid ((st.map Pending.seen).getD 1) i)

/-- The characters of a byte sequence that is UTF-8. -/
def decode (s : Bytes) : Except Fault (List Char) := decodeFrom none 0 s

/-- The text of a byte sequence that is UTF-8. -/
def toString? (s : Bytes) : Option String := (decode s).toOption.map String.ofList

/-- The sign that stands for bytes that are no character. -/
def replacement : Char := Char.ofNat 0xFFFD

/-- Reads on from a state of the machine, with a replacement for what fits no character. -/
def decodeLossyFrom : Option Pending → Bytes → List Char
  | none, [] => []
  | some _, [] => [replacement]
  | st, b :: r =>
    match advance st b with
    | .char c => c :: decodeLossyFrom none r
    | .more p => decodeLossyFrom (some p) r
    | .refused =>
      match st, first b with
      | none, _ => replacement :: decodeLossyFrom none r
      | some _, .char c => replacement :: c :: decodeLossyFrom none r
      | some _, .more p => replacement :: decodeLossyFrom (some p) r
      | some _, .refused => replacement :: replacement :: decodeLossyFrom none r

/-- The characters of any byte sequence, with a replacement for each part that is not UTF-8. -/
def decodeLossy (s : Bytes) : List Char := decodeLossyFrom none s

/-- The text shown for any byte sequence. -/
def display (s : Bytes) : String := String.ofList (decodeLossy s)

/-- A piece of a byte sequence: a character, or a byte that belongs to none. -/
inductive Piece where
  | char (c : Char)
  | stray (b : UInt8)
  deriving DecidableEq, Repr

/-- Reads on from a state of the machine, in which the bytes `held` have been read of a character
    (the last of them first). -/
def piecesFrom : Option Pending → Bytes → Bytes → List Piece
  | _, held, [] => held.reverse.map .stray
  | st, held, b :: r =>
    match advance st b with
    | .char c => .char c :: piecesFrom none [] r
    | .more p => piecesFrom (some p) (b :: held) r
    | .refused =>
      held.reverse.map .stray ++
        match st, first b with
        | some _, .char c => .char c :: piecesFrom none [] r
        | some _, .more p => piecesFrom (some p) [b] r
        | _, _ => .stray b :: piecesFrom none [] r

/-- The characters of any byte sequence, and the bytes between them. -/
def pieces (s : Bytes) : List Piece := piecesFrom none [] s

end Utf8

end DeviceKeys
