import DeviceKeys.Json.Unquoted
import DeviceKeys.Json.Number

/-! # JSON values that are not wanted

`Json.skipValue` passes over one value of any kind and any depth. Only the form of its tokens is
checked. The open brackets are kept on a list, innermost first, and each round takes one scalar, or
opens a bracket, or closes as many as end there.
-/

namespace DeviceKeys.Json

/-- An open bracket. -/
inductive Bracket where
  | list
  | object
  deriving DecidableEq

/-- The byte that closes a bracket. -/
def Bracket.closing : Bracket → UInt8
  | .list => 0x5D
  | .object => 0x7D

/-- The cause when the document ends within a bracket. -/
def Bracket.endCause : Bracket → Cause
  | .list => .endInList
  | .object => .endInObject

/-- The cause when neither a comma nor the closing byte follows a value. -/
def Bracket.separatorCause : Bracket → Cause
  | .list => .listSeparatorMissing
  | .object => .objectSeparatorMissing

/-- Passes over a scalar, or over the byte that opens a bracket. -/
def skipToken (s : Bytes) : Except Fault (Option Bracket × Bytes) :=
  match s with
  | [] => stopPast .endInValue []
  | b :: r =>
    if b = 0x6E then (readWord [0x75, 0x6C, 0x6C] r).map (none, ·)
    else if b = 0x74 then (readWord [0x72, 0x75, 0x65] r).map (none, ·)
    else if b = 0x66 then (readWord [0x61, 0x6C, 0x73, 0x65] r).map (none, ·)
    else if b = 0x2D then (skipNumber r).map (none, ·)
    else if isDigit b then (skipNumber s).map (none, ·)
    else if b = 0x22 then (skipString r).map (none, ·)
    else if b = 0x5B then .ok (some .list, r)
    else if b = 0x7B then .ok (some .object, r)
    else stopPast .valueMissing s

/-- Passes over the closing bytes and the comma after a value. The brackets that stay open are
    given back: none when the value is complete. -/
def skipClosing : List Bracket → Bytes → Except Fault (List Bracket × Bytes)
  | [], s => .ok ([], s)
  | f :: fs, s =>
    match skipSpace s with
    | [] => stopPast f.endCause []
    | b :: r =>
      if b = 0x2C then .ok (f :: fs, r)
      else if b = f.closing then skipClosing fs r
      else stopPast f.separatorCause (b :: r)

/-- Passes over the name of a member and its colon. -/
def skipName (s : Bytes) : Except Fault Bytes :=
  match skipSpace s with
  | [] => stopPast .endInObject []
  | b :: r =>
    if b = 0x22 then
      match skipString r with
      | .error e => .error e
      | .ok r =>
        match skipSpace r with
        | [] => stopPast .endInObject []
        | c :: r => if c = 0x3A then .ok r else stopPast .colonMissing (c :: r)
    else stopPast .nameNotString (b :: r)

/-- What follows the opening of a bracket or a value: the brackets that stay open, and the bytes
    from the next value or name on. -/
def skipAfterToken (open_ : List Bracket) :
    Option Bracket → Bytes → Except Fault (List Bracket × Bytes)
  | none, s => skipClosing open_ s
  | some f, s =>
    match skipSpace s with
    | [] => stopPast f.endCause []
    | b :: r => if b = f.closing then skipClosing open_ r else .ok (f :: open_, b :: r)

/-- Passes over values until no bracket is open. -/
def skipLoop : Nat → List Bracket → Bytes → Except Fault Bytes
  | 0, _, _ => stopPast .endInValue []
  | n + 1, open_, s =>
    match skipToken (skipSpace s) with
    | .error e => .error e
    | .ok (token, r) =>
      match skipAfterToken open_ token r with
      | .error e => .error e
      | .ok ([], r) => .ok r
      | .ok (.list :: fs, r) => skipLoop n (.list :: fs) r
      | .ok (.object :: fs, r) =>
        match skipName r with
        | .error e => .error e
        | .ok r => skipLoop n (.object :: fs) r

/-- Passes over a value. -/
def skipValue (s : Bytes) : Except Fault Bytes := skipLoop (s.length + 1) [] s

end DeviceKeys.Json
