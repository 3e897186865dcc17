import DeviceKeys.Toml.Item
import DeviceKeys.Toml.Lexeme

/-! # TOML documents

`Toml.document?` reads a document line by line. A line is blank, a comment, a key with a value, or a
header. The table under a header stands apart (`Draft.open_`) until the next header or the end,
and joins the document then.
-/

namespace DeviceKeys.Toml

/-! ## 1. Values -/

/-- Reads the values of a list up to its closing bracket. -/
def listItems (value : List Char → Option (Item × List Char)) :
    Nat → List Char → Option (List Item × List Char)
  | 0, _ => none
  | n + 1, s =>
    match skipSpace s with
    | ']' :: r => some ([], r)
    | s =>
      (value s).bind fun (v, r) =>
        match skipSpace r with
        | ',' :: r => (listItems value n r).map fun p => (v :: p.1, p.2)
        | ']' :: r => some ([v], r)
        | _ => none

/-- Reads the keys and values within braces from a key on. -/
def bracedItems (value : List Char → Option (Item × List Char)) :
    Nat → Table → List Char → Option (Table × List Char)
  | 0, _, _ => none
  | n + 1, t, s =>
    (key? s).bind fun (key, r) =>
      match r with
      | '=' :: r =>
        (value (skipBlanks r)).bind fun (v, r) =>
          (t.assignBraced key v).bind fun t =>
            match skipBlanks r with
            | ',' :: r => bracedItems value n t r
            | '}' :: r => some (t, r)
            | _ => none
      | _ => none

/-- Reads a table in braces from the character after the opening one. -/
def braced? (value : List Char → Option (Item × List Char)) (s : List Char) :
    Option (Item × List Char) :=
  match skipBlanks s with
  | '}' :: r => some (.braced ⟨false, false⟩ [], r)
  | _ =>
    (bracedItems value (s.length + 1) Table.empty s).map fun (t, r) =>
      (.braced t.origin t.entries, r)

/-- Reads a value without brackets. -/
def plainValue? (s : List Char) : Option (Item × List Char) :=
  match s with
  | 't' :: 'r' :: 'u' :: 'e' :: r => some (.scalar, r)
  | 'f' :: 'a' :: 'l' :: 's' :: 'e' :: r => some (.scalar, r)
  | c :: _ =>
    if c = '"' || c = '\'' then (string? s).map fun p => (.text p.1, p.2)
    else
      match moment? s with
      | some r => some (.moment, r)
      | none => ((float? s).or (integer? s)).map (.scalar, ·)
  | [] => none

/-- Reads a value in which brackets are nested at most so deep. -/
def value? : Nat → List Char → Option (Item × List Char)
  | 0, s =>
    match s with
    | '[' :: _ => none
    | '{' :: _ => none
    | s => plainValue? s
  | n + 1, s =>
    match s with
    | '[' :: r => (listItems (value? n) (r.length + 1) r).map fun p => (.list p.1, p.2)
    | '{' :: r => braced? (value? n) r
    | s => plainValue? s

/-! ## 2. Headers -/

/-- A document of which some lines have been read: the tables closed so far, and the open one with
    the path of its header. The path is empty before the first header. -/
structure Draft where
  closed : Table
  open_ : Table
  path : List String
  doubled : Bool

/-- The draft before any line. -/
def Draft.empty : Draft := ⟨Table.empty, Table.empty, [], false⟩

/-- Adds the open table to one that holds it. -/
def Draft.close (d : Draft) (k : String) (holder : Table) : Option Table :=
  match d.doubled, holder.find? k with
  | true, none => some (holder.set k (.headedList [(d.open_.origin, d.open_.entries)]))
  | true, some (.headedList tables) =>
    some (holder.set k (.headedList (tables ++ [(d.open_.origin, d.open_.entries)])))
  | true, some _ => none
  | false, none => some (holder.set k (.headed d.open_.origin d.open_.entries))
  | false, some (.headed origin _) =>
    if origin.implicit then some (holder.set k (.headed d.open_.origin d.open_.entries)) else none
  | false, some _ => none

/-- The document with the open table added. -/
def Draft.finish (d : Draft) : Option Table :=
  match d.path.getLast? with
  | none => some d.open_
  | some k => Table.descend false (d.close k) d.path.dropLast d.closed

/-- The table at the end of a path, when the tables on the way to it can be entered. -/
def Table.at? : List String → Table → Option (Option Item)
  | [], _ => some none
  | [k], t => some (t.find? k)
  | k :: ks, t =>
    match t.find? k with
    | none => some none
    | some (.headed origin entries) => Table.at? ks ⟨origin, entries⟩
    | some (.headedList tables) =>
      match tables.getLast? with
      | none => none
      | some (origin, entries) => Table.at? ks ⟨origin, entries⟩
    | some _ => none

/-- Opens the table of a header. It starts with what longer headers have put below it. -/
def Draft.openTable (d : Draft) (path : List String) : Option Draft := do
  let doc ← d.finish
  match ← Table.at? path doc with
  | none => some ⟨doc, Table.empty, path, false⟩
  | some (.headed origin entries) =>
    if origin.implicit && !origin.dotted then
      let doc ← Table.descend false (fun t => some (t.erase (path.getLast?.getD "")))
        path.dropLast doc
      some ⟨doc, ⟨⟨false, false⟩, entries⟩, path, false⟩
    else none
  | some _ => none

/-- Opens the next table of a doubled header. -/
def Draft.openListed (d : Draft) (path : List String) : Option Draft := do
  let doc ← d.finish
  match ← Table.at? path doc with
  | none => some ⟨doc, Table.empty, path, true⟩
  | some (.headedList _) => some ⟨doc, Table.empty, path, true⟩
  | some _ => none

/-! ## 3. Lines -/

/-- Reads a header from the character after its first bracket. -/
def header? (d : Draft) (s : List Char) : Option (Draft × List Char) :=
  match s with
  | '[' :: r =>
    (key? r).bind fun (path, r) =>
      match r with
      | ']' :: ']' :: r => (lineEnd? r).bind fun r => (d.openListed path).map (·, r)
      | _ => none
  | r =>
    (key? r).bind fun (path, r) =>
      match r with
      | ']' :: r => (lineEnd? r).bind fun r => (d.openTable path).map (·, r)
      | _ => none

/-- Reads a key and its value. -/
def assignment? (d : Draft) (s : List Char) : Option (Draft × List Char) :=
  (key? s).bind fun (key, r) =>
    match r with
    | '=' :: r =>
      (value? depthLimit (skipBlanks r)).bind fun (v, r) =>
        (lineEnd? r).bind fun r =>
          (d.open_.assign key v).map fun t => ({ d with open_ := t }, r)
    | _ => none

/-- Reads the lines of a document. -/
def lines : Nat → Draft → List Char → Option Draft
  | 0, _, _ => none
  | n + 1, d, s =>
    match skipBlanks s with
    | [] => some d
    | '[' :: r => (header? d r).bind fun (d, r) => lines n d r
    | c :: r =>
      if c = '#' || c = '\n' || c = '\r' then
        match lineEnd? (c :: r) with
        | some [] => some d
        | some r => lines n d r
        | none => none
      else (assignment? d (c :: r)).bind fun (d, r) => lines n d r

/-- The mark that may stand in front of a text. -/
def byteOrderMark : Char := Char.ofNat 0xFEFF

/-- Reads a document. -/
def document? (s : List Char) : Option Table :=
  let s := match s with
    | c :: r => if c = byteOrderMark then r else s
    | [] => s
  (lines (s.length + 2) Draft.empty s).bind Draft.finish

end DeviceKeys.Toml
