/-! # TOML data

What a TOML document holds (`Toml.Item`), and how keys build it up.

A table remembers how it came to be: `implicit` when only a longer path named it, `dotted` when
that path stood in front of an equals sign. The two decide which later lines may add to it.

* `Table.descend` goes down a path, makes the tables that are missing, and changes the last one.
* `Table.assign` adds what stands on the two sides of an equals sign. A key is assigned once, and a
  dotted key only adds to tables made by dotted keys.
-/

namespace DeviceKeys.Toml

/-- How a table came to be. -/
structure Origin where
  implicit : Bool
  dotted : Bool
  deriving DecidableEq, Repr

/-- What a document holds: a text; a number or a truth value; a date or a time; a list of values; a
    table written in braces; a table under a header; or the tables under a doubled header. -/
inductive Item where
  | text (s : String)
  | scalar
  | moment
  | list (items : List Item)
  | braced (origin : Origin) (entries : List (String × Item))
  | headed (origin : Origin) (entries : List (String × Item))
  | headedList (tables : List (Origin × List (String × Item)))

/-- A table. -/
structure Table where
  origin : Origin
  entries : List (String × Item)

namespace Table

/-- The table before any line. -/
def empty : Table := ⟨⟨false, false⟩, []⟩

/-- What a key stands for. -/
def find? (t : Table) (k : String) : Option Item := t.entries.lookup k

/-- The table with a key given. -/
def set (t : Table) (k : String) (i : Item) : Table :=
  { t with entries := t.entries.filter (·.1 ≠ k) ++ [(k, i)] }

/-- The table without a key. -/
def erase (t : Table) (k : String) : Table :=
  { t with entries := t.entries.filter (·.1 ≠ k) }

/-- Goes down a path of keys and changes the table there. A list of tables is entered at its last
    one. With `dotted`, a table that was named by a header is not entered. -/
def descend (dotted : Bool) (change : Table → Option Table) : List String → Table → Option Table
  | [], t => change t
  | k :: ks, t =>
    match t.find? k with
    | none =>
      (descend dotted change ks ⟨⟨true, dotted⟩, []⟩).map fun c =>
        t.set k (.headed c.origin c.entries)
    | some (.headed origin entries) =>
      if dotted && !origin.implicit then none
      else
        (descend dotted change ks ⟨origin, entries⟩).map fun c =>
          t.set k (.headed c.origin c.entries)
    | some (.headedList tables) =>
      match tables.getLast? with
      | none => none
      | some (origin, entries) =>
        (descend dotted change ks ⟨origin, entries⟩).map fun c =>
          t.set k (.headedList (tables.dropLast ++ [(c.origin, c.entries)]))
    | some _ => none

/-- Goes down a path within braces and changes the table there. -/
def descendBraced (change : Table → Option Table) : List String → Table → Option Table
  | [], t => change t
  | k :: ks, t =>
    match t.find? k with
    | none =>
      (descendBraced change ks ⟨⟨true, true⟩, []⟩).map fun c =>
        t.set k (.braced c.origin c.entries)
    | some (.braced origin entries) =>
      if origin.implicit then
        (descendBraced change ks ⟨origin, entries⟩).map fun c =>
          t.set k (.braced c.origin c.entries)
      else none
    | some _ => none

/-- Gives a key a value, once, and only in a table that came to be in the same way as the path that
    led to it. -/
def assignLast (path : List String) (k : String) (value : Item) (t : Table) : Option Table :=
  if t.origin.dotted = path.isEmpty then none
  else if (t.find? k).isSome then none
  else some (t.set k value)

/-- Adds a key, which may be dotted, and its value. -/
def assign (t : Table) (key : List String) (value : Item) : Option Table :=
  match key.getLast? with
  | none => none
  | some k => descend true (assignLast key.dropLast k value) key.dropLast t

/-- Adds a key and its value within braces. -/
def assignBraced (t : Table) (key : List String) (value : Item) : Option Table :=
  match key.getLast? with
  | none => none
  | some k => descendBraced (assignLast key.dropLast k value) key.dropLast t

end Table

end DeviceKeys.Toml
