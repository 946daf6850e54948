/-!
# Settings as trees

The values of a settings file in the TOML format, and the rules by which entries are added to its
tables. A table may be written in several places of a file, but only in ways that cannot be
mistaken for a second definition; `Origin` remembers how each table was written first.
-/

namespace StagedSynthesis.Toml

/-- How a table was first written. -/
inductive Origin where
  /-- By a header of its own. The outermost table counts as such. -/
  | header
  /-- By the header of a table inside it. -/
  | parent
  /-- By a dotted key that leads through it. -/
  | dotted
  /-- Between braces. -/
  | inline
  deriving DecidableEq, Repr

/-- A value of a settings file. Of floating-point numbers and times only the kind is kept. -/
inductive Value where
  | text (value : String)
  | integer (value : Int)
  | boolean (value : Bool)
  | float
  | time
  | array (elements : List Value)
  | table (origin : Origin) (entries : List (String × Value))
  /-- An array whose elements are tables with headers of their own, latest first. -/
  | rows (tables : List (List (String × Value)))

/-- The entries of a table in the order in which they were written. -/
abbrev Entries := List (String × Value)

namespace Entries

/-- The value of a key. -/
def get? (entries : Entries) (key : String) : Option Value :=
  entries.lookup key

/-- The entries with the value of a key replaced, or with the key added at the end. -/
def put (key : String) (value : Value) : Entries → Entries
  | [] => [(key, value)]
  | entry :: rest => if entry.1 = key then (key, value) :: rest else entry :: put key value rest

/-- Change the table to which a path of keys leads. Tables that are missing on the way are made,
by a dotted key or by a header. A key that leads through rows leads to the latest of them. A table
between braces is closed, and a dotted key does not lead into a table with a header. -/
def alter (dotted : Bool) (change : Origin → Entries → Option Entries) :
    List String → Origin → Entries → Option Entries
  | [], origin, entries => change origin entries
  | key :: path, _, entries =>
      match entries.get? key with
      | none =>
          let made := if dotted then Origin.dotted else Origin.parent
          (alter dotted change path made []).map fun inner => entries.put key (.table made inner)
      | some (.table origin inner) =>
          if origin = .inline ∨ (dotted ∧ origin = .header) then none
          else
            (alter dotted change path origin inner).map fun changed =>
              entries.put key (.table origin changed)
      | some (.rows (latest :: earlier)) =>
          (alter dotted change path .header latest).map fun changed =>
            entries.put key (.rows (changed :: earlier))
      | some _ => none

/-- Add an entry under a dotted key, given as the path and the last key. The table that gets it
must itself have been made by dotted keys unless the path is empty, and must not have the key. -/
def insert (path : List String) (key : String) (value : Value) (entries : Entries) :
    Option Entries :=
  alter true
    (fun origin inner =>
      if (origin == .dotted) == path.isEmpty ∨ (inner.get? key).isSome then none
      else some (inner.put key value))
    path .header entries

/-- Add an entry to the table under the current header. -/
def insertUnder (header path : List String) (key : String) (value : Value) (entries : Entries) :
    Option Entries :=
  alter false (fun _ inner => inner.insert path key value) header .header entries

/-- Begin a table by its header. The table must be new or known only from headers inside it. -/
def openTable (path : List String) (key : String) (entries : Entries) : Option Entries :=
  alter false
    (fun _ inner =>
      match inner.get? key with
      | none => some (inner.put key (.table .header []))
      | some (.table .parent known) => some (inner.put key (.table .header known))
      | some _ => none)
    path .header entries

/-- Begin the next of a sequence of rows by its header. -/
def openRow (path : List String) (key : String) (entries : Entries) : Option Entries :=
  alter false
    (fun _ inner =>
      match inner.get? key with
      | none => some (inner.put key (.rows [[]]))
      | some (.rows tables) => some (inner.put key (.rows ([] :: tables)))
      | some _ => none)
    path .header entries

end Entries

end StagedSynthesis.Toml
