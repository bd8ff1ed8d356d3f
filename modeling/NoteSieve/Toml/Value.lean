import NoteSieve.Text.Basic

/-!
# TOML values and tables

A document is one table. Besides its entries a table remembers how it came about, because that
decides which later lines may add to it: a header opens a table once, dotted keys may go on with
what dotted keys began, and what was written between braces is closed.

Of numbers with a fraction and of dates only the place is kept, not the value: no setting is one.
-/

namespace NoteSieve

namespace Toml

/-- How a table came about. -/
inductive Origin where
  /-- It has a header of its own. -/
  | header
  /-- A header named it on the way to another table. -/
  | passed
  /-- Dotted keys made it. -/
  | dotted
  /-- It was written between braces. -/
  | inline
  deriving DecidableEq, Repr

end Toml

/-- A TOML value. -/
inductive Toml where
  /-- A string. -/
  | string (value : Text)
  /-- An integer of 64 bits. -/
  | integer (value : Int)
  /-- A number with a fraction or an exponent, an infinity or no number. -/
  | float
  /-- A truth value. -/
  | boolean (value : Bool)
  /-- A date, a time or both. -/
  | moment
  /-- An array written between brackets. -/
  | array (elements : List Toml)
  /-- A table. -/
  | table (origin : Toml.Origin) (entries : List (Text × Toml))
  /-- An array of tables, one for each of its headers. -/
  | tables (elements : List (List (Text × Toml)))
  deriving Repr

namespace Toml

/-- The entries of a table, in the order in which their keys came first. -/
abbrev Entries : Type := List (Text × Toml)

/-! ### Entries by key -/

/-- The value of a key. -/
def find? (key : Text) : Entries → Option Toml
  | [] => none
  | (k, value) :: rest => if k = key then some value else find? key rest

/-- The entries with another value for a key, at the end if it is new. -/
def put (key : Text) (value : Toml) : Entries → Entries
  | [] => [(key, value)]
  | (k, v) :: rest => if k = key then (k, value) :: rest else (k, v) :: put key value rest

/-- Changes the last of a list of tables. -/
def changeLast (change : Entries → Option Entries) : List Entries → Option (List Entries)
  | [] => none
  | [last] => (change last).map ([·])
  | first :: rest => (changeLast change rest).map (first :: ·)

/-! ### Adding to a document -/

/-- Changes the table that a header names, or that the keys of a header pass through. Missing tables
are made; of an array of tables it is the last that is meant. A value, or a table between braces,
cannot be entered. -/
def alongHeader (change : Entries → Option Entries) : List Text → Entries → Option Entries
  | [], entries => change entries
  | key :: path, entries =>
    match find? key entries with
    | none => (alongHeader change path []).map fun inner => put key (.table .passed inner) entries
    | some (.table .inline _) => none
    | some (.table origin inner) =>
      (alongHeader change path inner).map fun inner => put key (.table origin inner) entries
    | some (.tables elements) =>
      (changeLast (alongHeader change path) elements).map fun elements =>
        put key (.tables elements) entries
    | some _ => none

/-- Adds a value under a new key. -/
def addNew (key : Text) (value : Toml) (entries : Entries) : Option Entries :=
  match find? key entries with
  | none => some (put key value entries)
  | some _ => none

/-- Adds a value under a dotted key, given the keys before the last dot and how the table that they
start from came about. A table with a header of its own is not open to dotted keys from outside, and
the table that gets the value has to be one that dotted keys have made. -/
def addDotted (key : Text) (value : Toml) : List Text → Origin → Entries → Option Entries
  | [], origin, entries => if origin = .dotted then addNew key value entries else none
  | k :: path, _, entries =>
    match find? k entries with
    | none =>
      (addDotted key value path .dotted []).map fun inner => put k (.table .dotted inner) entries
    | some (.table origin inner) =>
      if origin = .header ∨ origin = .inline then none
      else
        (addDotted key value path origin inner).map fun inner => put k (.table origin inner) entries
    | some (.tables elements) =>
      (changeLast (addDotted key value path .header) elements).map fun elements =>
        put k (.tables elements) entries
    | some _ => none

/-- **Adds a value under the keys of a line**, of which there may be several with dots between
them. -/
def addValue (path : List Text) (key : Text) (value : Toml) (entries : Entries) : Option Entries :=
  match path with
  | [] => addNew key value entries
  | _ :: _ => addDotted key value path .header entries

/-- **Opens a table by its header.** A table has one header, and none if dotted keys have made
it. -/
def openTable (path : List Text) (key : Text) (entries : Entries) : Option Entries :=
  alongHeader (fun parent =>
    match find? key parent with
    | none => some (put key (.table .header []) parent)
    | some (.table .passed inner) => some (put key (.table .header inner) parent)
    | some _ => none) path entries

/-- **Opens the next table of an array of tables.** -/
def openNext (path : List Text) (key : Text) (entries : Entries) : Option Entries :=
  alongHeader (fun parent =>
    match find? key parent with
    | none => some (put key (.tables [[]]) parent)
    | some (.tables elements) => some (put key (.tables (elements ++ [[]])) parent)
    | some _ => none) path entries

end Toml

end NoteSieve
