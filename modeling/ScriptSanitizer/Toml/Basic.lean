import ScriptSanitizer.Text.Basic

/-!
# TOML documents

The values of a TOML document and the tables that its lines build up.  A table remembers how it
came about, because this decides which later lines may add to it: a header opens a table once,
dotted keys extend only tables that dotted keys made, and an inline table is closed.
-/

namespace ScriptSanitizer

namespace Toml

/-- How a table came about. -/
inductive Origin where
  /-- It is written inline. -/
  | inline
  /-- A header opens it. -/
  | header
  /-- A header opens a table inside it. -/
  | implied
  /-- A dotted key leads through it. -/
  | dotted
  deriving DecidableEq

/-- A value. -/
inductive Value where
  /-- A string. -/
  | string (value : Text)
  /-- A whole number. -/
  | integer (value : Int)
  /-- A floating-point number. -/
  | float
  /-- A truth value. -/
  | bool (value : Bool)
  /-- A date, a time, or both. -/
  | moment
  /-- Values in order. -/
  | array (items : List Value)
  /-- Values under keys. -/
  | table (origin : Origin) (entries : List (Text × Value))
  /-- Tables in order, each opened by a header. -/
  | tables (items : List (List (Text × Value)))

/-- Values under keys. -/
abbrev Entries := List (Text × Value)

/-- The entries with another value under a key that is there. -/
def Entries.replace (key : Text) (value : Value) (entries : Entries) : Entries :=
  entries.map fun entry => if entry.1 = key then (key, value) else entry

/-- Change the last of several tables. -/
def changeLast (change : Entries → Option Entries) (items : List Entries) :
    Option (List Entries) := do
  let last ← items.getLast?
  some (items.dropLast ++ [← change last])

namespace Entries

/-- Put a value under a dotted key.  `fits` tells that the last part of the key may be put here. -/
def insert (fits : Bool) : List Text → Value → Entries → Option Entries
  | [], _, _ => none
  | [key], value, entries =>
    if fits && (entries.lookup key).isNone then some (entries ++ [(key, value)]) else none
  | key :: keys, value, entries =>
    match entries.lookup key with
    | none => do some (entries ++ [(key, .table .dotted (← insert true keys value []))])
    | some (.table .dotted inner) => do
      some (entries.replace key (.table .dotted (← insert true keys value inner)))
    | some (.table .implied inner) => do
      some (entries.replace key (.table .implied (← insert false keys value inner)))
    | some (.tables items) => do
      some (entries.replace key (.tables (← changeLast (insert false keys value) items)))
    | some _ => none

/-- Change what a header leads to: the entry under the last key, and the table that holds it. -/
def changeAt (change : Text → Entries → Option Entries) : List Text → Entries → Option Entries
  | [], _ => none
  | [key], entries => change key entries
  | key :: keys, entries =>
    match entries.lookup key with
    | none => do some (entries ++ [(key, .table .implied (← changeAt change keys []))])
    | some (.table .inline _) => none
    | some (.table origin inner) => do
      some (entries.replace key (.table origin (← changeAt change keys inner)))
    | some (.tables items) => do
      some (entries.replace key (.tables (← changeLast (changeAt change keys) items)))
    | some _ => none

/-- Open the table that a header names. -/
def openTable (path : List Text) (entries : Entries) : Option Entries :=
  entries.changeAt
    (fun key entries =>
      match entries.lookup key with
      | none => some (entries ++ [(key, .table .header [])])
      | some (.table .implied inner) => some (entries.replace key (.table .header inner))
      | some _ => none)
    path

/-- Open one more of the tables that a header names. -/
def openItem (path : List Text) (entries : Entries) : Option Entries :=
  entries.changeAt
    (fun key entries =>
      match entries.lookup key with
      | none => some (entries ++ [(key, .tables [[]])])
      | some (.tables items) => some (entries.replace key (.tables (items ++ [[]])))
      | some _ => none)
    path

/-- Put a value under a dotted key into the table that a header has opened. -/
def insertAt (path : List Text) (keys : List Text) (value : Value) (entries : Entries) :
    Option Entries :=
  if path.isEmpty then entries.insert true keys value
  else
    entries.changeAt
      (fun key entries =>
        match entries.lookup key with
        | some (.table origin inner) => do
          some (entries.replace key (.table origin (← Entries.insert true keys value inner)))
        | some (.tables items) => do
          some (entries.replace key (.tables (← changeLast (Entries.insert true keys value) items)))
        | _ => none)
      path

end Entries

end Toml

end ScriptSanitizer
