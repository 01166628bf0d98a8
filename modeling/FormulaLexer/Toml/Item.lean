import FormulaLexer.Text

/-!
The items of a TOML document, and the rules by which the lines of a document put them together.
A table may be entered by several headers and dotted keys, but it is defined only once: by its
own header, by dotted keys, or inline. An inline table is closed for good.
-/

namespace FormulaLexer.Toml

/-- How a table came to be: because a header names a table inside it, by its own header, by
dotted keys, or in braces. -/
inductive Origin where
  | implied
  | declared
  | dotted
  | inline
  deriving DecidableEq

/-- An item of a document. Arrays of tables that grow by headers are kept apart from arrays
written as values. -/
inductive Item where
  | string (text : Text)
  | integer (n : Int)
  | float (written : Text)
  | boolean (b : Bool)
  | moment (written : Text)
  | array (items : List Item)
  | table (origin : Origin) (entries : List (Text × Item))
  | tables (elements : List (List (Text × Item)))

/-- The entries of a table in the order of their first appearance. -/
abbrev Entries := List (Text × Item)

namespace Entries

/-- The item under a key. -/
def find? (entries : Entries) (key : Text) : Option Item :=
  (List.find? (fun entry => entry.1 = key) entries).map Prod.snd

/-- Puts an item under a key, in the place of the one that is there. -/
def put (key : Text) (item : Item) : Entries → Entries
  | [] => [(key, item)]
  | (other, value) :: rest =>
    if other = key then (key, item) :: rest else (other, value) :: put key item rest

/-- Changes the entries of the table at a path. Tables that are missing on the way are implied,
and of an array of tables the last element is meant. -/
def changeAt : (path : List Text) → (change : Entries → Option Entries) → Entries → Option Entries
  | [], change, entries => change entries
  | key :: path, change, entries =>
    match entries.find? key with
    | none => (changeAt path change []).map fun inner => entries.put key (.table .implied inner)
    | some (.table .inline _) => none
    | some (.table origin inner) =>
      (changeAt path change inner).map fun inner => entries.put key (.table origin inner)
    | some (.tables elements) =>
      match elements.getLast? with
      | none => none
      | some last =>
        (changeAt path change last).map fun last =>
          entries.put key (.tables (elements.dropLast ++ [last]))
    | some _ => none

/-- Declares the table under a key, which must be new or only implied so far. -/
def declare (key : Text) (entries : Entries) : Option Entries :=
  match entries.find? key with
  | none => some (entries.put key (.table .declared []))
  | some (.table .implied inner) => some (entries.put key (.table .declared inner))
  | some _ => none

/-- Adds an element to the array of tables under a key, which may be new. -/
def addElement (key : Text) (entries : Entries) : Option Entries :=
  match entries.find? key with
  | none => some (entries.put key (.tables [[]]))
  | some (.tables elements) => some (entries.put key (.tables (elements ++ [[]])))
  | some _ => none

/-- Assigns an item to a dotted key. The last key must be new. The tables before it are new or
made by dotted keys; those before the innermost one may also be implied. -/
def assign : (keys : List Text) → Item → Entries → Option Entries
  | [], _, _ => none
  | [key], item, entries =>
    match entries.find? key with
    | none => some (entries.put key item)
    | some _ => none
  | key :: next :: keys, item, entries =>
    match entries.find? key with
    | none =>
      (assign (next :: keys) item []).map fun inner => entries.put key (.table .dotted inner)
    | some (.table .dotted inner) =>
      (assign (next :: keys) item inner).map fun inner => entries.put key (.table .dotted inner)
    | some (.table .implied inner) =>
      if keys.isEmpty then none
      else
        (assign (next :: keys) item inner).map fun inner =>
          entries.put key (.table .implied inner)
    | some _ => none

end Entries

end FormulaLexer.Toml
