import Stencil.Settings.Entry
import Stencil.Toml.Calendar

/-!
# TOML documents

A document is a tree of tables.  A table is opened once by a header, by the headers of its parts or
by dotted keys, and how it was opened decides what may still be added to it.  Tables keep the order
of their fields, because the key of the first one may make the table a date.
-/

namespace Stencil

namespace Toml

/-- How a table was opened. -/
inductive Form where
  /-- By the header of a table inside it. -/
  | implied
  /-- By a header of its own. -/
  | defined
  /-- By a dotted key. -/
  | dotted
  /-- By braces. -/
  | inline
  /-- By a dotted key between braces. -/
  | inlineDotted
deriving DecidableEq, Repr

namespace Form

/-- Whether the table was written between braces, where it is complete. -/
def isInline : Form → Bool
  | inline => true
  | inlineDotted => true
  | _ => false

/-- Whether no header opened the table. -/
def isOpen : Form → Bool
  | implied => true
  | dotted => true
  | inlineDotted => true
  | _ => false

end Form
end Toml

/-- A value in a document. -/
inductive Toml where
  /-- A truth value, a number or a text. -/
  | scalar (value : Scalar)
  /-- A date, a time or both. -/
  | calendar (text : List Char)
  /-- An array between brackets. -/
  | array (items : List Toml)
  /-- A table. -/
  | table (form : Toml.Form) (fields : List (String × Toml))
  /-- An array of tables, each opened by a header. -/
  | tables (items : List Toml)

namespace Toml

/-- Fields of a table, in the order in which their keys were given. -/
abbrev Fields := List (String × Toml)

/-- Gives a value to a key, in the place of any value it had or else at the end. -/
def put (key : String) (value : Toml) : Fields → Fields
  | [] => [(key, value)]
  | field :: fields =>
    if field.1 = key then (key, value) :: fields else field :: put key value fields

/-- Changes a table that is still open to headers, or the last of an array of tables. -/
def onTable (change : Form → Fields → Option Toml) : Toml → Option Toml
  | table form fields => if form.isInline then none else change form fields
  | tables items =>
    match items.getLast? with
    | some (table form fields) =>
      (change form fields).map fun changed => tables (items.dropLast ++ [changed])
    | _ => none
  | _ => none

/-- Changes the table at the end of a path.  Tables that are missing on the way are implied. -/
def onPath (change : Form → Fields → Option Toml) : List String → Toml → Option Toml
  | [], item => onTable change item
  | key :: path, item =>
    onTable (fun form fields => do
      let part ← onPath change path ((Entries.get? fields key).getD (table .implied []))
      return table form (put key part fields)) item

/-- Opens a table by its header.  A table that was implied moves to the end of its table. -/
def openTable (key : String) (form : Form) (fields : Fields) : Option Toml :=
  match Entries.get? fields key with
  | none => some (table form (put key (table .defined []) fields))
  | some (table .implied parts) =>
    some (table form (fields.filter (·.1 ≠ key) ++ [(key, table .defined parts)]))
  | _ => none

/-- Adds a table to an array of tables by its header. -/
def addTable (key : String) (form : Form) (fields : Fields) : Option Toml :=
  let fresh := table .defined []
  match Entries.get? fields key with
  | none => some (table form (put key (tables [fresh]) fields))
  | some (tables items) =>
    some (table form (put key (tables (items ++ [fresh])) fields))
  | _ => none

/-- Gives a value to a dotted key.  The tables on the way are opened in the given form or may still
be extended, and the last of them must have been opened in that form. -/
def assign (opened : Form) (value : Toml) : List String → Fields → Option Fields
  | [], _ => none
  | [key], fields =>
    if (Entries.get? fields key).isSome then none else some (put key value fields)
  | key :: path, fields =>
    let fits (form : Form) : Bool := if path.length = 1 then form = opened else form.isOpen
    match Entries.get? fields key with
    | none => do
      let parts ← assign opened value path []
      return put key (table opened parts) fields
    | some (table form parts) =>
      if fits form then do
        let parts ← assign opened value path parts
        return put key (table form parts) fields
      else none
    | some (tables items) =>
      match items.getLast? with
      | some (table form parts) =>
        if path.length = 1 then none
        else do
          let parts ← assign opened value path parts
          return put key (tables (items.dropLast ++ [table form parts])) fields
      | _ => none
    | _ => none

/-- The key whose value is the text of a date, when it is the first key of a table. -/
def calendarKey : String := "$__toml_private_datetime"

/-- The value of the first field, if its key makes the table a date. -/
def calendarField? : Fields → Option Toml
  | [] => none
  | (key, value) :: _ => if key = calendarKey then some value else none

/-- The text of the date that the field of a table denotes. -/
def calendarText? : Toml → Option (List Char)
  | scalar (.text text) => Calendar.text? text.toList
  | _ => none

mutual

/-- The entry that a value stands for.  Its fields are in the order of their keys. -/
def toEntry? (origin : Option String) : Toml → Option Entry
  | scalar value => some (.scalar origin value)
  | calendar text => some (.scalar origin (.text (String.ofList text)))
  | array items => (toEntries? origin items).map (.array origin)
  | tables items => (toEntries? origin items).map (.array origin)
  | table _ fields =>
    match calendarField? fields with
    | some value =>
      value.calendarText?.map fun text => .scalar origin (.text (String.ofList text))
    | none => (toFields? origin fields).map fun fields => .table origin (Entries.ofPairs fields)

/-- The entries that values stand for. -/
def toEntries? (origin : Option String) : List Toml → Option (List Entry)
  | [] => some []
  | item :: items => do
    let entry ← toEntry? origin item
    let entries ← toEntries? origin items
    return entry :: entries

/-- The entries that fields stand for. -/
def toFields? (origin : Option String) : List (String × Toml) → Option (List (String × Entry))
  | [] => some []
  | (key, value) :: fields => do
    let entry ← toEntry? origin value
    let entries ← toFields? origin fields
    return (key, entry) :: entries

end

end Toml
end Stencil
