import Stencil.Decimal.Style
import Stencil.Json.Basic
import Stencil.Text.LowerCase
import Stencil.Text.Quoted

/-!
# Entries

What a settings source says is a tree of entries.  Each remembers the source from which it comes,
but a table made from the fields of several sources comes from none.  Putting a table where another
stands merges the two, name by name, and putting anything else replaces what stands there.  Names
are put in lower case, so fields whose names differ in case only are put in the same place.
-/

namespace Stencil

/-- A value without parts. -/
inductive Scalar where
  /-- Nothing. -/
  | null
  /-- A truth value. -/
  | boolean (value : Bool)
  /-- An integer of 64 bits. -/
  | integer (value : Int)
  /-- A number. -/
  | real (value : Binary64)
  /-- A text. -/
  | text (value : String)
deriving DecidableEq, Repr

namespace Scalar

/-- Whether an integer has 64 bits with a sign. -/
def isInRange (value : Int) : Bool :=
  -0x8000000000000000 ≤ value && value < 0x8000000000000000

end Scalar

/-- A value in a settings source, with the name of the source. -/
inductive Entry where
  /-- A value without parts. -/
  | scalar (origin : Option String) (value : Scalar)
  /-- A list of values. -/
  | array (origin : Option String) (items : List Entry)
  /-- Values under names. -/
  | table (origin : Option String) (fields : List (String × Entry))

namespace Entry

/-- The entry that says nothing. -/
def null : Entry :=
  scalar none .null

/-- The table without fields. -/
def emptyTable : Entry :=
  table none []

/-- The source of the entry. -/
def origin : Entry → Option String
  | scalar origin _ => origin
  | array origin _ => origin
  | table origin _ => origin

/-- The fields of a table.  Other entries have none. -/
def fields : Entry → List (String × Entry)
  | table _ fields => fields
  | _ => []

/-- The items of an array.  Other entries have none. -/
def items : Entry → List Entry
  | array _ items => items
  | _ => []

/-- The source of a table.  A table in place of another entry comes from no source. -/
def tableOrigin : Entry → Option String
  | table origin _ => origin
  | _ => none

/-- The source of an array.  An array in place of another entry comes from no source. -/
def arrayOrigin : Entry → Option String
  | array origin _ => origin
  | _ => none

/-- The entry under a name, if there is one. -/
def get? (entry : Entry) (name : String) : Option Entry :=
  Entries.get? entry.fields name

/-- Puts an entry under a name of a table, which stands in place of any other entry. -/
def put (target : Entry) (name : String) (value : Entry) : Entry :=
  table target.tableOrigin (Entries.insert name value target.fields)

mutual

/-- Merges an entry under a name into a target. -/
def merge (name : String) : (value target : Entry) → Entry
  | table _ fields, target =>
    target.put name (mergeFields fields ((target.get? name).getD emptyTable))
  | array origin items, target => target.put name (array origin items)
  | scalar origin value, target => target.put name (scalar origin value)

/-- Merges fields, one after the other, into a target. -/
def mergeFields : (fields : List (String × Entry)) → (target : Entry) → Entry
  | [], target => target
  | (name, value) :: fields, target => mergeFields fields (merge (Text.lower name) value target)

end

/-- The place that an index denotes, where a negative one counts from the end. -/
def place (length : Nat) (index : Int) : Nat :=
  (if index < 0 then length + index else index).toNat

/-- Puts an entry at a place of an array, which stands in place of any other entry and is made long
enough. -/
def putAt (target : Entry) (index : Nat) (value : Entry) : Entry :=
  let items := target.items
  let padded := items ++ List.replicate (index + 1 - items.length) null
  array target.arrayOrigin (padded.set index value)

end Entry
end Stencil
