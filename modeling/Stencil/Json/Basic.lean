import Stencil.Decimal.Binary64
import Stencil.Dictionary

/-!
# JSON values

A number is an exact integer or a 64-bit number.  The fields of an object are listed in order of
their names; `Json.Ordered` says so at every depth.
-/

namespace Stencil

namespace Json

/-- A number in a JSON text. -/
inductive Number where
  /-- An integer that is kept exactly. -/
  | integer (value : Int)
  /-- Any other number. -/
  | real (value : Binary64)
deriving DecidableEq, Repr

namespace Number

/-- Whether an integer is kept exactly: it fits into 64 bits, signed or unsigned. -/
def isExact (value : Int) : Bool :=
  -0x8000000000000000 ≤ value && value < 0x10000000000000000

end Number
end Json

/-- A JSON value. -/
inductive Json where
  /-- The value `null`. -/
  | null
  /-- A truth value. -/
  | boolean (value : Bool)
  /-- A number. -/
  | number (value : Json.Number)
  /-- A text. -/
  | string (text : String)
  /-- A list of values. -/
  | array (items : List Json)
  /-- Values under names. -/
  | object (fields : List (String × Json))
deriving Inhabited, Repr

namespace Json

/-- The object with the last value of each name. -/
def ofPairs (pairs : List (String × Json)) : Json :=
  object (Entries.ofPairs pairs)

/-- The fields of an object.  Other values have none. -/
def fields : Json → List (String × Json)
  | object fields => fields
  | _ => []

/-- The integer as a value. -/
def integer (value : Int) : Json :=
  number (.integer value)

mutual

/-- Whether the fields of every object in a value are in order. -/
def Ordered : Json → Prop
  | array items => ItemsOrdered items
  | object fields => Entries.Sorted fields ∧ FieldsOrdered fields
  | _ => True

/-- Whether the fields of every object in a list of values are in order. -/
def ItemsOrdered : List Json → Prop
  | [] => True
  | item :: items => item.Ordered ∧ ItemsOrdered items

/-- Whether the fields of every object in the values of fields are in order. -/
def FieldsOrdered : List (String × Json) → Prop
  | [] => True
  | (_, value) :: fields => value.Ordered ∧ FieldsOrdered fields

end

end Json
end Stencil
