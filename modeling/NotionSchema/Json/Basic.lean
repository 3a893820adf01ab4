import NotionSchema.Table
import NotionSchema.Number.Binary64

namespace NotionSchema

/-- Integers are those of 64 bits, signed or not. All other numbers are doubles. -/
inductive JsonNumber where
  | int (value : Int)
  | float (value : Binary64)
deriving DecidableEq, Repr

inductive Json where
  | null
  | bool (value : Bool)
  | number (value : JsonNumber)
  | string (value : String)
  | array (items : List Json)
  | object (members : List (String × Json))

instance : Inhabited Json := ⟨.null⟩

def JsonNumber.toFloat : JsonNumber → Binary64
  | .int n => .ofInt n
  | .float x => x

namespace Json

def ofMembers (members : List (String × Json)) : Json := .object (Table.ofList members)

def nat (n : Nat) : Json := .number (.int n)

def strings (items : List String) : Json := .array (items.map .string)

def ofString? : Option String → Json
  | none => .null
  | some s => .string s

def get? : Json → String → Option Json
  | .object members, key => Table.get? members key
  | _, _ => none

def string? : Json → Option String
  | .string s => some s
  | _ => none

def bool? : Json → Option Bool
  | .bool b => some b
  | _ => none

def array? : Json → Option (List Json)
  | .array items => some items
  | _ => none

def object? : Json → Option (List (String × Json))
  | .object members => some members
  | _ => none

def float? : Json → Option Binary64
  | .number n => some n.toFloat
  | _ => none

def natBelow? (bound : Nat) : Json → Option Nat
  | .number (.int n) => if 0 ≤ n && n < bound then some n.toNat else none
  | _ => none

def getString? (v : Json) (key : String) : Option String := (v.get? key).bind string?

end Json

end NotionSchema
