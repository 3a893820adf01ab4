import NotionSchema.Schema.Resolution

namespace NotionSchema

structure Field where
  name : String
  typeToken : String
  optional : Bool
  attributes : List Attribute
deriving DecidableEq, Repr

namespace Field

/-- The field, with a warning if its type is unknown. -/
def declare (name typeToken : String) (optional : Bool) (attributes : List Attribute) :
    Logged Field := do
  let _ ← PropertyType.resolve typeToken attributes
  return ⟨name, typeToken, optional, attributes⟩

def propertyType (f : Field) : PropertyType :=
  (PropertyType.resolve f.typeToken f.attributes).value

def attribute? (f : Field) (name : String) : Option Attribute :=
  f.attributes.find? (·.name == name)

def mappedName (f : Field) : Option String := (f.attribute? "map").bind (·.argument)

def remoteName (f : Field) : String := f.mappedName.getD f.name

def isList (f : Field) : Bool := PropertyType.isListToken f.typeToken

def relationTarget (f : Field) : Option String :=
  if f.propertyType = .relation then
    match (f.attribute? "relation").bind (·.argument) with
    | some target => some target
    | none => PropertyType.itemToken? f.typeToken
  else none

end Field

end NotionSchema
