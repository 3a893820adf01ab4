import NotionSchema.Schema.Field

namespace NotionSchema

structure Model where
  name : String
  databaseId : String
  fields : List Field
deriving DecidableEq, Repr

namespace Model

def field? (m : Model) (name : String) : Option Field := m.fields.find? (·.name == name)

def titleFields (m : Model) : List Field := m.fields.filter (·.propertyType == .title)

end Model

structure Schema where
  models : List Model
deriving DecidableEq, Repr

namespace Schema

def model? (s : Schema) (name : String) : Option Model := s.models.find? (·.name == name)

def size (s : Schema) : Nat := s.models.length

def isEmpty (s : Schema) : Bool := s.models.isEmpty

end Schema

end NotionSchema
