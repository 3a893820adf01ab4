import NotionSchema.Query.Basic
import NotionSchema.Schema.Basic

namespace NotionSchema

structure ModelBinding where
  model : String
  databaseId : String
  properties : Table String
  relations : Table String
  propertyTypes : Table PropertyType
deriving DecidableEq, Repr

namespace ModelBinding

def empty (m : Model) : ModelBinding := ⟨m.name, m.databaseId, [], [], []⟩

def undeclaredTarget (model field target : String) : LogEvent :=
  .warn "Relation target is not declared in the schema"
    [("field", .text field), ("model", .text model), ("target", .text target)]

def withField (b : ModelBinding) (f : Field) : ModelBinding :=
  { b with
    properties := b.properties.insert f.name f.remoteName
    propertyTypes := b.propertyTypes.insert f.remoteName f.propertyType }

/-- A relation whose target no model declares stays without database. -/
def withTarget (s : Schema) (b : ModelBinding) (f : Field) : Logged ModelBinding :=
  match f.relationTarget with
  | none => return b
  | some target =>
    match s.model? target with
    | some related => return { b with relations := b.relations.insert f.name related.databaseId }
    | none => do
      Logged.emit (undeclaredTarget b.model f.name target)
      return b

def addFields (s : Schema) (b : ModelBinding) : List Field → Logged ModelBinding
  | [] => return b
  | f :: rest => do addFields s (← withTarget s (b.withField f) f) rest

def query (b : ModelBinding) : Query :=
  (((Query.new b.databaseId b.model).withProperties b.properties).withRelations b.relations)
    |>.withPropertyTypes b.propertyTypes

end ModelBinding

def Schema.binding (s : Schema) (model : String) : Logged (Except MappingError ModelBinding) :=
  match s.model? model with
  | none => return .error (.unknownModel model)
  | some m => do return .ok (← ModelBinding.addFields s (.empty m) m.fields)

end NotionSchema
