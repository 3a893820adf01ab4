import NotionSchema.Remote.Database
import NotionSchema.Schema.Basic

namespace NotionSchema

structure TypeMismatch where
  field : String
  expected : String
  found : String
deriving DecidableEq, Repr

def TypeMismatch.text (m : TypeMismatch) : String :=
  m.field ++ ": expected " ++ m.expected ++ ", got " ++ m.found

def Field.property? (f : Field) (d : DatabaseDescriptor) : Option RemoteProperty :=
  d.property? f.remoteName

def Field.expectedTag (f : Field) : String := f.propertyType.tag

def Field.mismatch? (f : Field) (d : DatabaseDescriptor) : Option TypeMismatch :=
  match f.property? d with
  | none => some ⟨f.name, f.expectedTag, "not found"⟩
  | some p => if p.kind = f.expectedTag then none else some ⟨f.name, f.expectedTag, p.kind⟩

structure ModelDiff where
  missing : List String
  extra : List String
  mismatches : List TypeMismatch
deriving DecidableEq, Repr

namespace ModelDiff

def isCompatible (d : ModelDiff) : Bool := d.mismatches.isEmpty

def ofModel (m : Model) (d : DatabaseDescriptor) : ModelDiff where
  missing := (m.fields.filter fun f => (f.property? d).isNone).map (·.remoteName)
  extra := d.properties.keys.filter fun key =>
    !m.fields.any fun f => Text.sameIgnoringCase f.remoteName key
  mismatches := m.fields.filterMap (·.mismatch? d)

end ModelDiff

end NotionSchema
