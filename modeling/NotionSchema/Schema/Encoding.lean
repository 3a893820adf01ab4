import NotionSchema.Json.Basic
import NotionSchema.Schema.Document

namespace NotionSchema

def Attribute.toJson (a : Attribute) : Json :=
  .object [("argument", .ofString? a.argument), ("name", .string a.name)]

def Field.toJson (f : Field) : Json :=
  .object
    [("attributes", .array (f.attributes.map Attribute.toJson)),
      ("mapped_name", .ofString? f.mappedName), ("name", .string f.name),
      ("optional", .bool f.optional), ("property_type", .string f.propertyType.tag),
      ("type_token", .string f.typeToken)]

def Model.toJson (m : Model) : Json :=
  .object
    [("database_id", .string m.databaseId), ("fields", .array (m.fields.map Field.toJson)),
      ("name", .string m.name)]

def SkippedLine.toJson (s : SkippedLine) : Json :=
  .object [("line", .nat s.line), ("model", .string s.model), ("text", .string s.text)]

end NotionSchema
