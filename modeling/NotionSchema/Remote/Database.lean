import NotionSchema.Json.Fields
import NotionSchema.Json.Shape
import NotionSchema.Text.Case

namespace NotionSchema

structure RichText where
  plainText : String
deriving DecidableEq, Repr

structure RemoteProperty where
  id : String
  name : String
  kind : String
  config : Table Json

structure DatabaseDescriptor where
  id : String
  title : List RichText
  properties : Table RemoteProperty

namespace RichText

def ofJson? (v : Json) : Option RichText := do
  match ← v.fields? ["plain_text"] with
  | [plainText] => return ⟨← Json.withDefault "" Json.string? plainText⟩
  | _ => none

def toJson (t : RichText) : Json := .object [("plain_text", .string t.plainText)]

def shape : Shape := .fields [("plain_text", .whole)]

end RichText

namespace RemoteProperty

def namedKeys : List String := ["id", "name", "type"]

/-- All keys but the named ones make up the configuration. -/
def ofJson? (v : Json) : Option RemoteProperty := do
  let members ← v.object?
  return {
    id := ← Json.withDefault "" Json.string? (Table.get? members "id")
    name := ← Json.withDefault "" Json.string? (Table.get? members "name")
    kind := ← Json.required Json.string? (Table.get? members "type")
    config := members.filter fun e => !namedKeys.contains e.1 }

def toJson (p : RemoteProperty) : Json :=
  .object (((p.config.insert "id" (.string p.id)).insert "name" (.string p.name)).insert "type"
    (.string p.kind))

def shape : Shape := .entries namedKeys

def options (p : RemoteProperty) : List String :=
  match (p.config.get? p.kind).bind (·.get? "options") |>.bind Json.array? with
  | some options => options.filterMap (·.getString? "name")
  | none => []

end RemoteProperty

namespace DatabaseDescriptor

def ofJson? (v : Json) : Option DatabaseDescriptor := do
  match ← v.fields? ["id", "title", "properties"] with
  | [id, title, properties] =>
    return {
      id := ← Json.required Json.string? id
      title := ← Json.withDefault [] (Json.listOf? RichText.ofJson?) title
      properties := ← Json.withDefault [] (Json.tableOf? RemoteProperty.ofJson?) properties }
  | _ => none

def toJson (d : DatabaseDescriptor) : Json :=
  .ofMembers
    [("id", .string d.id), ("title", .array (d.title.map RichText.toJson)),
      ("properties", .object (d.properties.mapValues RemoteProperty.toJson))]

def shape : Shape :=
  .fields
    [("id", .whole), ("title", .items RichText.shape), ("properties", .values RemoteProperty.shape)]

def titleText (d : DatabaseDescriptor) : String := String.join (d.title.map (·.plainText))

/-- The first property, in key order, whose key is the name up to case. -/
def entry? (d : DatabaseDescriptor) (name : String) : Option (String × RemoteProperty) :=
  d.properties.find? fun e => Text.sameIgnoringCase e.1 name

def property? (d : DatabaseDescriptor) (name : String) : Option RemoteProperty :=
  (d.entry? name).map (·.2)

end DatabaseDescriptor

end NotionSchema
