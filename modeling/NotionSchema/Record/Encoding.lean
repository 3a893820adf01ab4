import NotionSchema.Json.Basic
import NotionSchema.Record.Basic

namespace NotionSchema

def Person.toJson (p : Person) : Json :=
  .object
    ([("id", .string p.id), ("name", .string p.name)] ++
      match p.avatarUrl with
      | some url => [("avatar_url", .string url)]
      | none => [])

mutual

def PropertyValue.toJson : PropertyValue → Json
  | .text s => .string s
  | .number x => .number (.float x)
  | .checkbox b => .bool b
  | .date start => .ofString? start
  | .list items => .strings items
  | .people people => .array (people.map Person.toJson)
  | .references ids => .array (ids.map fun id => .object [("id", .string id)])
  | .record r => r.toJson
  | .records rs => .array (recordsJson rs)

def Record.toJson : Record → Json
  | ⟨id, createdTime, lastEditedTime, properties⟩ =>
    .object
      (("id", .string id) :: ("createdTime", .string createdTime) ::
        ("lastEditedTime", .string lastEditedTime) :: propertiesJson properties)

def recordsJson : List Record → List Json
  | [] => []
  | r :: rest => r.toJson :: recordsJson rest

def propertiesJson : List (String × PropertyValue) → List (String × Json)
  | [] => []
  | (name, value) :: rest => (name, value.toJson) :: propertiesJson rest

end

namespace Json

mutual

/-- Members sorted by key, the last one of each kept, at every depth. -/
def normalize : Json → Json
  | .array items => .array (normalizeItems items)
  | .object members => .ofMembers (normalizeMembers members)
  | v => v

def normalizeItems : List Json → List Json
  | [] => []
  | v :: rest => v.normalize :: normalizeItems rest

def normalizeMembers : List (String × Json) → List (String × Json)
  | [] => []
  | (key, v) :: rest => (key, v.normalize) :: normalizeMembers rest

end

end Json

def Record.toTree (r : Record) : Json := r.toJson.normalize

end NotionSchema
