import NotionSchema.Json.Fields
import NotionSchema.Json.Shape

namespace NotionSchema

structure Page where
  id : String
  createdTime : String
  lastEditedTime : String
  properties : Table Json

structure QueryResponse where
  results : List Page
  nextCursor : Option String
  hasMore : Bool

namespace Page

def ofJson? (v : Json) : Option Page := do
  match ← v.fields? ["id", "created_time", "last_edited_time", "properties"] with
  | [id, createdTime, lastEditedTime, properties] =>
    return {
      id := ← Json.required Json.string? id
      createdTime := ← Json.withDefault "" Json.string? createdTime
      lastEditedTime := ← Json.withDefault "" Json.string? lastEditedTime
      properties := ← Json.withDefault [] (Json.tableOf? some) properties }
  | _ => none

def toJson (p : Page) : Json :=
  .ofMembers
    [("id", .string p.id), ("created_time", .string p.createdTime),
      ("last_edited_time", .string p.lastEditedTime), ("properties", .object p.properties)]

def shape : Shape :=
  .fields
    [("id", .whole), ("created_time", .whole), ("last_edited_time", .whole),
      ("properties", .values .whole)]

end Page

namespace QueryResponse

def ofJson? (v : Json) : Option QueryResponse := do
  match ← v.fields? ["results", "next_cursor", "has_more"] with
  | [results, nextCursor, hasMore] =>
    return {
      results := ← Json.withDefault [] (Json.listOf? Page.ofJson?) results
      nextCursor := ← Json.withDefault none (Json.nullable Json.string?) nextCursor
      hasMore := ← Json.withDefault false Json.bool? hasMore }
  | _ => none

def toJson (r : QueryResponse) : Json :=
  .ofMembers
    [("results", .array (r.results.map Page.toJson)), ("next_cursor", .ofString? r.nextCursor),
      ("has_more", .bool r.hasMore)]

def shape : Shape :=
  .fields [("results", .items Page.shape), ("next_cursor", .whole), ("has_more", .whole)]

end QueryResponse

end NotionSchema
