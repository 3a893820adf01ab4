import NotionSchema.Json.Basic

namespace NotionSchema

inductive SortDirection where
  | ascending
  | descending
deriving DecidableEq, Repr

namespace SortDirection

def name : SortDirection → String
  | ascending => "ascending"
  | descending => "descending"

def ofName? : String → Option SortDirection
  | "ascending" | "asc" => some ascending
  | "descending" | "desc" => some descending
  | _ => none

end SortDirection

/-- The property name is a remote name. -/
structure SortEntry where
  property : String
  direction : SortDirection
deriving DecidableEq, Repr

namespace SortEntry

def systemTime? : String → Option String
  | "createdTime" | "Created At" | "created_time" => some "created_time"
  | "lastEditedTime" | "last_edited_time" => some "last_edited_time"
  | _ => none

def toJson (e : SortEntry) : Json :=
  match systemTime? e.property with
  | some time => .object [("direction", .string e.direction.name), ("timestamp", .string time)]
  | none => .object [("direction", .string e.direction.name), ("property", .string e.property)]

end SortEntry

end NotionSchema
