import NotionSchema.Log
import NotionSchema.Number.Text
import NotionSchema.Record.Basic
import NotionSchema.Remote.Page

namespace NotionSchema

namespace PropertyValue

def firstPlainText (v : Json) : String :=
  match v.array? with
  | some (first :: _) => (first.getString? "plain_text").getD ""
  | _ => ""

def optionName? (v : Json) : Option String := v.getString? "name"

def reference? (v : Json) : Option String := v.getString? "id"

def elements (v : Json) : List Json := v.array?.getD []

def personOf (v : Json) : Person :=
  ⟨(v.getString? "id").getD "", (v.getString? "name").getD "", v.getString? "avatar_url"⟩

def formulaText (v : Json) : String :=
  match v.getString? "string" with
  | some s => s
  | none =>
    match (v.get? "number").bind Json.float? with
    | some x => x.plainText
    | none => ""

def ofPayload? (kind : String) (payload : Json) : Option PropertyValue :=
  match kind with
  | "title" | "rich_text" => some (.text (firstPlainText payload))
  | "number" => some (.number (payload.float?.getD .zero))
  | "select" => some (.text ((optionName? payload).getD ""))
  | "multi_select" | "files" => some (.list ((elements payload).filterMap optionName?))
  | "date" => some (.date (payload.getString? "start"))
  | "checkbox" => some (.checkbox (payload.bool?.getD false))
  | "people" => some (.people ((elements payload).map personOf))
  | "relation" => some (.references ((elements payload).filterMap reference?))
  | "formula" => some (.text (formulaText payload))
  | "url" | "email" | "phone_number" => some (.text (payload.string?.getD ""))
  | _ => none

def unknownType (kind : String) : LogEvent :=
  .warn "Unknown Notion property type, decoding as empty string" [("property_type", .text kind)]

def decode (property : Json) : Logged PropertyValue :=
  let kind := (property.getString? "type").getD ""
  match ofPayload? kind ((property.get? kind).getD .null) with
  | some value => pure value
  | none => do
    Logged.emit (unknownType kind)
    return .text ""

end PropertyValue

namespace Record

def decodeProperties : List (String × Json) → Logged (List (String × PropertyValue))
  | [] => return []
  | (name, property) :: rest => do
    let value ← PropertyValue.decode property
    return (name, value) :: (← decodeProperties rest)

/-- Each property is decoded by itself, and none is left out. -/
def decode (page : Page) : Logged Record := do
  return ⟨page.id, page.createdTime, page.lastEditedTime, ← decodeProperties page.properties⟩

end Record

end NotionSchema
