import NotionSchema.Log
import NotionSchema.Schema.Attribute
import NotionSchema.Schema.PropertyType

namespace NotionSchema

namespace PropertyType

def overrides : List (String × PropertyType) :=
  [("title", title), ("checkbox", checkbox), ("date", date), ("people", people),
    ("select", select), ("multiSelect", multiSelect), ("relation", relation),
    ("formula", formula), ("richText", richText), ("number", number), ("url", url),
    ("email", email), ("phoneNumber", phoneNumber), ("files", files)]

def tokenDefaults : List (String × PropertyType) :=
  [("String", richText), ("Boolean", checkbox), ("DateTime", date), ("Json", people),
    ("String[]", multiSelect)]

def listSuffix : List Char := ['[', ']']

def isListToken (token : String) : Bool := listSuffix.isSuffixOf token.toList

def itemToken? (token : String) : Option String :=
  if isListToken token then some (String.ofList (token.toList.take (token.toList.length - 2)))
  else none

def ofAttributes? (attributes : List Attribute) : Option PropertyType :=
  (overrides.find? fun o => attributes.any (·.name == o.1)).map (·.2)

def ofToken? (token : String) : Option PropertyType :=
  match tokenDefaults.lookup token with
  | some t => some t
  | none => if isListToken token then some relation else ofTagIgnoringCase? token

def unknownToken (token : String) : LogEvent :=
  .warn "No Notion property type for declared type, defaulting to rich_text"
    [("type_token", .text token)]

def resolve (token : String) (attributes : List Attribute) : Logged PropertyType :=
  match ofAttributes? attributes with
  | some t => pure t
  | none =>
    match ofToken? token with
    | some t => pure t
    | none => do
      Logged.emit (unknownToken token)
      return richText

end PropertyType

end NotionSchema
