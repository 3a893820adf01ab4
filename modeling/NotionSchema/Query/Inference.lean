import NotionSchema.Schema.PropertyType

namespace NotionSchema

def hasInfix (needle : List Char) : List Char → Bool
  | [] => needle.isEmpty
  | c :: s => needle.isPrefixOf (c :: s) || hasInfix needle s

namespace PropertyType

def inferLower (name : List Char) : PropertyType :=
  if name = "title".toList || name = "name".toList then title
  else if "at".toList.isSuffixOf name || hasInfix "date".toList name then date
  else if "is".toList.isPrefixOf name || name = "active".toList then checkbox
  else if hasInfix "tags".toList name then multiSelect
  else if hasInfix "status".toList name then select
  else richText

def infer (property : String) : PropertyType := inferLower (Text.lower property).toList

end PropertyType

def looksLikeRelation (property : String) : Bool :=
  let name := (Text.lower property).toList
  name == "domain".toList || name == "documents".toList || hasInfix "relation".toList name

end NotionSchema
