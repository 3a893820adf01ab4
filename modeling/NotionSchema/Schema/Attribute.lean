namespace NotionSchema

structure Attribute where
  name : String
  argument : Option String
deriving DecidableEq, Repr

namespace Attribute

def text (a : Attribute) : String :=
  match a.argument with
  | some argument => "@" ++ a.name ++ "(\"" ++ argument ++ "\")"
  | none => "@" ++ a.name

end Attribute

end NotionSchema
