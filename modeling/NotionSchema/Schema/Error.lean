namespace NotionSchema

inductive ParseError where
  | missingDatabaseId (line : Nat) (text : String)
  | unterminatedModel (model : String) (line : Nat)
  | duplicateModel (model : String) (line : Nat)
  | noModels
deriving DecidableEq, Repr

def ParseError.message : ParseError → String
  | .missingDatabaseId line text =>
    "line " ++ toString line ++ ": model header is missing @notionDatabase(\"<id>\"): `" ++ text ++
      "`"
  | .unterminatedModel model line =>
    "line " ++ toString line ++ ": model '" ++ model ++ "' is never closed with '\x7d'"
  | .duplicateModel model line =>
    "line " ++ toString line ++ ": model '" ++ model ++ "' is declared more than once"
  | .noModels => "no valid models found in schema"

end NotionSchema
