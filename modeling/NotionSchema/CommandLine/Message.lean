import NotionSchema.Locale

namespace NotionSchema.CommandLine

inductive Message where
  | parsed (models fields : Nat)
  | skipped (line : Nat) (text : String)
  | modelMatches (model title : String)
  | undeclared (property : String)
  | allValid (models : Nat)
deriving DecidableEq, Repr

def Message.text : Message → Locale → String
  | parsed models fields, .en =>
    "Parsed " ++ toString models ++ " model(s) with " ++ toString fields ++ " field(s)"
  | parsed models fields, .es =>
    "Se analizaron " ++ toString models ++ " modelo(s) con " ++ toString fields ++ " campo(s)"
  | skipped line text, .en => "skipped line " ++ toString line ++ ": " ++ text
  | skipped line text, .es => "línea " ++ toString line ++ " omitida: " ++ text
  | modelMatches model title, .en => "✓ " ++ model ++ " matches database '" ++ title ++ "'"
  | modelMatches model title, .es =>
    "✓ " ++ model ++ " coincide con la base de datos '" ++ title ++ "'"
  | undeclared property, .en => "  ! '" ++ property ++ "' exists in Notion but not in the schema"
  | undeclared property, .es => "  ! '" ++ property ++ "' existe en Notion pero no en el esquema"
  | allValid models, .en => "Schema is in sync with Notion (" ++ toString models ++ " model(s))"
  | allValid models, .es =>
    "El esquema está sincronizado con Notion (" ++ toString models ++ " modelo(s))"

end NotionSchema.CommandLine
