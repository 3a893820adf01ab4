namespace NotionSchema

inductive Locale where
  | en
  | es
deriving DecidableEq, Repr

namespace Locale

def name : Locale → String
  | en => "en"
  | es => "es"

/-- Only the letter case of ASCII is ignored. -/
def ofName? (s : String) : Option Locale :=
  if s.toLower = "en" then some en
  else if s.toLower = "es" then some es
  else none

end Locale

end NotionSchema
