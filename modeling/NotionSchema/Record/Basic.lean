import NotionSchema.Table
import NotionSchema.Number.Binary64

namespace NotionSchema

structure Person where
  id : String
  name : String
  avatarUrl : Option String
deriving DecidableEq, Repr

mutual

inductive PropertyValue where
  | text (value : String)
  | number (value : Binary64)
  | checkbox (value : Bool)
  | date (start : Option String)
  | list (items : List String)
  | people (people : List Person)
  | references (ids : List String)
  | record (related : Record)
  | records (related : List Record)

structure Record where
  id : String
  createdTime : String
  lastEditedTime : String
  properties : List (String × PropertyValue)

end

namespace PropertyValue

def text? : PropertyValue → Option String
  | .text s => some s
  | _ => none

/-- Empty texts, absent dates, zero and an unset checkbox are not present; all else is. -/
def isPresent : PropertyValue → Bool
  | .text s => s != ""
  | .date start => start.isSome
  | .number x => !x.isZero
  | .checkbox b => b
  | _ => true

end PropertyValue

namespace Record

def get? (r : Record) (property : String) : Option PropertyValue :=
  Table.get? r.properties property

end Record

end NotionSchema
