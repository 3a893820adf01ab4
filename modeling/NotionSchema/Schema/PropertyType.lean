import NotionSchema.Text.Case

namespace NotionSchema

inductive PropertyType where
  | title
  | richText
  | number
  | select
  | multiSelect
  | date
  | checkbox
  | url
  | email
  | phoneNumber
  | people
  | relation
  | formula
  | files
deriving DecidableEq, Repr

namespace PropertyType

def all : List PropertyType :=
  [title, richText, number, select, multiSelect, date, checkbox, url, email, phoneNumber, people,
    relation, formula, files]

def tag : PropertyType → String
  | title => "title"
  | richText => "rich_text"
  | number => "number"
  | select => "select"
  | multiSelect => "multi_select"
  | date => "date"
  | checkbox => "checkbox"
  | url => "url"
  | email => "email"
  | phoneNumber => "phone_number"
  | people => "people"
  | relation => "relation"
  | formula => "formula"
  | files => "files"

def ofTag? (tag : String) : Option PropertyType := all.find? (·.tag == tag)

/-- Letters may be of either case. -/
def ofTagIgnoringCase? (tag : String) : Option PropertyType := ofTag? (Text.lower tag)

theorem mem_all (t : PropertyType) : t ∈ all := by cases t <;> decide

theorem ofTag?_eq_some_iff {tag : String} {t : PropertyType} :
    ofTag? tag = some t ↔ t.tag = tag := by
  constructor
  · intro h
    simpa using List.find?_some h
  · intro h
    subst h
    cases t <;> decide

theorem tag_injective {s t : PropertyType} (h : s.tag = t.tag) : s = t :=
  Option.some.inj ((ofTag?_eq_some_iff.2 rfl).symm.trans (ofTag?_eq_some_iff.2 h.symm))

end PropertyType

end NotionSchema
