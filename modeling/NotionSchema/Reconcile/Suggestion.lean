import NotionSchema.Remote.Database
import NotionSchema.Schema.Field

namespace NotionSchema

structure DeclaredType where
  typeToken : String
  attributeName : Option String
deriving DecidableEq, Repr

namespace PropertyType

def declared : PropertyType → DeclaredType
  | title => ⟨"String", some "title"⟩
  | richText => ⟨"String", none⟩
  | number => ⟨"Number", none⟩
  | select => ⟨"String", some "select"⟩
  | multiSelect => ⟨"String[]", none⟩
  | date => ⟨"DateTime", none⟩
  | checkbox => ⟨"Boolean", none⟩
  | people => ⟨"Json", none⟩
  | relation => ⟨"String[]", some "relation"⟩
  | formula => ⟨"String", some "formula"⟩
  | url => ⟨"String", some "url"⟩
  | email => ⟨"String", some "email"⟩
  | phoneNumber => ⟨"String", some "phoneNumber"⟩
  | files => ⟨"String", some "files"⟩

/-- The declaration that resolves to a declared type's property type again. -/
theorem resolve_declared (t : PropertyType) :
    resolve t.declared.typeToken (t.declared.attributeName.toList.map fun a => ⟨a, none⟩) =
      pure t := by
  cases t <;> decide +kernel

end PropertyType

/-- The declaration for a type tag. A tag that no schema type has is declared as text. -/
def DeclaredType.ofTag (tag : String) : DeclaredType :=
  match PropertyType.ofTagIgnoringCase? tag with
  | some t => t.declared
  | none => ⟨"String", none⟩

namespace Field

open Text

/-- The longest runs of letters and numbers. -/
def words (name : List Char) : List (List Char) :=
  (splitWords [] name).filter (!·.isEmpty)
where
  splitWords (word : List Char) : List Char → List (List Char)
    | [] => [word.reverse]
    | c :: rest =>
      if isAlphanumeric c then splitWords (c :: word) rest
      else word.reverse :: splitWords [] rest

def mapFirst (f : Char → List Char) : List Char → List Char
  | [] => []
  | c :: rest => f c ++ rest

/-- The first word starts in lower case and all others in upper case. -/
def joinWords : List (List Char) → List Char
  | [] => []
  | word :: rest => mapFirst lowerChar word ++ rest.flatMap (mapFirst upperChar)

/-- A name without letter or number, or with a digit in front, gets an underscore. -/
def localName (name : String) : String :=
  let joined := joinWords (words name.toList)
  String.ofList (if isAsciiDigit (joined.headD '0') then '_' :: joined else joined)

/-- The remote name is mapped unless it is the local name. -/
def suggest (p : RemoteProperty) : Field :=
  let declared := DeclaredType.ofTag p.kind
  let name := localName p.name
  { name := name
    typeToken := declared.typeToken
    optional := false
    attributes := declared.attributeName.toList.map (fun a => ⟨a, none⟩) ++
      if name = p.name then [] else [⟨"map", some p.name⟩] }

end Field

end NotionSchema
