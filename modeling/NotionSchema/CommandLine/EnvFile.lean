import NotionSchema.Configuration
import NotionSchema.Text.Alphanumeric
import NotionSchema.Text.Blank
import NotionSchema.Text.Utf8

namespace NotionSchema.EnvFile

inductive Quoting where
  | plain
  | blank
  | escaped
  | weak
  | weakEscaped
  | strong
  | strongEscaped
deriving DecidableEq, Repr

def isInnerBlank (c : Char) : Bool := Text.isBlank c && c != '\n' && c != '\r'

def Quoting.start (c : Char) : Quoting :=
  if c = '\\' then escaped else if c = '"' then weak else if c = '\x27' then strong else plain

def Quoting.next (q : Quoting) (c : Char) : Quoting :=
  match q with
  | plain => if isInnerBlank c then blank else start c
  | blank => start c
  | escaped => plain
  | weak => if c = '\\' then weakEscaped else if c = '"' then plain else weak
  | weakEscaped => weak
  | strong => if c = '\\' then strongEscaped else if c = '\x27' then plain else strong
  | strongEscaped => strong

inductive LineEnd where
  | open (q : Quoting)
  | comment (before : List Char)
deriving DecidableEq, Repr

/-- A number sign after a blank starts a comment. -/
def scan (q : Quoting) : List Char → LineEnd
  | [] => .open q
  | c :: rest =>
    if q = .blank && c = '#' then .comment []
    else
      match scan (q.next c) rest with
      | .open q => .open q
      | .comment before => .comment (c :: before)

def chomp (s : List Char) : List Char :=
  match s.reverse with
  | '\n' :: '\r' :: rest => rest.reverse
  | '\n' :: rest => rest.reverse
  | _ => s

def isCommentLine (s : List Char) : Bool := (Text.trimStart s).head? == some '#'

/-- Joins lines until no quotation is open. `none` is a malformed entry, and the last. -/
def entries (pending : List Char) (q : Quoting) :
    List (Option (List Char)) → List (Option (List Char))
  | [] => if q = .plain then [] else [none]
  | none :: _ => [none]
  | some line :: rest =>
    if isCommentLine (pending ++ line) then some [] :: entries [] .plain rest
    else
      match scan q line with
      | .comment before => some (pending ++ before) :: entries [] .plain rest
      | .open .plain => some (chomp (pending ++ line)) :: entries [] .plain rest
      | .open q => entries (pending ++ line) q rest

def splitLines : List UInt8 → List (List UInt8)
  | [] => []
  | b :: rest =>
    if b = 10 then [b] :: splitLines rest
    else
      match splitLines rest with
      | [] => [[b]]
      | line :: lines => (b :: line) :: lines

def withoutMark : List UInt8 → List UInt8
  | 0xEF :: 0xBB :: 0xBF :: rest => rest
  | bytes => bytes

def entriesOf (bytes : List UInt8) : List (Option (List Char)) :=
  entries [] .plain
    ((splitLines (withoutMark bytes)).map fun line => (Text.decodeUtf8? line).map String.toList)

inductive ValueMode where
  | plain (weak : Bool)
  | escaped (weak : Bool)
  | strong
  | name (weak : Bool) (read : List Char)
  | braced (weak : Bool) (read : List Char)
  | ended
deriving DecidableEq, Repr

def escapedChar? (c : Char) : Option Char :=
  if ['\\', '\x27', '"', '$', ' '].contains c then some c
  else if c = 'n' then some '\n'
  else none

def plainMode (weak : Bool) (c : Char) : Option ValueMode :=
  if c = '$' then some (.name weak [])
  else if c = '"' then some (.plain (!weak))
  else if c = '\\' then some (.escaped weak)
  else if weak then none
  else if c = '\x27' then some .strong
  else if c = ' ' || c = '\t' then some .ended
  else none

/-- The value that the rest of an entry adds to. `value` gives the values of variables. -/
def readValue (value : String → String) : ValueMode → List Char → Option (List Char)
  | .plain weak, [] => if weak then none else some []
  | .escaped weak, [] => if weak then none else some []
  | .name weak read, [] => if weak then none else some (value (String.ofList read)).toList
  | .ended, [] => some []
  | .strong, [] => none
  | .braced _ _, [] => none
  | .plain weak, c :: rest =>
    match plainMode weak c with
    | some mode => readValue value mode rest
    | none => (readValue value (.plain weak) rest).map (c :: ·)
  | .escaped weak, c :: rest => do
    let c ← escapedChar? c
    return c :: (← readValue value (.plain weak) rest)
  | .strong, c :: rest =>
    if c = '\x27' then readValue value (.plain false) rest
    else (readValue value .strong rest).map (c :: ·)
  | .name weak read, c :: rest =>
    if Text.isAlphanumeric c then readValue value (.name weak (read ++ [c])) rest
    else if c = '\x7b' && read.isEmpty then readValue value (.braced weak []) rest
    else
      let found := (value (String.ofList read)).toList
      if c = '$' then (readValue value (.name weak []) rest).map (found ++ ·)
      else (readValue value (.plain weak) rest).map (found ++ c :: ·)
  | .braced weak read, c :: rest =>
    if c = '\x7d' then
      (readValue value (.plain weak) rest).map ((value (String.ofList read)).toList ++ ·)
    else readValue value (.braced weak (read ++ [c])) rest
  | .ended, c :: rest =>
    if c = ' ' || c = '\t' then readValue value .ended rest
    else if c = '#' then some []
    else none

def isNameStart (c : Char) : Bool := Text.isAsciiLetter c || c == '_'

def isNameChar (c : Char) : Bool := isNameStart c || Text.isAsciiDigit c || c == '.'

def readName? (s : List Char) : Option (String × List Char) :=
  match s with
  | [] => none
  | c :: _ =>
    if isNameStart c then
      some (String.ofList (s.takeWhile isNameChar), Text.trimStart (s.dropWhile isNameChar))
    else none

def afterEquals? : List Char → Option (List Char)
  | '=' :: rest => some (Text.trimStart rest)
  | _ => none

/-- The name and the written value; the word `export` may stand in front. -/
def readEntry? (s : List Char) : Option (String × List Char) := do
  let (name, rest) ← readName? s
  match afterEquals? rest with
  | some value => return (name, value)
  | none =>
    if name = "export" then
      let (name, rest) ← readName? rest
      return (name, ← afterEquals? rest)
    else none

/-- Variables that are set, and the values that the entries gave, whether in force or not. -/
structure Reading where
  environment : Environment
  given : Table String

def Reading.value (r : Reading) (name : String) : String :=
  ((r.environment.get? name).or (r.given.get? name)).getD ""

def Reading.add (r : Reading) (name value : String) : Reading where
  environment :=
    if r.environment.contains name then r.environment else r.environment.insert name value
  given := r.given.insert name value

def isIgnored (s : List Char) : Bool := s.isEmpty || s.head? == some '#'

def writtenValue? (r : Reading) (s : List Char) : Option (List Char) :=
  if isIgnored s then some [] else readValue r.value (.plain false) s

def Reading.entry? (r : Reading) (entry : List Char) : Option Reading :=
  let s := Text.trim entry
  if isIgnored s then some r
  else do
    let (name, written) ← readEntry? s
    return r.add name (String.ofList (← writtenValue? r written))

def Reading.entries (r : Reading) : List (Option (List Char)) → Reading
  | [] => r
  | entry :: rest =>
    match entry.bind r.entry? with
    | some r => r.entries rest
    | none => r

def load (env : Environment) (bytes : List UInt8) : Environment :=
  ((Reading.mk env []).entries (entriesOf bytes)).environment

end NotionSchema.EnvFile
