import NotionSchema.Url.Basic

namespace NotionSchema.Url

def isOuterBlank (c : Char) : Bool := c ≤ ' '

def isBreak (c : Char) : Bool := c == '\t' || c == '\n' || c == '\r'

def significant (text : String) : List Char :=
  (((text.toList.dropWhile isOuterBlank).reverse.dropWhile isOuterBlank).reverse).filter
    (!isBreak ·)

def cut (mark : Char) (s : List Char) : List Char × Option (List Char) :=
  match s.dropWhile (· != mark) with
  | [] => (s, none)
  | _ :: after => (s.takeWhile (· != mark), some after)

def cutLast (mark : Char) (s : List Char) : Option (List Char) × List Char :=
  match cut mark s.reverse with
  | (all, none) => (none, all.reverse)
  | (after, some before) => (some before.reverse, after.reverse)

def isSchemeChar (c : Char) : Bool :=
  Text.isAsciiLetter c || Text.isAsciiDigit c || c == '+' || c == '-' || c == '.'

/-- The scheme in front of a colon, in lower case. It starts with a letter. -/
def splitScheme? (s : List Char) : Option (String × List Char) :=
  match s.head?.map Text.isAsciiLetter, s.dropWhile isSchemeChar with
  | some true, ':' :: rest =>
    some (String.ofList ((s.takeWhile isSchemeChar).map Char.toLower), rest)
  | _, _ => none

/-- A letter and a colon or a bar name a drive. -/
def isDrive : List Char → Bool
  | [c, mark] => Text.isAsciiLetter c && (mark == ':' || mark == '|')
  | _ => false

/-- The normal form of a drive has a colon. -/
def plainDrive (s : List Char) : List Char :=
  match s with
  | [c, _] => if isDrive s then [c, ':'] else s
  | _ => s

def isSingleDot (raw : List Char) : Bool :=
  [['.'], ['%', '2', 'e']].contains (raw.map Char.toLower)

def isDoubleDot (raw : List Char) : Bool :=
  [['.', '.'], ['.', '%', '2', 'e'], ['%', '2', 'e', '.'],
    ['%', '2', 'e', '%', '2', 'e']].contains (raw.map Char.toLower)

def endsInDrive (path : List String) : Bool := path.getLast?.any (isDrive ·.toList)

/-- Drives are never removed. -/
def shorten (path : List String) : List String := if endsInDrive path then path else path.dropLast

def segmentText (kind : SchemeKind) (raw : List Char) : String :=
  String.ofList (encode inPathSet (if kind = .file then plainDrive raw else raw))

/-- One more segment. A dot segment at the end leaves an empty one. -/
def addSegment (kind : SchemeKind) (last : Bool) (path : List String) (raw : List Char) :
    List String :=
  if isDoubleDot raw then shorten path ++ (if last then [""] else [])
  else if isSingleDot raw then path ++ (if last then [""] else [])
  else path ++ [segmentText kind raw]

def addSegments (kind : SchemeKind) (path : List String) : List (List Char) → List String
  | [] => path
  | [raw] => addSegment kind true path raw
  | raw :: rest => addSegments kind (addSegment kind false path raw) rest

def splitPath (kind : SchemeKind) (s : List Char) : List (List Char) := s.splitOnP kind.isSlash

/-- The segments after an authority. Special addresses have at least one. -/
def pathAfterAuthority (kind : SchemeKind) : List Char → List String
  | [] => if kind = .plain then [] else [""]
  | _ :: rest => addSegments kind [] (splitPath kind rest)

def trimPath : List String → List String
  | "" :: s :: rest => trimPath (s :: rest)
  | path => path

def readPort (scheme : String) (s : List Char) : Except UrlError (Option Nat) :=
  if s.all Text.isAsciiDigit then
    match (Ipv4.readDigits? 10 0 s).filter (· < Nat.pow 2 16) with
    | some n => .ok (if s.isEmpty || defaultPort? scheme = some n then none else some n)
    | none => .error .invalidPort
  else .error .invalidPort

/-- User name and password before the sign `@`; a password is never empty. -/
def readUser (s : List Char) : String × Option String :=
  let written := fun part => String.ofList (encode inUserSet part)
  match cut ':' s with
  | (name, some password) =>
    (written name, if password.isEmpty then none else some (written password))
  | (name, none) => (written name, none)

/-- The host ends at a colon outside brackets. -/
def splitHost (bracketed : Bool) : List Char → List Char × Option (List Char)
  | [] => ([], none)
  | c :: rest =>
    if c = ':' && !bracketed then ([], some rest)
    else
      let inside := if c = '[' then true else if c = ']' then false else bracketed
      (c :: (splitHost inside rest).1, (splitHost inside rest).2)

def readHost (kind : SchemeKind) (s : List Char) : Except UrlError Host :=
  if kind = .plain then Host.parsePlain s
  else if s.isEmpty then .error .emptyHost
  else Host.parseDomain s

/-- The authority with this text. `more` tells whether anything follows it. -/
def readAuthority (scheme : String) (more : Bool) (s : List Char) : Except UrlError Authority := do
  let kind := SchemeKind.ofScheme scheme
  let (user, rest) := cutLast '@' s
  if user = some [] && rest.isEmpty && more then throw .emptyHost
  let (username, password) := readUser (user.getD [])
  let (hostText, portText) := splitHost false rest
  let host ← readHost kind hostText
  if host.isEmpty && portText.isSome then throw .emptyHost
  let port ← readPort scheme (portText.getD [])
  if host.isEmpty && (!username.isEmpty || password.isSome) then throw .emptyHost
  return ⟨username, password, host, port⟩

abbrev Place := Option Authority × UrlPath

/-- Outside special schemes a backslash ends the port, and belongs to the path. -/
def splitPort (kind : SchemeKind) (s : List Char) : List Char × List Char :=
  if kind = .plain then
    match splitHost false (cutLast '@' s).2 with
    | (_, some port) =>
      let extra := port.dropWhile (· != '\\')
      (s.take (s.length - extra.length), extra)
    | _ => (s, [])
  else (s, [])

def readWithAuthority (scheme : String) (more : Bool) (s : List Char) : Except UrlError Place := do
  let kind := SchemeKind.ofScheme scheme
  let (before, extra) := splitPort kind (s.takeWhile (!kind.isSlash ·))
  let rest := s.dropWhile (!kind.isSlash ·)
  let after := if extra.isEmpty then rest else '/' :: extra ++ rest
  let authority ← readAuthority scheme (more || !after.isEmpty) before
  return (some authority, .segments (pathAfterAuthority kind after))

def fileHost (s : List Char) : Except UrlError Host := do
  if s.isEmpty then return .name ""
  let host ← Host.parseDomain s
  return if host = .localhost then .name "" else host

def filePlace (host : Host) (s : List Char) : Place :=
  let raw := splitPath .file s
  let host := if raw.any isDrive then .name "" else host
  (some ⟨"", none, host, none⟩, .segments (trimPath (addSegments .file [] raw)))

/-- Addresses of files may leave out the host, and the slashes before it. -/
def readFile (s : List Char) : Except UrlError Place :=
  match s with
  | a :: b :: rest =>
    if SchemeKind.file.isSlash a && SchemeKind.file.isSlash b then
      let hostText := rest.takeWhile (!SchemeKind.file.isSlash ·)
      if isDrive hostText then return filePlace (.name "") rest
      else return filePlace (← fileHost hostText) (rest.dropWhile (!SchemeKind.file.isSlash ·))
    else return filePlace (.name "") s
  | _ => return filePlace (.name "") s

def readPlace (scheme : String) (more : Bool) (s : List Char) : Except UrlError Place :=
  match SchemeKind.ofScheme scheme with
  | .file => readFile s
  | .special => readWithAuthority scheme more (s.dropWhile SchemeKind.special.isSlash)
  | .plain =>
    match s with
    | '/' :: '/' :: rest => readWithAuthority scheme more rest
    | '/' :: rest => .ok (none, .segments (addSegments .plain [] (splitPath .plain rest)))
    | _ => .ok (none, .flat (String.ofList (encode isControl s)))

/-- The parts that question mark and number sign set off. -/
def splitTail (s : List Char) : List Char × Option (List Char) × Option (List Char) :=
  let (front, fragment) := cut '#' s
  let (place, query) := cut '?' front
  (place, query, fragment)

def queryOf (kind : SchemeKind) (s : List Char) : String :=
  String.ofList (encode (inQuerySet (kind != .plain)) s)

def fragmentOf (s : List Char) : String := String.ofList (encode inFragmentSet s)

def parse (text : String) : Except UrlError Url := do
  match splitScheme? (significant text) with
  | none => throw .missingScheme
  | some (scheme, rest) =>
    let (placeText, query, fragment) := splitTail rest
    let (authority, path) ← readPlace scheme (query.isSome || fragment.isSome) placeText
    return ⟨scheme, authority, path, query.map (queryOf (.ofScheme scheme)),
      fragment.map fragmentOf⟩

/-- What is left of a path when a reference takes the place of its last segment. -/
def parentPath (kind : SchemeKind) (path : List String) : List String :=
  if kind = .file then shorten path else path.dropLast

/--
Joins a reference that starts with a segment of a path. It replaces the last segment of the base,
and its query and fragment replace those of the base.
-/
def join (base : Url) (reference : String) : Except UrlError Url :=
  match base.path with
  | .flat _ => .error .flatBase
  | .segments items =>
    let (pathText, query, fragment) := splitTail (significant reference)
    let segments :=
      addSegments base.kind (parentPath base.kind items) (splitPath base.kind pathText)
    .ok { base with
      path := .segments segments
      query := query.map (queryOf base.kind)
      fragment := fragment.map fragmentOf }

end NotionSchema.Url
