import NotionSchema.Url.Host

namespace NotionSchema

structure Authority where
  username : String
  password : Option String
  host : Host
  port : Option Nat
deriving DecidableEq, Repr

inductive UrlPath where
  /-- A path that is no sequence of segments; nothing can be joined to it. -/
  | flat (text : String)
  /-- Each segment follows a slash. -/
  | segments (items : List String)
deriving DecidableEq, Repr

structure Url where
  scheme : String
  authority : Option Authority
  path : UrlPath
  query : Option String
  fragment : Option String
deriving DecidableEq, Repr

inductive SchemeKind where
  | file
  | special
  | plain
deriving DecidableEq, Repr

namespace SchemeKind

/-- Schemes other than these treat their addresses as they are written. -/
def ofScheme (scheme : String) : SchemeKind :=
  if scheme = "file" then .file
  else if ["http", "https", "ws", "wss", "ftp"].contains scheme then .special
  else .plain

/-- In special addresses a backslash is a slash. -/
def isSlash (kind : SchemeKind) (c : Char) : Bool := c == '/' || (c == '\\' && kind != .plain)

end SchemeKind

def defaultPort? (scheme : String) : Option Nat :=
  [("http", 80), ("https", 443), ("ws", 80), ("wss", 443), ("ftp", 21)].lookup scheme

namespace Authority

def userText (a : Authority) : String :=
  let user := a.username ++ a.password.elim "" (":" ++ ·)
  if user.isEmpty then "" else user ++ "@"

def text (a : Authority) : String :=
  a.userText ++ a.host.text ++ a.port.elim "" fun n => ":" ++ toString n

end Authority

namespace UrlPath

def text : UrlPath → String
  | flat s => s
  | segments items => String.join (items.map ("/" ++ ·))

/-- Without an authority, two slashes in front would be read as the start of one. -/
def startsLikeAuthority : UrlPath → Bool
  | segments ("" :: _ :: _) => true
  | _ => false

end UrlPath

namespace Url

def kind (u : Url) : SchemeKind := .ofScheme u.scheme

def authorityText (u : Url) : String :=
  match u.authority with
  | some a => "//" ++ a.text
  | none => if u.path.startsLikeAuthority then "/." else ""

def queryText (u : Url) : String := u.query.elim "" ("?" ++ ·)

def text (u : Url) : String :=
  u.scheme ++ ":" ++ u.authorityText ++ u.path.text ++ u.queryText ++ u.fragment.elim "" ("#" ++ ·)

/-- What is asked of the host. -/
def target (u : Url) : String := u.path.text ++ u.queryText

def port? (u : Url) : Option Nat := (u.authority.bind (·.port)).or (defaultPort? u.scheme)

def withoutUser (u : Url) : Url :=
  { u with authority := u.authority.map fun a => { a with username := "", password := none } }

end Url

end NotionSchema
