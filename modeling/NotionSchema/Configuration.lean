import NotionSchema.Locale
import NotionSchema.Retry
import NotionSchema.Text.Blank
import NotionSchema.Text.Case
import NotionSchema.Url.Parser

namespace NotionSchema

structure Configuration where
  token : Option String
  baseUrl : Url
  version : String
  locale : Locale
  debug : Bool
  /-- For one request, in milliseconds. -/
  timeout : Nat
  retry : RetryPolicy
deriving DecidableEq, Repr

abbrev Environment := Table String

namespace Environment

def tokenVariables : List String := ["NOTION_TOKEN", "NOTION_API_KEY"]

/-- The first token variable that is set counts, even if it is blank and so holds no token. -/
def token? (env : Environment) : Option String :=
  (tokenVariables.findSome? env.get?).filter (!Text.isBlankText ·)

end Environment

inductive ConfigurationError where
  | invalidBaseUrl (value : String) (cause : UrlError)
  | missingToken
  | invalidHeader (name : String)
deriving DecidableEq, Repr

def ConfigurationError.message : ConfigurationError → String
  | .invalidBaseUrl value cause => "Invalid base URL '" ++ value ++ "': " ++ cause.message
  | .missingToken =>
    "Missing Notion integration token (set " ++
      " or ".intercalate Environment.tokenVariables ++ ")"
  | .invalidHeader name => "Invalid header '" ++ name ++ "': failed to parse header value"

namespace Configuration

def serviceAddress : Url :=
  ⟨"https", some ⟨"", none, .name "api.notion.com", none⟩, .segments ["v1", ""], none, none⟩

def serviceVersion : String := "2022-06-28"

def default : Configuration :=
  ⟨none, serviceAddress, serviceVersion, .en, false, 30000, .default⟩

/-- Ends in a slash, so that paths go below it. -/
def directoryText (value : String) : String :=
  if value.toList.getLast? = some '/' then value else value ++ "/"

def withToken (c : Configuration) (token : String) : Configuration := { c with token := some token }

def withBaseUrl (c : Configuration) (value : String) : Except ConfigurationError Configuration :=
  match Url.parse (directoryText value) with
  | .ok url => .ok { c with baseUrl := url }
  | .error cause => .error (.invalidBaseUrl value cause)

def requireToken (c : Configuration) : Except ConfigurationError String :=
  match c.token with
  | some token => .ok token
  | none => .error .missingToken

def unknownLocale (name : String) : LogEvent :=
  .warn "Unknown NORM_LOCALE, falling back to en" [("locale", .text name)]

def localeOf : Option String → Logged Locale
  | none => return .en
  | some name =>
    match Locale.ofName? name with
    | some locale => return locale
    | none => do
      Logged.emit (unknownLocale name)
      return .en

def isOn (value : String) : Bool := ["1", "true", "yes"].contains (Text.lower value)

def ofEnvironment (env : Environment) : Logged (Except ConfigurationError Configuration) := do
  let start := { default with token := env.token? }
  match (env.get? "NOTION_BASE_URL").elim (.ok start) start.withBaseUrl with
  | .error e => return .error e
  | .ok c =>
    let locale ← localeOf (env.get? "NORM_LOCALE")
    return .ok { c with
      version := (env.get? "NOTION_VERSION").getD c.version
      locale
      debug := (env.get? "NORM_DEBUG").any isOn }

end Configuration

end NotionSchema
