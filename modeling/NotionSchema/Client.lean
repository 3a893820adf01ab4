import NotionSchema.Configuration
import NotionSchema.Http.Header
import NotionSchema.Http.Message
import NotionSchema.Json.Printer
import NotionSchema.Text.Base64
import NotionSchema.Text.Quoted

namespace NotionSchema

structure Client where
  baseUrl : Url
  token : Option String
  version : String
  /-- In units of the clock, as all spans of time. -/
  timeout : Nat
  retry : RetryPolicy
  debug : Bool
deriving DecidableEq, Repr

structure ErrorBody where
  code : Option String
  message : Option String
deriving DecidableEq, Repr

namespace ErrorBody

def ofJson? (v : Json) : Option ErrorBody := do
  match ← v.fields? ["code", "message"] with
  | [code, message] =>
    return {
      code := ← Json.withDefault none (Json.nullable Json.string?) code
      message := ← Json.withDefault none (Json.nullable Json.string?) message }
  | _ => none

def shape : Shape := .fields [("code", .whole), ("message", .whole)]

def read? (text : String) : Option ErrorBody := (Json.readShape? shape text).bind ofJson?

end ErrorBody

namespace RemoteError

/-- The failure that a response stands for. Of status and code, the one that says more counts. -/
def ofResponse (status : Nat) (body : String) (object : ObjectKind) (id : String) : RemoteError :=
  let read := ErrorBody.read? body
  let code := read.bind (·.code)
  let message := (read.bind (·.message)).getD body
  if status = 404 || code = some "object_not_found" then .notFound object id
  else if status = 401 || code = some "unauthorized" then .unauthorized message
  else if code = some "validation_error" then .validation "validation_error" message
  else .httpStatus status (code.getD "unknown") message

end RemoteError

namespace Client

variable {σ α : Type}

def checkHeader (name value : String) : Except ConfigurationError Unit :=
  if Http.isHeaderValue value then .ok () else .error (.invalidHeader name)

def bearer (token : String) : String := "Bearer " ++ token

def checked (c : Client) : Except ConfigurationError Client := do
  checkHeader "Notion-Version" c.version
  if let some token := c.token then
    checkHeader "Authorization" (bearer token)
  return c

def ofConfiguration (c : Configuration) : Except ConfigurationError Client := do
  let token ← c.requireToken
  checked ⟨c.baseUrl, some token, c.version, c.timeout, c.retry, c.debug⟩

def credentials? (url : Url) : Option (String × Option String) := do
  let a ← url.authority
  let username ← Url.decodeText? a.username.toList
  let password := a.password.bind fun s => Url.decodeText? s.toList
  if username.isEmpty && password.isNone then none else some (username, password)

def basic (credentials : String × Option String) : String :=
  "Basic " ++ Text.Base64.encode (credentials.1 ++ ":" ++ credentials.2.getD "")

/-- Credentials in an address take the place of the token, and are not sent in the address. -/
def request (c : Client) (method : HttpMethod) (url : Url) (body : Option Json) : HttpRequest :=
  let text := body.map Json.compact
  match credentials? url with
  | some credentials => ⟨method, url.withoutUser, some (basic credentials), c.version, text⟩
  | none => ⟨method, url, c.token.map bearer, c.version, text⟩

def invalidPath (path : String) (cause : UrlError) : RemoteError :=
  .decode ("invalid request URL '" ++ path ++ "': " ++ cause.message)

def url (c : Client) (path : String) : Except RemoteError Url :=
  (c.baseUrl.join path).mapError (invalidPath path)

def requestFailed (status : Nat) (e : RemoteError) : LogEvent :=
  .error ("Notion request failed: " ++ e.message)
    [("code", .text (Text.quotedOption e.code?)), ("status", .count status)]

def unexpectedForm : RemoteError := .decode "the answer does not have the expected form"

/-- A failed response whose body breaks off is judged by its status alone. -/
def bodyText (r : HttpResponse) : String :=
  if r.transfer = .complete then r.body else Http.statusText r.status

def timeoutError (c : Client) (rate : Nat) : RemoteError :=
  .timeout (min (c.timeout * 1000 / rate) (Nat.pow 2 64 - 1))

def wait (c : Client) (r : HttpResponse) : Task σ Unit :=
  if r.transfer = .stalled then Task.advance c.timeout else return ()

def decoded (c : Client) (rate : Nat) (r : HttpResponse) (read : String → Option α) :
    Except RemoteError α :=
  match r.transfer with
  | .complete => (read r.body).elim (.error unexpectedForm) .ok
  | .broken => .error (.request .brokenBody)
  | .stalled => .error (c.timeoutError rate)

def receive (c : Client) (rate : Nat) (r : HttpResponse) (object : ObjectKind) (id : String)
    (read : String → Option α) : Task σ (Except RemoteError α) := do
  c.wait r
  if Http.isSuccess r.status then return c.decoded rate r read
  else
    let e := RemoteError.ofResponse r.status (bodyText r) object id
    Task.emit (requestFailed r.status e)
    return .error e

def canSend (url : Url) : Bool := url.scheme == "http" || url.scheme == "https"

def deliver (c : Client) (t : Transport σ) (r : HttpRequest) (object : ObjectKind) (id : String)
    (read : String → Option α) : Task σ (Except RemoteError α) := do
  if canSend r.url then
    match ← t.exchange r with
    | .response response => c.receive t.rate response object id read
    | .refused => return .error (.request (.refused r.url.text))
    | .closed => return .error (.request (.closed r.url.text))
    | .silent =>
      Task.advance c.timeout
      return .error (c.timeoutError t.rate)
  else return .error (.request (.unsupportedScheme r.url.text))

def bodyEvents (c : Client) : Option Json → List LogEvent
  | some body =>
    if c.debug then [.info "Notion request body" [("body", .text body.compact)]] else []
  | none => []

def send (c : Client) (t : Transport σ) (method : HttpMethod) (path : String) (body : Option Json)
    (object : ObjectKind) (id : String) (read : String → Option α) :
    Task σ (Except RemoteError α) := do
  match c.url path with
  | .error e => return .error e
  | .ok url =>
    Task.emitAll (c.bodyEvents body)
    c.deliver t (c.request method url body) object id read

def readDatabase (text : String) : Option DatabaseDescriptor :=
  (Json.readShape? DatabaseDescriptor.shape text).bind DatabaseDescriptor.ofJson?

def readPage (text : String) : Option Page := (Json.readShape? Page.shape text).bind Page.ofJson?

def readResponse (text : String) : Option QueryResponse :=
  (Json.readShape? QueryResponse.shape text).bind QueryResponse.ofJson?

def databasePath (id : String) : String := "databases/" ++ id

def queryPath (id : String) : String := "databases/" ++ id ++ "/query"

def pagePath (id : String) : String := "pages/" ++ id

def retrieveDatabase (c : Client) (t : Transport σ) (id : String) :
    Task σ (Except RetryError DatabaseDescriptor) :=
  c.retry.runOn t.rate "retrieve_database"
    (c.send t .get (databasePath id) none .database id readDatabase)

def missingDatabaseId : RemoteError := .decode "query is missing database_id"

def withoutKey (key : String) : Json → Json
  | .object members => .object (Table.erase members key)
  | v => v

/-- The database is named by a member of the query, which is not sent. -/
def queryDatabase (c : Client) (t : Transport σ) (query : Json) :
    Task σ (Except RetryError QueryResponse) :=
  match query.getString? "database_id" with
  | none => return .error (.failed missingDatabaseId)
  | some id =>
    c.retry.runOn t.rate "query_database"
      (c.send t .post (queryPath id) (some (withoutKey "database_id" query)) .database id
        readResponse)

def retrievePage (c : Client) (t : Transport σ) (id : String) :
    Task σ (Except RetryError Page) :=
  c.retry.runOn t.rate "retrieve_page" (c.send t .get (pagePath id) none .page id readPage)

/-- A pause too long to be waited for counts as an answer that never can be read. -/
def remoteError : RetryError → RemoteError
  | .failed e => e
  | .pauseOverflow => .decode RetryError.pauseOverflow.message

def service (c : Client) (t : Transport σ) : Service σ where
  retrieveDatabase id := do return (← c.retrieveDatabase t id).mapError remoteError
  queryDatabase query := do return (← c.queryDatabase t query).mapError remoteError
  retrievePage id := do return (← c.retrievePage t id).mapError remoteError

end Client

end NotionSchema
