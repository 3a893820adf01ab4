import NotionSchema.Json.Printer
import NotionSchema.Query.Loading
import NotionSchema.Record.Encoding

namespace NotionSchema

structure QueryPage where
  records : List Record
  nextCursor : Option String
  hasMore : Bool

def QueryPage.toJson (p : QueryPage) : Json :=
  .object
    [("records", .array (recordsJson p.records)), ("next_cursor", .ofString? p.nextCursor),
      ("has_more", .bool p.hasMore)]

namespace Query

variable {σ α : Type}

def executing (body : Json) : LogEvent :=
  .info "Executing query" [("query", .text body.compact)]

def failed (q : Query) (body : Json) : RemoteError → LogEvent
  | .validation code detail =>
    .error "Notion rejected the compiled query"
      [("code", .text code), ("database_id", .text q.databaseId), ("detail", .text detail),
        ("model", .text q.model), ("query", .text body.compact)]
  | e =>
    .error "Query failed"
      [("database_id", .text q.databaseId), ("error", .text e.message), ("model", .text q.model)]

def decodeAll : List Page → Logged (List Record)
  | [] => return []
  | p :: rest => do return (← Record.decode p) :: (← decodeAll rest)

def executePage (q : Query) (service : Service σ) : Task σ (Except RemoteError QueryPage) := do
  let body ← Task.ofLogged q.compile
  if q.debug then Task.emit (executing body)
  match ← service.queryDatabase body with
  | .error e =>
    Task.emit (q.failed body e)
    return .error e
  | .ok response =>
    let records ← Task.ofLogged (decodeAll response.results)
    let (loaded, _) ← (q.loadAll service records).run []
    return loaded.map fun rs => ⟨rs, response.nextCursor, response.hasMore⟩

def execute (q : Query) (service : Service σ) : Task σ (Except RemoteError (List Record)) := do
  return (← q.executePage service).map (·.records)

def misfit : RemoteError := .decode "record does not fit the requested form"

def executeAs (q : Query) (service : Service σ) (read : Json → Option α) :
    Task σ (Except RemoteError (List α)) := do
  return (← q.execute service).bind fun rs => rs.mapM fun r =>
    match read r.toTree with
    | some a => .ok a
    | none => .error misfit

end Query

end NotionSchema
