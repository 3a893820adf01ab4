import NotionSchema.Query.Basic
import NotionSchema.Query.RelationCache
import NotionSchema.Record.Decoding
import NotionSchema.Remote.Service

namespace NotionSchema

abbrev Loading (σ : Type) := StateT RelationCache (Task σ)

def Loading.ofTask {σ α : Type} (t : Task σ α) : Loading σ α := StateT.lift t

abbrev Editing (σ : Type) := StateT Record (Loading σ)

def Editing.ofLoading {σ α : Type} (x : Loading σ α) : Editing σ α := StateT.lift x

inductive RelationLink where
  | one (id : String)
  | many (ids : List String)
deriving DecidableEq, Repr

/-- What becomes of an included property. -/
inductive IncludePlan where
  | leave
  | warn
  | load (link : RelationLink)
deriving DecidableEq, Repr

namespace PropertyValue

def plan (v : PropertyValue) : IncludePlan :=
  if v.isPresent then
    match v with
    | .text id => .load (.one id)
    | .references ids => .load (.many ids)
    | .record _ | .records _ => .leave
    | _ => .warn
  else .leave

end PropertyValue

namespace Query

variable {σ : Type}

def noRelation (q : Query) (relation : String) : LogEvent :=
  .warn "Included property does not hold a relation"
    [("model", .text q.model), ("relation", .text relation)]

def pageFailed (q : Query) (id : String) (e : RemoteError) : LogEvent :=
  .error "Failed to load related page"
    [("error", .text e.message), ("model", .text q.model), ("page_id", .text id)]

def links (q : Query) (r : Record) : List String → Logged (List (String × RelationLink))
  | [] => return []
  | name :: rest =>
    match (r.get? name).map PropertyValue.plan with
    | some (.load link) => do return (name, link) :: (← q.links r rest)
    | some .warn => do
      Logged.emit (q.noRelation name)
      q.links r rest
    | _ => q.links r rest

/-- The record of a page, from the cache if it holds a fresh one. -/
def fetch (q : Query) (service : Service σ) (id : String) :
    Loading σ (Except RemoteError Record) := do
  match RelationCache.fresh? (← get) (← Loading.ofTask Task.now) id with
  | some r => return .ok r
  | none =>
    match ← Loading.ofTask (service.retrievePage id) with
    | .error e =>
      Loading.ofTask (Task.emit (q.pageFailed id e))
      return .error e
    | .ok page =>
      let r ← Loading.ofTask (Task.ofLogged (Record.decode page))
      let now ← Loading.ofTask Task.now
      modify fun c => RelationCache.store c now id r
      return .ok r

def fetchAll (q : Query) (service : Service σ) :
    List String → Loading σ (Except RemoteError (List Record))
  | [] => return .ok []
  | id :: rest => do
    match ← q.fetch service id with
    | .error e => return .error e
    | .ok r =>
      match ← q.fetchAll service rest with
      | .error e => return .error e
      | .ok rs => return .ok (r :: rs)

def follow (q : Query) (service : Service σ) :
    RelationLink → Loading σ (Except RemoteError PropertyValue)
  | .one id => do return (← q.fetch service id).map .record
  | .many ids => do return (← q.fetchAll service ids).map .records

def followAll (q : Query) (service : Service σ) :
    List (String × RelationLink) → Loading σ (Except RemoteError (List (String × PropertyValue)))
  | [] => return .ok []
  | (name, link) :: rest => do
    match ← q.follow service link with
    | .error e => return .error e
    | .ok value =>
      match ← q.followAll service rest with
      | .error e => return .error e
      | .ok values => return .ok ((name, value) :: values)

def write (r : Record) (values : List (String × PropertyValue)) : Record :=
  { r with properties := values.foldl (fun t e => Table.insert t e.1 e.2) r.properties }

def loadRelations (q : Query) (service : Service σ) (r : Record) :
    Loading σ (Except RemoteError Record) := do
  let links ← Loading.ofTask (Task.ofLogged (q.links r q.includes))
  return (← q.followAll service links).map (write r)

def put : List (String × PropertyValue) → Editing σ Unit
  | [] => return
  | (name, value) :: rest => do
    modify fun r => { r with properties := Table.insert r.properties name value }
    put rest

def loadInPlace (q : Query) (service : Service σ) : Editing σ (Except RemoteError Unit) := do
  let links ← .ofLoading (.ofTask (Task.ofLogged (q.links (← get) q.includes)))
  match ← .ofLoading (q.followAll service links) with
  | .error e => return .error e
  | .ok values =>
    put values
    return .ok ()

def loadAll (q : Query) (service : Service σ) :
    List Record → Loading σ (Except RemoteError (List Record))
  | [] => return .ok []
  | r :: rest => do
    match ← q.loadRelations service r with
    | .error e => return .error e
    | .ok r =>
      match ← q.loadAll service rest with
      | .error e => return .error e
      | .ok rs => return .ok (r :: rs)

end Query

end NotionSchema
