import NotionSchema.Reconcile.Difference
import NotionSchema.Remote.Service
import NotionSchema.Text.Blank

namespace NotionSchema

inductive SyncError where
  | missingDatabaseId (model : String)
  | titleProperty (model : String) (count : Nat)
  | databaseNotFound (model databaseId : String)
  | typeMismatches (model : String) (mismatches : List TypeMismatch)
  | remote (model databaseId : String) (cause : RemoteError)
deriving DecidableEq, Repr

def SyncError.message : SyncError → String
  | .missingDatabaseId model => "model '" ++ model ++ "' has no Notion database id"
  | .titleProperty model count =>
    "model '" ++ model ++ "' declares " ++ toString count ++ " title fields, expected exactly one"
  | .databaseNotFound model databaseId =>
    "database '" ++ databaseId ++ "' for model '" ++ model ++ "' not found"
  | .typeMismatches model mismatches =>
    "model '" ++ model ++ "' does not match its Notion database:\n" ++
      "\n".intercalate (mismatches.map fun m => "  " ++ m.text)
  | .remote model databaseId cause =>
    "failed to retrieve database '" ++ databaseId ++ "' for model '" ++ model ++ "': " ++
      cause.message

structure ModelReport where
  model : String
  databaseId : String
  title : String
  extra : List String
deriving DecidableEq, Repr

structure SyncReport where
  models : List ModelReport
deriving DecidableEq, Repr

def SyncReport.hasAdvisories (r : SyncReport) : Bool := r.models.any (!·.extra.isEmpty)

namespace Model

def missingWarning (m : Model) (property : String) : LogEvent :=
  .warn "Property is declared in the schema but missing from the database"
    [("database_id", .text m.databaseId), ("model", .text m.name), ("property", .text property)]

def extraWarning (m : Model) (property : String) : LogEvent :=
  .warn "Database property is not declared in the schema"
    [("model", .text m.name), ("property", .text property)]

def validated (m : Model) : LogEvent :=
  .info "Model validated" [("database_id", .text m.databaseId), ("model", .text m.name)]

def localError? (m : Model) : Option SyncError :=
  if Text.isBlankText m.databaseId then some (.missingDatabaseId m.name)
  else if m.titleFields.length ≠ 1 then some (.titleProperty m.name m.titleFields.length)
  else none

def retrievalError (m : Model) (cause : RemoteError) : SyncError :=
  if cause.isNotFound then .databaseNotFound m.name m.databaseId
  else .remote m.name m.databaseId cause

def check (m : Model) (d : DatabaseDescriptor) : Logged (Except SyncError ModelReport) := do
  let diff := ModelDiff.ofModel m d
  Logged.emitAll (diff.missing.map m.missingWarning)
  Logged.emitAll (diff.extra.map m.extraWarning)
  if diff.isCompatible then
    Logged.emit m.validated
    return .ok ⟨m.name, m.databaseId, d.titleText, diff.extra⟩
  else return .error (.typeMismatches m.name diff.mismatches)

def validate {σ : Type} (service : Service σ) (m : Model) : Task σ (Except SyncError ModelReport) :=
  match m.localError? with
  | some e => return .error e
  | none => do
    match ← service.retrieveDatabase m.databaseId with
    | .error cause => return .error (m.retrievalError cause)
    | .ok d => Task.ofLogged (m.check d)

end Model

namespace Schema

variable {σ : Type}

def validateModels (service : Service σ) : List Model → Task σ (Except SyncError (List ModelReport))
  | [] => return .ok []
  | m :: rest => do
    match ← m.validate service with
    | .error e => return .error e
    | .ok report =>
      match ← validateModels service rest with
      | .error e => return .error e
      | .ok reports => return .ok (report :: reports)

def validated (count : Nat) : LogEvent :=
  .info "Schema matches Notion databases" [("models", .count count)]

def validate (service : Service σ) (s : Schema) : Task σ (Except SyncError SyncReport) := do
  match ← validateModels service s.models with
  | .error e => return .error e
  | .ok reports =>
    Task.emit (validated reports.length)
    return .ok ⟨reports⟩

end Schema

end NotionSchema
