import NotionSchema.Query.Filter
import NotionSchema.Query.Sort

namespace NotionSchema

inductive MappingError where
  | unknownRelation (model property : String)
  | emptyRelationFilter (model property : String)
  | unknownModel (model : String)
deriving DecidableEq, Repr

def MappingError.message : MappingError → String
  | .unknownRelation model property =>
    "relation '" ++ property ++ "' on model '" ++ model ++ "' has no configured target database id"
  | .emptyRelationFilter model property =>
    "relation filter '" ++ property ++ "' on model '" ++ model ++
      "' must have at least one condition"
  | .unknownModel model => "model '" ++ model ++ "' is not declared in the schema"

structure Query where
  databaseId : String
  model : String
  /-- Remote names of local names. -/
  properties : Table String
  relations : Table String
  /-- Types of remote names. -/
  propertyTypes : Table PropertyType
  filters : List FilterEntry
  sorts : List SortEntry
  includes : List String
  pageSize : Option Nat
  startCursor : Option String
  debug : Bool

namespace Query

variable {ε : Type}

def new (databaseId model : String) : Query :=
  ⟨databaseId, model, [], [], [], [], [], [], none, none, false⟩

def withProperties (q : Query) (t : Table String) : Query := { q with properties := t }

def withRelations (q : Query) (t : Table String) : Query := { q with relations := t }

def withPropertyTypes (q : Query) (t : Table PropertyType) : Query := { q with propertyTypes := t }

def withDebug (q : Query) (on : Bool) : Query := { q with debug := on }

/-- A name without mapping stands for itself. -/
def remoteName (q : Query) (property : String) : String :=
  (q.properties.get? property).getD property

def addFilter (q : Query) (e : FilterEntry) : Query := { q with filters := q.filters ++ [e] }

def filter (q : Query) (property operator : String) (value : Json) : Query :=
  q.addFilter (.property (q.remoteName property) (.ofName operator) value)

def droppedConditions (q : Query) (relation : String) (count : Nat) : LogEvent :=
  .warn "Relation filters use only their first condition; dropping the rest"
    [("dropped", .count count), ("model", .text q.model), ("relation", .text relation)]

/-- Takes over the value of the first condition of a query on the related database. -/
def adoptCondition (q : Query) (property : String) (related : Query) :
    Logged (Except MappingError Query) :=
  match related.filters with
  | [] => return .error (.emptyRelationFilter q.model property)
  | first :: dropped => do
    if !dropped.isEmpty then Logged.emit (q.droppedConditions property dropped.length)
    return .ok (q.addFilter (.relation (q.remoteName property) first.value))

/-- Adds a condition on a relation. The query on the related database is configured only if the
relation is known; `lift` puts the errors of both queries into one type. -/
def filterRelation (q : Query) (property : String) (lift : MappingError → ε)
    (configure : Query → Logged (Except ε Query)) : Logged (Except ε Query) :=
  match q.relations.get? property with
  | none => return .error (lift (.unknownRelation q.model property))
  | some databaseId => do
    match ← configure (.new databaseId property) with
    | .error e => return .error e
    | .ok related => return (← q.adoptCondition property related).mapError lift

/-- Resolves a relation on every result. A second include of it changes nothing. -/
def includeRelation (q : Query) (relation : String) : Query :=
  if q.includes.contains (q.remoteName relation) then q
  else { q with includes := q.includes ++ [q.remoteName relation] }

def orderBy (q : Query) (property : String) (direction : SortDirection) : Query :=
  { q with sorts := q.sorts ++ [⟨q.remoteName property, direction⟩] }

def limit (q : Query) (size : Nat) : Query := { q with pageSize := some size }

def after (q : Query) (cursor : String) : Query := { q with startCursor := some cursor }

/-- Relations are known by their local names and by the names that these are mapped to. -/
def filterContext (q : Query) : FilterContext :=
  ⟨q.relations.keys.flatMap fun key => [key, q.remoteName key], q.propertyTypes⟩

def bodyMembers (q : Query) (clauses : List FilterClause) : List (String × Json) :=
  [("database_id", .string q.databaseId)] ++
    (conjunction? clauses).toList.map (("filter", ·)) ++
    (if q.sorts.isEmpty then [] else [("sorts", .array (q.sorts.map SortEntry.toJson))]) ++
    q.pageSize.toList.map (fun n => ("page_size", .nat n)) ++
    q.startCursor.toList.map (fun s => ("start_cursor", .string s))

/-- The body of the request. -/
def compile (q : Query) : Logged Json := do
  return .ofMembers (q.bodyMembers (← q.filterContext.clauses q.filters))

end Query

end NotionSchema
