import NotionSchema.Query.Basic

namespace NotionSchema

inductive QueryStep where
  | filter (property operator : String) (value : Json)
  | filterRelation (property : String) (steps : List QueryStep)
  | includeRelation (relation : String)
  | orderBy (property : String) (direction : SortDirection)
  | limit (size : Nat)
  | after (cursor : String)
  | debug (on : Bool)
  | withProperties (t : Table String)
  | withRelations (t : Table String)
  | withPropertyTypes (t : Table PropertyType)

namespace Query

mutual

def apply (q : Query) : QueryStep → Logged (Except MappingError Query)
  | .filter property operator value => return .ok (q.filter property operator value)
  | .filterRelation property steps =>
    q.filterRelation property id fun related => applyAll related steps
  | .includeRelation relation => return .ok (q.includeRelation relation)
  | .orderBy property direction => return .ok (q.orderBy property direction)
  | .limit size => return .ok (q.limit size)
  | .after cursor => return .ok (q.after cursor)
  | .debug on => return .ok (q.withDebug on)
  | .withProperties t => return .ok (q.withProperties t)
  | .withRelations t => return .ok (q.withRelations t)
  | .withPropertyTypes t => return .ok (q.withPropertyTypes t)

/-- The first step that fails ends the list. -/
def applyAll (q : Query) : List QueryStep → Logged (Except MappingError Query)
  | [] => return .ok q
  | step :: rest => do
    match ← q.apply step with
    | .error e => return .error e
    | .ok q => applyAll q rest

end

end Query

end NotionSchema
