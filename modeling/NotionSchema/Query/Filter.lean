import NotionSchema.Json.Basic
import NotionSchema.Log
import NotionSchema.Query.Inference
import NotionSchema.Query.Operator

namespace NotionSchema

/-- Property names are remote names here. -/
inductive FilterEntry where
  | property (name : String) (operator : Operator) (value : Json)
  | relation (name : String) (value : Json)

def FilterEntry.value : FilterEntry → Json
  | .property _ _ value => value
  | .relation _ value => value

structure FilterContext where
  relations : List String
  types : Table PropertyType

/-- A clause compares one property, under a type tag, by one comparison. -/
structure FilterClause where
  property : String
  tag : String
  comparison : String
  operand : Json

namespace FilterClause

def toJson (c : FilterClause) : Json :=
  .ofMembers
    [("property", .string c.property), (c.tag, .object [(c.comparison, c.operand)])]

def containing (property : String) (value : Json) : FilterClause :=
  ⟨property, PropertyType.relation.tag, Operator.contains.key, value⟩

end FilterClause

namespace FilterContext

def explicitType? (ctx : FilterContext) (property : String) : Option PropertyType :=
  ctx.types.get? property

def isRelation (ctx : FilterContext) (property : String) : Bool :=
  ctx.relations.contains property || ctx.explicitType? property == some .relation ||
    looksLikeRelation property

/-- Types whose conditions have a form of their own that clauses do not offer. -/
def hasNoClause : PropertyType → Bool
  | .formula | .people | .files => true
  | _ => false

/-- The explicit type, if it has clauses, and else the type that the name suggests. -/
def clauseType (ctx : FilterContext) (property : String) : PropertyType :=
  match ctx.explicitType? property with
  | some t => if hasNoClause t then .infer property else t
  | none => .infer property

def unknownOperator (property name : String) : LogEvent :=
  .warn "Unrecognized filter operator, falling back to equals"
    [("operator", .text name), ("property", .text property)]

/-- Comparison and operand. Tests for emptiness ignore the value that is given. -/
def comparison (property : String) (operator : Operator) (value : Json) : Logged (String × Json) :=
  match operator with
  | .isEmpty | .isNotEmpty => return (operator.key, .bool true)
  | .other name => do
    Logged.emit (unknownOperator property name)
    return (Operator.equals.key, value)
  | _ => return (operator.key, value)

def clauseTag (ctx : FilterContext) (property : String) (operator : Operator) : String :=
  if operator.isDateComparison then PropertyType.date.tag else (ctx.clauseType property).tag

def clause (ctx : FilterContext) : FilterEntry → Logged FilterClause
  | .relation property value => return .containing property value
  | .property property operator value =>
    if ctx.isRelation property then return .containing property value
    else do
      let (key, operand) ← comparison property operator value
      return ⟨property, ctx.clauseTag property operator, key, operand⟩

def clauses (ctx : FilterContext) : List FilterEntry → Logged (List FilterClause)
  | [] => return []
  | e :: rest => do return (← ctx.clause e) :: (← clauses ctx rest)

end FilterContext

/-- One clause stands alone; several are combined in order. -/
def conjunction? : List FilterClause → Option Json
  | [] => none
  | [c] => some c.toJson
  | cs => some (.object [("and", .array (cs.map FilterClause.toJson))])

end NotionSchema
