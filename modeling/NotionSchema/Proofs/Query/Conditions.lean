import NotionSchema.Query.Basic
import NotionSchema.Proofs.Table

namespace NotionSchema

def Json.conditions (body : Json) : List Json :=
  match body.get? "filter" with
  | none => []
  | some condition =>
    match condition.get? "and" with
    | some (.array clauses) => clauses
    | _ => [condition]

def Json.SitsUnder (clause : Json) (property tag : String) : Prop :=
  ∃ comparison operand, clause = FilterClause.toJson ⟨property, tag, comparison, operand⟩

theorem Json.get?_ofMembers (members : List (String × Json)) (key : String) :
    (ofMembers members).get? key = members.reverse.lookup key :=
  Table.get?_ofList members key

namespace FilterClause

variable (c : FilterClause)

theorem get?_toJson (key : String) : c.toJson.get? key =
    if key = c.tag then some (.object [(c.comparison, c.operand)])
    else if key = "property" then some (.string c.property) else none := by
  rw [toJson, Json.get?_ofMembers]
  change Table.get? _ key = _
  simp only [List.reverse_cons, List.reverse_nil, List.nil_append, List.cons_append,
    Table.get?_cons, Table.get?_nil]

end FilterClause

theorem PropertyType.tag_ne {s : String} (h : ∀ t ∈ all, t.tag ≠ s) (t : PropertyType) :
    t.tag ≠ s := h t (mem_all t)

namespace FilterContext

variable (ctx : FilterContext)

theorem exists_tag (e : FilterEntry) : ∃ t : PropertyType, (ctx.clause e).value.tag = t.tag := by
  cases e with
  | relation property value => exact ⟨.relation, rfl⟩
  | property property operator value =>
      rw [clause]
      split
      · exact ⟨.relation, rfl⟩
      · simp only [Logged.value_bind, Logged.value_pure, clauseTag]
        split
        · exact ⟨.date, rfl⟩
        · exact ⟨_, rfl⟩

theorem get?_and_clause (e : FilterEntry) : (ctx.clause e).value.toJson.get? "and" = none := by
  obtain ⟨t, ht⟩ := ctx.exists_tag e
  have hne : "and" ≠ t.tag := (PropertyType.tag_ne (by decide) t).symm
  rw [FilterClause.get?_toJson, ht, if_neg hne, if_neg (by decide)]

theorem value_clauses (entries : List FilterEntry) :
    (ctx.clauses entries).value = entries.map fun e => (ctx.clause e).value := by
  induction entries with
  | nil => rfl
  | cons e entries ih =>
      simp only [clauses, Logged.value_bind, Logged.value_pure, List.map_cons, ih]

end FilterContext

namespace Query

variable (q : Query)

theorem get?_compile (key : String) : q.compile.value.get? key =
    if key = "database_id" then some (.string q.databaseId)
    else if key = "filter" then conjunction? (q.filterContext.clauses q.filters).value
    else if key = "sorts" then
      if q.sorts = [] then none else some (.array (q.sorts.map SortEntry.toJson))
    else if key = "page_size" then q.pageSize.map .nat
    else if key = "start_cursor" then q.startCursor.map .string
    else none := by
  simp only [compile, Logged.value_bind, Logged.value_pure, Json.get?_ofMembers, bodyMembers]
  change Table.get? _ key = _
  cases conjunction? (q.filterContext.clauses q.filters).value <;> cases q.startCursor <;>
    cases q.pageSize <;> cases q.sorts <;> simp [Table.get?_cons] <;> grind

theorem conditions_compile :
    q.compile.value.conditions = q.filters.map fun e => (q.filterContext.clause e).value.toJson := by
  have hclauses := q.filterContext.value_clauses q.filters
  rw [Json.conditions, get?_compile, if_neg (by decide), if_pos rfl, hclauses]
  match q.filters with
  | [] => rfl
  | [e] => simp [conjunction?, q.filterContext.get?_and_clause e]
  | e :: e' :: rest => simp [conjunction?, Json.get?, Table.get?]

end Query

end NotionSchema
