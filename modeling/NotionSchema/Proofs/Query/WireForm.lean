import NotionSchema.Proofs.Query.Conditions
import Mathlib.Data.List.Forall2

namespace NotionSchema

namespace Operator

def spellings : List String :=
  ["equals", "contains", "startsWith", "starts_with", "endsWith", "ends_with", "before", "after",
    "onOrBefore", "on_or_before", "onOrAfter", "on_or_after", "isEmpty", "is_empty", "isNotEmpty",
    "is_not_empty"]

theorem ofName_of_notMem {name : String} (h : name ∉ spellings) : ofName name = .other name := by
  unfold ofName
  split <;> first | rfl | exact absurd (by decide) h

/-- A name that is no operator is read as `equals`. -/
def recognized : Operator → Operator
  | other _ => equals
  | operator => operator

end Operator

namespace FilterClause

def tags : List String :=
  ["title", "rich_text", "number", "select", "multi_select", "date", "checkbox", "url", "email",
    "phone_number", "relation"]

def comparisons : List String :=
  ["equals", "contains", "starts_with", "ends_with", "before", "after", "on_or_before",
    "on_or_after", "is_empty", "is_not_empty"]

/-- Which comparisons the service takes under which tags. -/
structure Accepted (tag comparison : String) (operand : Json) : Prop where
  tag_mem : tag ∈ tags
  comparison_mem : comparison ∈ comparisons
  relation : tag = "relation" → comparison = "contains"
  date : comparison ∈ ["before", "after", "on_or_before", "on_or_after"] → tag = "date"
  emptiness : comparison ∈ ["is_empty", "is_not_empty"] → operand = .bool true

theorem accepted_relation (operand : Json) : Accepted "relation" "contains" operand where
  tag_mem := by decide
  comparison_mem := by decide
  relation := fun _ => rfl
  date := fun h => absurd h (by decide)
  emptiness := fun h => absurd h (by decide)

/-- An object of two members: the property, and under the tag an object of one member. -/
def IsWrittenAs (c : FilterClause) (v : Json) : Prop :=
  ∃ members, v = .object members ∧
    members.Perm [("property", .string c.property), (c.tag, .object [(c.comparison, c.operand)])]

theorem isWrittenAs_toJson (c : FilterClause) (h : c.tag ≠ "property") :
    c.IsWrittenAs c.toJson := by
  refine ⟨_, rfl, ?_⟩
  simp only [Table.ofList, List.foldl_cons, List.foldl_nil, Table.insert]
  split
  · exact .swap _ _ []
  · exact .refl _

end FilterClause

def FilterEntry.name : FilterEntry → String
  | .property name _ _ => name
  | .relation name _ => name

def FilterEntry.recognized : FilterEntry → FilterEntry
  | .property name operator value => .property name operator.recognized value
  | .relation name value => .relation name value

namespace FilterContext

variable {ctx : FilterContext} {p : String}

theorem inferLower_mem (name : List Char) : PropertyType.inferLower name ∈
    [.title, .date, .checkbox, .multiSelect, .select, .richText] := by
  unfold PropertyType.inferLower
  split_ifs <;> decide

theorem clauseType_notMem (h : ctx.isRelation p = false) :
    ctx.clauseType p ∉ [.relation, .formula, .people, .files] := by
  have hinfer : PropertyType.infer p ∉ [.relation, .formula, .people, .files] := by
    have hmem := inferLower_mem (Text.lower p).toList
    intro hne
    change PropertyType.inferLower _ ∈ _ at hne
    generalize PropertyType.inferLower (Text.lower p).toList = t at hmem hne
    revert hmem hne
    cases t <;> decide
  rw [clauseType]
  split
  · next t ht =>
      have hrelation : t ≠ .relation := by
        rintro rfl
        simp [isRelation, ht] at h
      split
      · exact hinfer
      · next hc => cases t <;> simp_all [hasNoClause]
  · exact hinfer

theorem value_comparison (operator : Operator) (value : Json) :
    (comparison p operator value).value = (operator.recognized.key,
      if operator = .isEmpty ∨ operator = .isNotEmpty then .bool true else value) := by
  cases operator <;> rfl

theorem accepted_comparison {t : PropertyType} (ht : t ∉ [.relation, .formula, .people, .files])
    (operator : Operator) (value : Json) :
    FilterClause.Accepted (if operator.isDateComparison then PropertyType.date.tag else t.tag)
      (comparison p operator value).value.1 (comparison p operator value).value.2 := by
  have htag : t.tag ∈ FilterClause.tags ∧ t.tag ≠ "relation" := by
    cases t <;> first | exact ⟨by decide, by decide⟩ | exact absurd (by decide) ht
  have hdate : PropertyType.date.tag ∈ FilterClause.tags ∧ PropertyType.date.tag ≠ "relation" := by
    decide
  rw [value_comparison]
  refine ⟨?_, ?_, ?_, ?_, ?_⟩
  · split
    · exact hdate.1
    · exact htag.1
  · cases operator <;> simp [FilterClause.comparisons, Operator.recognized, Operator.key]
  · split
    · exact fun h => absurd h hdate.2
    · exact fun h => absurd h htag.2
  · cases operator <;>
      simp [Operator.recognized, Operator.key, Operator.isDateComparison, PropertyType.tag]
  · cases operator <;> simp [Operator.recognized, Operator.key]

theorem clause_accepted (ctx : FilterContext) (e : FilterEntry) :
    FilterClause.Accepted (ctx.clause e).value.tag (ctx.clause e).value.comparison
      (ctx.clause e).value.operand ∧ (ctx.clause e).value.property = e.name := by
  cases e with
  | relation property value => exact ⟨FilterClause.accepted_relation value, rfl⟩
  | property property operator value =>
      rw [clause]
      cases hr : ctx.isRelation property with
      | true => exact ⟨FilterClause.accepted_relation value, rfl⟩
      | false => exact ⟨accepted_comparison (clauseType_notMem hr) operator value, rfl⟩

theorem clause_recognized (ctx : FilterContext) (e : FilterEntry) :
    (ctx.clause e.recognized).value = (ctx.clause e).value := by
  cases e with
  | relation property value => rfl
  | property property operator value =>
      rw [FilterEntry.recognized, clause, clause]
      split
      · rfl
      · simp only [Logged.value_bind, Logged.value_pure, value_comparison, clauseTag]
        cases operator <;> rfl

end FilterContext

namespace Query

variable (q : Query)

theorem value_compile : q.compile.value =
    .ofMembers (q.bodyMembers (q.filters.map fun e => (q.filterContext.clause e).value)) := by
  rw [← FilterContext.value_clauses]
  rfl

def recognized (q : Query) : Query := { q with filters := q.filters.map FilterEntry.recognized }

theorem compile_recognized : q.recognized.compile.value = q.compile.value := by
  have hclauses : q.recognized.filters.map (fun e => (q.filterContext.clause e).value) =
      q.filters.map fun e => (q.filterContext.clause e).value := by
    rw [recognized, List.map_map]
    exact List.map_congr_left fun e _ => q.filterContext.clause_recognized e
  rw [value_compile, value_compile, ← hclauses]
  rfl

theorem recognized_filter {operator : String} (h : operator ∉ Operator.spellings)
    (property : String) (value : Json) :
    (q.filter property operator value).recognized =
      (q.filter property "equals" value).recognized := by
  have hother := Operator.ofName_of_notMem h
  simp only [recognized, filter, addFilter, List.map_append, hother]
  rfl

/-- Whatever a query was given, there is one clause for each of its conditions, in order, on the
property of the condition and in a form that the service takes. Names of operators that are not
recognized make no difference to the body: they count as `equals`. -/
theorem conditions_accepted (q : Query) :
    List.Forall₂ (fun e v => ∃ c : FilterClause, c.property = e.name ∧ c.IsWrittenAs v ∧
      FilterClause.Accepted c.tag c.comparison c.operand) q.filters q.compile.value.conditions ∧
    q.recognized.compile.value = q.compile.value ∧
    ∀ property operator value, operator ∉ Operator.spellings →
      (q.filter property operator value).compile.value =
        (q.filter property "equals" value).compile.value := by
  refine ⟨?_, q.compile_recognized, ?_⟩
  · rw [conditions_compile, List.forall₂_map_right_iff, List.forall₂_same]
    intro e _
    obtain ⟨haccepted, hname⟩ := q.filterContext.clause_accepted e
    have htag : (q.filterContext.clause e).value.tag ≠ "property" := by
      obtain ⟨t, ht⟩ := q.filterContext.exists_tag e
      rw [ht]
      exact PropertyType.tag_ne (by decide) t
    exact ⟨_, hname, FilterClause.isWrittenAs_toJson _ htag, haccepted⟩
  · intro property operator value h
    rw [← compile_recognized, q.recognized_filter h, compile_recognized]

/-- A name in capitals is no operator. -/
theorem done_filter_unrecognized :
    ((Query.new "db" "Task").filter "Done" "EQUALS" (.bool true)).compile.value =
      ((Query.new "db" "Task").filter "Done" "equals" (.bool true)).compile.value :=
  (conditions_accepted (Query.new "db" "Task")).2.2 "Done" "EQUALS" (.bool true) (by decide)

end Query

end NotionSchema
