import NotionSchema.Proofs.Query.Conditions

namespace NotionSchema

variable {v : Json} {p s : String} {t : PropertyType}

theorem FilterClause.sitsUnder_iff (c : FilterClause) (h : c.tag ≠ "property") :
    c.toJson.SitsUnder c.property s ↔ c.tag = s := by
  constructor
  · rintro ⟨comparison, operand, he⟩
    have hget := c.get?_toJson c.tag
    rw [he, get?_toJson, if_pos rfl] at hget
    by_cases hs : c.tag = s
    · exact hs
    · rw [if_neg hs, if_neg h] at hget
      cases hget
  · rintro rfl
    exact ⟨c.comparison, c.operand, rfl⟩

namespace FilterContext

variable {ctx : FilterContext} {operator : Operator}

theorem clause_of_isRelation (h : ctx.isRelation p = true) :
    (ctx.clause (.property p operator v)).value = .containing p v := by
  rw [clause, if_pos h]
  rfl

theorem clause_of_not_isRelation (h : ctx.isRelation p = false) :
    (ctx.clause (.property p operator v)).value =
      ⟨p, ctx.clauseTag p operator, (comparison p operator v).value.1,
        (comparison p operator v).value.2⟩ := by
  rw [clause, if_neg (by simp [h])]
  rfl

theorem clauseType_of_explicitType (h : ctx.explicitType? p = some t) (ht : hasNoClause t = false) :
    ctx.clauseType p = t := by
  rw [clauseType, h]
  simp [ht]

end FilterContext

namespace Query

variable (q : Query)

/-- The table of relations has the property as a key or maps one to it. -/
def MentionsRelation (p : String) : Prop := ∃ key ∈ q.relations.keys, key = p ∨ q.remoteName key = p

theorem contains_relations_iff :
    q.filterContext.relations.contains p = true ↔ q.MentionsRelation p := by
  rw [List.contains_iff_mem, filterContext, List.mem_flatMap]
  simp only [List.mem_cons, List.not_mem_nil, or_false, MentionsRelation, eq_comm]

def explicitTag (t : PropertyType) (operator : String) : String :=
  if Operator.ofName operator ∈ [.before, .after, .onOrBefore, .onOrAfter] then "date" else t.tag

theorem explicitTag_ne_relation (ht : t ≠ .relation) (operator : String) :
    explicitTag t operator ≠ "relation" := by
  rw [explicitTag]
  split
  · decide
  · intro he
    exact ht (PropertyType.tag_injective he)

theorem explicitTag_ne_property (t : PropertyType) (operator : String) :
    explicitTag t operator ≠ "property" := by
  rw [explicitTag]
  split
  · decide
  · exact PropertyType.tag_ne (by decide) t

theorem isDateComparison_iff (operator : Operator) : operator.isDateComparison = true ↔
    operator ∈ [.before, .after, .onOrBefore, .onOrAfter] := by
  cases operator <;> simp [Operator.isDateComparison]

theorem isRelation_eq_looksLikeRelation (ht : q.propertyTypes.get? p = some t)
    (hne : t ≠ .relation) (hr : ¬ q.MentionsRelation p) :
    q.filterContext.isRelation p = looksLikeRelation p := by
  have htable : q.filterContext.relations.contains p = false := by
    rw [← Bool.not_eq_true, contains_relations_iff]
    exact hr
  have htype : q.filterContext.explicitType? p = some t := ht
  rw [FilterContext.isRelation, htable, htype]
  simp [hne]

theorem clauseTag_eq_explicitTag (ht : q.propertyTypes.get? p = some t)
    (hc : FilterContext.hasNoClause t = false) (operator : String) :
    q.filterContext.clauseTag p (.ofName operator) = explicitTag t operator := by
  have htype : q.filterContext.explicitType? p = some t := ht
  rw [FilterContext.clauseTag, FilterContext.clauseType_of_explicitType htype hc, explicitTag]
  simp only [isDateComparison_iff]
  rfl

/-- A condition on a property with an explicit type stands under the tag of this type exactly if the
name of the property does not look like that of a relation; else it is a condition on a relation. -/
theorem explicit_type_decides_iff (p operator : String) (v : Json) (t : PropertyType) (i : Nat)
    (hi : q.filters[i]? = some (.property p (.ofName operator) v))
    (ht : q.propertyTypes.get? p = some t) (hplain : t ∉ [.relation, .formula, .people, .files])
    (hr : ¬ q.MentionsRelation p) :
    ∃ clause, q.compile.value.conditions[i]? = some clause ∧
      (clause.SitsUnder p (explicitTag t operator) ↔ looksLikeRelation p = false) ∧
      (clause.SitsUnder p "relation" ↔ looksLikeRelation p = true) := by
  simp only [List.mem_cons, List.not_mem_nil, or_false, not_or] at hplain
  obtain ⟨hrelation, hformula, hpeople, hfiles⟩ := hplain
  have hclause : FilterContext.hasNoClause t = false := by
    cases t <;> simp_all [FilterContext.hasNoClause]
  have hget : q.compile.value.conditions[i]? =
      some (q.filterContext.clause (.property p (.ofName operator) v)).value.toJson := by
    rw [conditions_compile, List.getElem?_map, hi]
    rfl
  refine ⟨_, hget, ?_⟩
  have hisRelation := q.isRelation_eq_looksLikeRelation ht hrelation hr
  have hne : explicitTag t operator ≠ "relation" := explicitTag_ne_relation hrelation operator
  cases hl : looksLikeRelation p with
  | true =>
      rw [hl] at hisRelation
      rw [FilterContext.clause_of_isRelation hisRelation]
      have hunder := fun s => (FilterClause.containing p v).sitsUnder_iff (s := s)
        (PropertyType.tag_ne (by decide) .relation)
      constructor
      · exact iff_of_false (fun h => hne ((hunder _).1 h).symm) (by decide)
      · exact iff_of_true ((hunder _).2 rfl) rfl
  | false =>
      rw [hl] at hisRelation
      rw [FilterContext.clause_of_not_isRelation hisRelation, q.clauseTag_eq_explicitTag ht hclause]
      generalize (FilterContext.comparison p (.ofName operator) v).value = compared
      have hunder := fun s => FilterClause.sitsUnder_iff (s := s)
        ⟨p, explicitTag t operator, compared.1, compared.2⟩ (explicitTag_ne_property t operator)
      constructor
      · exact iff_of_true ((hunder _).2 rfl) rfl
      · exact iff_of_false (fun h => hne ((hunder _).1 h)) (by decide)

def statusQuery : Query :=
  ((Query.new "db" "Task").withPropertyTypes [("Status", .number)]).filter "Status" "equals"
    (.nat 3)

theorem statusQuery_typed : ∃ clause, statusQuery.compile.value.conditions[0]? = some clause ∧
    clause.SitsUnder "Status" "number" := by
  have hmention : ¬ statusQuery.MentionsRelation "Status" := by
    rintro ⟨key, hkey, -⟩
    cases hkey
  obtain ⟨clause, hget, htyped, -⟩ := explicit_type_decides_iff statusQuery "Status" "equals"
    (.nat 3) .number 0 rfl rfl (by decide) hmention
  exact ⟨clause, hget, htyped.2 (by decide +kernel)⟩

def domainQuery : Query :=
  ((Query.new "db" "M").withPropertyTypes [("domain", .select)]).filter "domain" "equals"
    (.string "x")

/-- The name `domain` overrides the explicit type of the property. -/
theorem domainQuery_not_typed : domainQuery.propertyTypes.get? "domain" = some .select ∧
    ¬ domainQuery.MentionsRelation "domain" ∧
    ∃ clause, domainQuery.compile.value.conditions = [clause] ∧
      ¬ clause.SitsUnder "domain" PropertyType.select.tag ∧ clause.SitsUnder "domain" "relation" := by
  have hisRelation : domainQuery.filterContext.isRelation "domain" = true := by decide +kernel
  have hclause : (domainQuery.filterContext.clause
      (.property "domain" .equals (.string "x"))).value = .containing "domain" (.string "x") :=
    FilterContext.clause_of_isRelation hisRelation
  have hunder := fun s => (FilterClause.containing "domain" (.string "x")).sitsUnder_iff (s := s)
    (by decide)
  refine ⟨rfl, ?_, (FilterClause.containing "domain" (.string "x")).toJson, ?_, ?_, (hunder _).2 rfl⟩
  · rintro ⟨key, hkey, -⟩
    cases hkey
  · rw [conditions_compile, ← hclause]
    rfl
  · intro h
    exact absurd ((hunder _).1 h) (by decide)

end Query

end NotionSchema
