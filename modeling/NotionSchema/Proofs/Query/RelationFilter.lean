import NotionSchema.Proofs.Query.ExplicitTypes
import NotionSchema.Proofs.Query.Steps

namespace NotionSchema

namespace FilterContext

variable {ctx : FilterContext} {p : String} {e e' : FilterEntry}

theorem clause_eq_of_isRelation (h : ctx.isRelation p = true) (operator : Operator) (v : Json) :
    ctx.clause (.property p operator v) = ctx.clause (.relation p v) := by
  simp only [clause, if_pos h]

theorem clauses_replace (h : ctx.clause e = ctx.clause e') (before after : List FilterEntry) :
    ctx.clauses (before ++ e :: after) = ctx.clauses (before ++ e' :: after) := by
  induction before with
  | nil => simp only [List.nil_append, clauses, h]
  | cons f before ih => simp only [List.cons_append, clauses, ih]

end FilterContext

/-- The step sets neither of the tables that tell relations from other properties. -/
def QueryStep.KeepsRelations (step : QueryStep) : Prop :=
  step.isRenaming = false ∧ step.relations? = none

namespace Query

variable {ε : Type} {q q' : Query} {p : String} {steps later : List QueryStep} {e e' : FilterEntry}

def precededBy (q : Query) (fs : List FilterEntry) : Query := { q with filters := fs ++ q.filters }

theorem addFilter_precededBy (q : Query) (fs : List FilterEntry) (e : FilterEntry) :
    (q.precededBy fs).addFilter e = (q.addFilter e).precededBy fs := by
  simp only [addFilter, precededBy, List.append_assoc]

theorem addFilter_eq (q : Query) (e : FilterEntry) :
    q.addFilter e = { q with filters := [] }.precededBy (q.filters ++ [e]) := by
  simp only [addFilter, precededBy, List.append_nil]

theorem includeRelation_precededBy (q : Query) (fs : List FilterEntry) (relation : String) :
    (q.precededBy fs).includeRelation relation = (q.includeRelation relation).precededBy fs := by
  have hincludes : ((q.precededBy fs).includes.contains ((q.precededBy fs).remoteName relation)) =
      q.includes.contains (q.remoteName relation) := rfl
  rw [includeRelation, includeRelation, hincludes]
  split <;> rfl

theorem adoptCondition_precededBy (q : Query) (fs : List FilterEntry) (property : String)
    (related : Query) : (q.precededBy fs).adoptCondition property related =
      (·.map (·.precededBy fs)) <$> q.adoptCondition property related := by
  apply Logged.ext
  · rw [Logged.value_map, value_adoptCondition, value_adoptCondition]
    cases related.filters with
    | nil => rfl
    | cons first dropped => exact congrArg Except.ok (q.addFilter_precededBy fs _)
  · rw [Logged.log_map, adoptCondition, adoptCondition]
    cases related.filters with
    | nil => rfl
    | cons first dropped => cases dropped <;> rfl

theorem apply_precededBy (q : Query) (fs : List FilterEntry) (step : QueryStep) :
    (q.precededBy fs).apply step = (·.map (·.precededBy fs)) <$> q.apply step := by
  cases step with
  | filter property operator value =>
      exact congrArg (fun q : Query => (pure (.ok q) : Logged (Except MappingError Query)))
        (addFilter_precededBy q fs _)
  | filterRelation property steps =>
      rw [apply, apply, filterRelation, filterRelation]
      have hrelations : (q.precededBy fs).relations = q.relations := rfl
      rw [hrelations]
      cases q.relations.get? property with
      | none => rfl
      | some databaseId =>
          simp only [map_bind]
          refine bind_congr fun result => ?_
          cases result with
          | error e => rfl
          | ok related =>
              simp only [adoptCondition_precededBy, map_bind, bind_map_left]
              refine bind_congr fun adopted => ?_
              cases adopted <;> rfl
  | includeRelation relation =>
      exact congrArg (fun q : Query => (pure (.ok q) : Logged (Except MappingError Query)))
        (includeRelation_precededBy q fs relation)
  | _ => rfl

theorem applyAll_precededBy (q : Query) (fs : List FilterEntry) (steps : List QueryStep) :
    (q.precededBy fs).applyAll steps = (·.map (·.precededBy fs)) <$> q.applyAll steps := by
  induction steps generalizing q with
  | nil => rfl
  | cons step steps ih =>
      rw [applyAll, applyAll, apply_precededBy, bind_map_left, map_bind]
      refine bind_congr fun result => ?_
      cases result with
      | error e => rfl
      | ok q => exact ih q

theorem isRelation_of_known {databaseId : String} (hp : q.relations.get? p = some databaseId)
    (hproperties : q'.properties = q.properties) (hrelations : q'.relations = q.relations) :
    q'.filterContext.isRelation (q.remoteName p) = true := by
  have hkey : p ∈ q'.relations.keys := by
    obtain ⟨before, after, he, -⟩ := List.lookup_eq_some_iff.1 hp
    rw [hrelations, he, Table.keys]
    simp
  have hname : q'.remoteName p = q.remoteName p := by
    rw [remoteName, hproperties, remoteName]
  have hmentions : q'.MentionsRelation (q.remoteName p) := ⟨p, hkey, .inr hname⟩
  rw [FilterContext.isRelation, q'.contains_relations_iff.2 hmentions]
  rfl

theorem relations_applyAll (hs : ∀ step ∈ steps, step.KeepsRelations)
    (h : (q.applyAll steps).value = .ok q') :
    q'.properties = q.properties ∧ q'.relations = q.relations := by
  have hnone : steps.filterMap QueryStep.relations? = [] :=
    List.filterMap_eq_nil_iff.2 fun step hstep => (hs step hstep).2
  obtain ⟨includes, debug, rfl⟩ := agrees_applyAll (fun step hstep => (hs step hstep).1) h
  refine ⟨rfl, ?_⟩
  change (steps.filterMap QueryStep.relations?).getLast?.getD q.relations = q.relations
  rw [hnone]
  rfl

theorem compile_precededBy_replace (hc : q.filterContext.clause e = q.filterContext.clause e')
    (before : List FilterEntry) :
    (q.precededBy (before ++ [e])).compile = (q.precededBy (before ++ [e'])).compile := by
  have hclauses := FilterContext.clauses_replace hc before q.filters
  rw [List.append_cons before e, List.append_cons before e'] at hclauses
  exact congrArg (fun clauses : Logged (List FilterClause) => do
    return Json.ofMembers (q.bodyMembers (← clauses))) hclauses

theorem compile_applyAll_replace
    (hc : ∀ q', ({ q with filters := [] }.applyAll later).value = .ok q' →
      q'.filterContext.clause e = q'.filterContext.clause e') :
    (·.map compile) <$> (q.addFilter e).applyAll later =
      (·.map compile) <$> (q.addFilter e').applyAll later := by
  rw [addFilter_eq, addFilter_eq q e', applyAll_precededBy, applyAll_precededBy]
  apply Logged.ext
  · simp only [Logged.value_map]
    cases hq' : ({ q with filters := [] }.applyAll later).value with
    | error e => rfl
    | ok q' => exact congrArg Except.ok (compile_precededBy_replace (hc q' hq') q.filters)
  · simp only [Logged.log_map]

theorem compile_addFilter_replace (hc : q.filterContext.clause e = q.filterContext.clause e') :
    (q.addFilter e).compile = (q.addFilter e').compile := by
  rw [addFilter_eq, addFilter_eq q e']
  exact compile_precededBy_replace (q := { q with filters := [] }) hc q.filters

theorem filterRelation_of_unknown {lift : MappingError → ε}
    {configure : Query → Logged (Except ε Query)} (hp : q.relations.get? p = none) :
    q.filterRelation p lift configure = pure (.error (lift (.unknownRelation q.model p))) := by
  rw [filterRelation, hp]

/-- A condition on a relation is the plain condition on the value of the first condition that the
query on the related database has, whatever the operator of the plain condition is and whatever
steps follow that leave the relations as they are. -/
theorem relation_filter_is_filter (q : Query) (p : String) (lift : MappingError → ε)
    (configure : Query → Logged (Except ε Query)) :
    (q.relations.get? p = none →
      q.filterRelation p lift configure = pure (.error (lift (.unknownRelation q.model p)))) ∧
    ∀ databaseId, q.relations.get? p = some databaseId →
      (∀ e, (configure (.new databaseId p)).value = .error e →
        (q.filterRelation p lift configure).value = .error e) ∧
      ∀ related, (configure (.new databaseId p)).value = .ok related →
        (related.filters = [] → (q.filterRelation p lift configure).value =
          .error (lift (.emptyRelationFilter q.model p))) ∧
        ∀ first dropped, related.filters = first :: dropped →
          (∀ steps, ((Query.new databaseId p).applyAll steps).value = .ok related →
            QueryStep.firstValue? steps = some first.value) ∧
          ∃ q', (q.filterRelation p lift configure).value = .ok q' ∧
            q' = { q with filters := q'.filters } ∧
            ∀ operator, q'.compile = (q.filter p operator first.value).compile ∧
              ∀ later, (∀ step ∈ later, step.KeepsRelations) →
                (·.map compile) <$> q'.applyAll later =
                  (·.map compile) <$> (q.filter p operator first.value).applyAll later := by
  refine ⟨filterRelation_of_unknown, fun databaseId hp => ⟨?_, fun related hrelated => ⟨?_, ?_⟩⟩⟩
  · intro e he
    rw [value_filterRelation hp, he]
  · intro hempty
    rw [value_filterRelation hp, hrelated]
    simp only [value_adoptCondition, hempty]
    rfl
  · intro first dropped hfilters
    refine ⟨fun steps hsteps => ?_, q.addFilter (.relation (q.remoteName p) first.value), ?_, rfl,
      fun operator => ⟨?_, fun later hlater => ?_⟩⟩
    · have hvalue := headValue?_applyAll _ steps related hsteps
      rw [headValue?, hfilters] at hvalue
      exact hvalue.symm
    · rw [value_filterRelation hp, hrelated]
      simp only [value_adoptCondition, hfilters]
      rfl
    · have hrelation : q.filterContext.isRelation (q.remoteName p) = true :=
        isRelation_of_known hp rfl rfl
      exact compile_addFilter_replace (FilterContext.clause_eq_of_isRelation hrelation _ _).symm
    -- What the later steps leave as it is tells that the property is still a relation.
    · refine compile_applyAll_replace fun q₁ hq₁ => ?_
      obtain ⟨hproperties, hrelations⟩ := relations_applyAll hlater hq₁
      have hrelation : q₁.filterContext.isRelation (q.remoteName p) = true :=
        isRelation_of_known hp hproperties hrelations
      exact (FilterContext.clause_eq_of_isRelation hrelation _ _).symm

def assignedQuery : Query :=
  ((Query.new "tasks" "Task").withProperties [("owner", "Besitzer")]).withRelations
    [("Sprint", "sprints"), ("owner", "people")]

def ownerSteps : List QueryStep :=
  [.limit 3, .withRelations [("team", "teams")],
    .filterRelation "team" [.orderBy "name" .ascending, .filter "id" "equals" (.string "t1"),
      .filter "size" "greater_than" (.nat 2)],
    .includeRelation "team", .filter "name" "contains" (.string "x"), .after "cursor"]

theorem ownerSteps_leave_one_value :
    (∃ q', (assignedQuery.filterRelation "owner" id (·.applyAll ownerSteps)).value = .ok q' ∧
      q'.compile = (assignedQuery.filter "owner" "is_empty" (.string "t1")).compile ∧
      (·.map compile) <$> q'.applyAll [.limit 7, .withPropertyTypes [("Besitzer", .people)]] =
        (·.map compile) <$> (assignedQuery.filter "owner" "before" (.string "t1")).applyAll
          [.limit 7, .withPropertyTypes [("Besitzer", .people)]]) ∧
    (assignedQuery.filterRelation "Besitzer" id (·.applyAll ownerSteps)).value =
      .error (.unknownRelation "Task" "Besitzer") ∧
    (assignedQuery.filterRelation "Sprint" id (·.applyAll [.limit 3])).value =
      .error (.emptyRelationFilter "Task" "Sprint") := by
  obtain ⟨-, hknown⟩ := relation_filter_is_filter assignedQuery "owner" id (·.applyAll ownerSteps)
  obtain ⟨-, hok⟩ := hknown "people" rfl
  obtain ⟨-, hfirst⟩ := hok _ rfl
  obtain ⟨-, q', hq', -, hsame⟩ := hfirst _ _ rfl
  have hkeep : ∀ step ∈ [.limit 7, .withPropertyTypes [("Besitzer", .people)]],
      QueryStep.KeepsRelations step := by simp [QueryStep.KeepsRelations]
  refine ⟨⟨q', hq', (hsame "is_empty").1, (hsame "before").2 _ hkeep⟩, ?_, ?_⟩
  · obtain ⟨hunknown, -⟩ :=
      relation_filter_is_filter assignedQuery "Besitzer" id (·.applyAll ownerSteps)
    rw [hunknown rfl]
    rfl
  · obtain ⟨-, hknown⟩ :=
      relation_filter_is_filter assignedQuery "Sprint" id (·.applyAll [.limit 3])
    exact ((hknown "sprints" rfl).2 _ rfl).1 rfl

end Query

end NotionSchema
