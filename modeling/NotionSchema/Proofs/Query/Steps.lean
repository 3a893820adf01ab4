import NotionSchema.Query.Step

namespace NotionSchema

/-- A condition as it is asked for, under a local name. -/
inductive Condition where
  | property (name operator : String) (value : Json)
  | relation (name : String) (steps : List QueryStep)

namespace QueryStep

@[simp] def condition? : QueryStep → Option Condition
  | .filter property operator value => some (.property property operator value)
  | .filterRelation property steps => some (.relation property steps)
  | _ => none

@[simp] def order? : QueryStep → Option (String × SortDirection)
  | .orderBy property direction => some (property, direction)
  | _ => none

@[simp] def limit? : QueryStep → Option Nat
  | .limit size => some size
  | _ => none

@[simp] def cursor? : QueryStep → Option String
  | .after cursor => some cursor
  | _ => none

@[simp] def relations? : QueryStep → Option (Table String)
  | .withRelations t => some t
  | _ => none

@[simp] def propertyTypes? : QueryStep → Option (Table PropertyType)
  | .withPropertyTypes t => some t
  | _ => none

@[simp] def isRenaming : QueryStep → Bool
  | .withProperties _ => true
  | _ => false

mutual

def value? : QueryStep → Option Json
  | .filter _ _ value => some value
  | .filterRelation _ steps => firstValue? steps
  | _ => none

def firstValue? : List QueryStep → Option Json
  | [] => none
  | step :: rest => step.value?.or (firstValue? rest)

end

end QueryStep

/-- A condition on a relation takes its value from the steps on the related database. -/
inductive Condition.HasValue : Condition → Prop
  | property (name operator : String) (value : Json) : HasValue (.property name operator value)
  | relation (name : String) (steps : List QueryStep) (value : Json)
      (h : QueryStep.firstValue? steps = some value) : HasValue (.relation name steps)

structure Request where
  conditions : List Condition
  orders : List (String × SortDirection)
  pageSize : Option Nat
  cursor : Option String
  relations : Option (Table String)
  propertyTypes : Option (Table PropertyType)

namespace Request

/-- All conditions and sorts, in order, and the last of everything else. -/
def ofSteps (steps : List QueryStep) : Request where
  conditions := steps.filterMap QueryStep.condition?
  orders := steps.filterMap QueryStep.order?
  pageSize := (steps.filterMap QueryStep.limit?).getLast?
  cursor := (steps.filterMap QueryStep.cursor?).getLast?
  relations := (steps.filterMap QueryStep.relations?).getLast?
  propertyTypes := (steps.filterMap QueryStep.propertyTypes?).getLast?

def append (r r' : Request) : Request where
  conditions := r.conditions ++ r'.conditions
  orders := r.orders ++ r'.orders
  pageSize := r'.pageSize.or r.pageSize
  cursor := r'.cursor.or r.cursor
  relations := r'.relations.or r.relations
  propertyTypes := r'.propertyTypes.or r.propertyTypes

instance : Append Request := ⟨append⟩

theorem ofSteps_append (steps steps' : List QueryStep) :
    ofSteps (steps ++ steps') = ofSteps steps ++ ofSteps steps' := by
  change _ = append _ _
  simp only [ofSteps, append, List.filterMap_append, List.getLast?_append]

end Request

namespace Query

variable {ε : Type} {q q' : Query} {steps : List QueryStep} {step : QueryStep}

/-- The condition under its remote name. The steps on a related database leave only a value. -/
def entryOf (q : Query) : Condition → FilterEntry
  | .property name operator value => .property (q.remoteName name) (.ofName operator) value
  | .relation name steps =>
    .relation (q.remoteName name) ((QueryStep.firstValue? steps).getD .null)

def sortOf (q : Query) (order : String × SortDirection) : SortEntry :=
  ⟨q.remoteName order.1, order.2⟩

def ask (q : Query) (r : Request) : Query :=
  { q with
    filters := q.filters ++ r.conditions.map q.entryOf
    sorts := q.sorts ++ r.orders.map q.sortOf
    pageSize := r.pageSize.or q.pageSize
    startCursor := r.cursor.or q.startCursor
    relations := r.relations.getD q.relations
    propertyTypes := r.propertyTypes.getD q.propertyTypes }

/-- Apart from what is included and logged the queries are one. -/
def Agrees (q q' : Query) : Prop :=
  ∃ includes debug, q' = { q with includes := includes, debug := debug }

theorem entryOf_ask (q : Query) (r : Request) : (q.ask r).entryOf = q.entryOf := by
  funext c
  cases c <;> rfl

theorem ask_append (q : Query) (r r' : Request) : q.ask (r ++ r') = (q.ask r).ask r' := by
  have hfilters : (q.ask (r ++ r')).filters = ((q.ask r).ask r').filters := by
    change q.filters ++ (r.conditions ++ r'.conditions).map q.entryOf =
      q.filters ++ r.conditions.map q.entryOf ++ r'.conditions.map (q.ask r).entryOf
    rw [entryOf_ask, List.map_append, List.append_assoc]
  have hsorts : (q.ask (r ++ r')).sorts = ((q.ask r).ask r').sorts := by
    change q.sorts ++ (r.orders ++ r'.orders).map q.sortOf =
      q.sorts ++ r.orders.map q.sortOf ++ r'.orders.map q.sortOf
    rw [List.map_append, List.append_assoc]
  rw [Query.mk.injEq]
  exact ⟨rfl, rfl, rfl, Option.getD_or, Option.getD_or, hfilters, hsorts, rfl, Option.or_assoc,
    Option.or_assoc, rfl⟩

theorem Agrees.ask (h : q.Agrees q') (r : Request) : (q.ask r).Agrees (q'.ask r) := by
  obtain ⟨includes, debug, rfl⟩ := h
  refine ⟨includes, debug, ?_⟩
  have hentry : entryOf { q with includes := includes, debug := debug } = q.entryOf := by
    funext c
    cases c <;> rfl
  simp only [Query.ask, hentry]
  rfl

theorem Agrees.trans {q'' : Query} (h : q.Agrees q') (h' : q'.Agrees q'') : q.Agrees q'' := by
  obtain ⟨_, _, rfl⟩ := h
  obtain ⟨includes, debug, rfl⟩ := h'
  exact ⟨includes, debug, rfl⟩

theorem Agrees.compile_eq (h : q.Agrees q') : q'.compile = q.compile := by
  obtain ⟨includes, debug, rfl⟩ := h
  rfl

theorem value_adoptCondition (q : Query) (property : String) (related : Query) :
    (q.adoptCondition property related).value =
      match related.filters with
      | [] => .error (.emptyRelationFilter q.model property)
      | first :: _ => .ok (q.addFilter (.relation (q.remoteName property) first.value)) := by
  rw [adoptCondition]
  cases related.filters with
  | nil => rfl
  | cons first dropped => cases dropped <;> rfl

theorem value_filterRelation {property databaseId : String} {lift : MappingError → ε}
    {configure : Query → Logged (Except ε Query)}
    (hd : q.relations.get? property = some databaseId) :
    (q.filterRelation property lift configure).value =
      match (configure (.new databaseId property)).value with
      | .error e => .error e
      | .ok related => (q.adoptCondition property related).value.mapError lift := by
  simp only [filterRelation, hd, Logged.value_bind]
  cases (configure (.new databaseId property)).value <;> rfl

theorem filterRelation_eq_ok {property : String} {lift : MappingError → ε}
    {configure : Query → Logged (Except ε Query)}
    (h : (q.filterRelation property lift configure).value = .ok q') :
    ∃ databaseId related first, q.relations.get? property = some databaseId ∧
      (configure (.new databaseId property)).value = .ok related ∧
      related.filters.head? = some first ∧
      q' = q.addFilter (.relation (q.remoteName property) first.value) := by
  cases hd : q.relations.get? property with
  | none =>
      rw [filterRelation, hd] at h
      cases h
  | some databaseId =>
      rw [value_filterRelation hd] at h
      cases hc : (configure (.new databaseId property)).value with
      | error e =>
          rw [hc] at h
          cases h
      | ok related =>
          simp only [hc, value_adoptCondition] at h
          cases hf : related.filters with
          | nil =>
              rw [hf] at h
              cases h
          | cons first dropped =>
              rw [hf] at h
              cases h
              exact ⟨databaseId, related, first, rfl, hc, by rw [hf]; rfl, rfl⟩

theorem applyAll_cons_eq_ok (h : (q.applyAll (step :: steps)).value = .ok q') :
    ∃ q₁, (q.apply step).value = .ok q₁ ∧ (q₁.applyAll steps).value = .ok q' := by
  rw [applyAll, Logged.value_bind] at h
  cases hs : (q.apply step).value with
  | error e =>
      rw [hs] at h
      cases h
  | ok q₁ =>
      rw [hs] at h
      exact ⟨q₁, rfl, h⟩

def headValue? (q : Query) : Option Json := q.filters.head?.map FilterEntry.value

theorem headValue?_addFilter (q : Query) (e : FilterEntry) :
    (q.addFilter e).headValue? = q.headValue?.or (some e.value) := by
  rw [headValue?, addFilter, List.head?_append, Option.map_or]
  rfl

mutual

theorem headValue?_apply (q : Query) (step : QueryStep) (q' : Query)
    (h : (q.apply step).value = .ok q') : q'.headValue? = q.headValue?.or step.value? := by
  cases step with
  | filter property operator value =>
      cases h
      exact headValue?_addFilter _ _
  | filterRelation property steps =>
      obtain ⟨databaseId, related, first, -, hrelated, hfirst, rfl⟩ := filterRelation_eq_ok h
      have hvalue := headValue?_applyAll (.new databaseId property) steps related hrelated
      rw [headValue?, hfirst] at hvalue
      rw [headValue?_addFilter, QueryStep.value?]
      exact congrArg _ hvalue
  | withProperties t => cases h; exact (Option.or_none).symm
  | includeRelation relation =>
      cases h
      rw [includeRelation]
      split <;> exact (Option.or_none).symm
  | _ => cases h; exact (Option.or_none).symm

theorem headValue?_applyAll (q : Query) (steps : List QueryStep) (q' : Query)
    (h : (q.applyAll steps).value = .ok q') :
    q'.headValue? = q.headValue?.or (QueryStep.firstValue? steps) := by
  cases steps with
  | nil =>
      cases h
      exact (Option.or_none).symm
  | cons step steps =>
      obtain ⟨q₁, hstep, hrest⟩ := applyAll_cons_eq_ok h
      rw [headValue?_applyAll q₁ steps q' hrest, headValue?_apply q step q₁ hstep,
        QueryStep.firstValue?, Option.or_assoc]

end

theorem apply_filterRelation_eq_ok {property : String} {inner : List QueryStep}
    (h : (q.apply (.filterRelation property inner)).value = .ok q') :
    ∃ value, QueryStep.firstValue? inner = some value ∧
      q' = q.addFilter (.relation (q.remoteName property) value) := by
  obtain ⟨databaseId, related, first, -, hrelated, hfirst, rfl⟩ := filterRelation_eq_ok h
  have hvalue := headValue?_applyAll (.new databaseId property) inner related hrelated
  rw [headValue?, hfirst] at hvalue
  exact ⟨first.value, hvalue.symm, rfl⟩

theorem hasValue_of_applyAll (h : (q.applyAll steps).value = .ok q') :
    ∀ c ∈ (Request.ofSteps steps).conditions, c.HasValue := by
  induction steps generalizing q with
  | nil => exact fun c hc => absurd hc List.not_mem_nil
  | cons step steps ih =>
      obtain ⟨q₁, h₁, hrest⟩ := applyAll_cons_eq_ok h
      intro c hc
      change c ∈ (step :: steps).filterMap QueryStep.condition? at hc
      rw [List.filterMap_cons] at hc
      cases step with
      | filter property operator value =>
          rcases List.mem_cons.1 hc with rfl | hc
          · exact .property property operator value
          · exact ih hrest c hc
      | filterRelation property inner =>
          rcases List.mem_cons.1 hc with rfl | hc
          · obtain ⟨value, hvalue, -⟩ := apply_filterRelation_eq_ok h₁
            exact .relation property inner value hvalue
          · exact ih hrest c hc
      | _ => exact ih hrest c hc

theorem ask_singleton (q : Query) (step : QueryStep) : q.ask (.ofSteps [step]) =
    { q with
      filters := q.filters ++ (step.condition?.map q.entryOf).toList
      sorts := q.sorts ++ (step.order?.map q.sortOf).toList
      pageSize := step.limit?.or q.pageSize
      startCursor := step.cursor?.or q.startCursor
      relations := step.relations?.getD q.relations
      propertyTypes := step.propertyTypes?.getD q.propertyTypes } := by
  have hlist {α β : Type} (f : α → β) (x : QueryStep → Option α) :
      ([step].filterMap x).map f = ((x step).map f).toList := by
    cases hx : x step <;> simp [hx]
  have hlast {α : Type} (x : QueryStep → Option α) : ([step].filterMap x).getLast? = x step := by
    cases hx : x step <;> simp [hx]
  simp only [ask, Request.ofSteps, hlist, hlast]

theorem agrees_apply (hs : step.isRenaming = false) (h : (q.apply step).value = .ok q') :
    (q.ask (.ofSteps [step])).Agrees q' := by
  rw [ask_singleton]
  cases step with
  | withProperties t => cases hs
  | filterRelation property steps =>
      obtain ⟨value, hvalue, rfl⟩ := apply_filterRelation_eq_ok h
      exact ⟨q.includes, q.debug, by simp [addFilter, entryOf, hvalue]⟩
  | includeRelation relation =>
      cases h
      refine ⟨(q.includeRelation relation).includes, q.debug, ?_⟩
      rw [includeRelation]
      split <;> simp
  | debug on =>
      cases h
      exact ⟨q.includes, on, by simp [withDebug]⟩
  | _ =>
      cases h
      exact ⟨q.includes, q.debug, by
        simp [filter, addFilter, entryOf, orderBy, sortOf, limit, after, withRelations,
          withPropertyTypes]⟩

theorem agrees_applyAll (hs : ∀ step ∈ steps, step.isRenaming = false)
    (h : (q.applyAll steps).value = .ok q') : (q.ask (.ofSteps steps)).Agrees q' := by
  induction steps generalizing q with
  | nil =>
      cases h
      refine ⟨q'.includes, q'.debug, ?_⟩
      simp [ask, Request.ofSteps]
  | cons step steps ih =>
      obtain ⟨hstep, hsteps⟩ := List.forall_mem_cons.1 hs
      obtain ⟨q₁, h₁, hrest⟩ := applyAll_cons_eq_ok h
      have hfirst := (agrees_apply hstep h₁).ask (.ofSteps steps)
      rw [← ask_append, ← Request.ofSteps_append] at hfirst
      exact hfirst.trans (ih hsteps hrest)

end Query

end NotionSchema
