import NotionSchema.Proofs.Query.BodyForm

namespace NotionSchema.Query

/-- Nothing has been asked for. Tables may have been set. -/
structure Fresh (q : Query) : Prop where
  filters_eq : q.filters = []
  sorts_eq : q.sorts = []
  pageSize_eq : q.pageSize = none
  startCursor_eq : q.startCursor = none

variable {q₀ q q' : Query} {steps steps' : List QueryStep} {r : Request}

theorem compile_eq_of_ofSteps_eq (hs : ∀ step ∈ steps, step.isRenaming = false)
    (h : (q₀.applyAll steps).value = .ok q) (hs' : ∀ step ∈ steps', step.isRenaming = false)
    (h' : (q₀.applyAll steps').value = .ok q')
    (hr : Request.ofSteps steps' = Request.ofSteps steps) : q'.compile = q.compile := by
  calc q'.compile = (q₀.ask (.ofSteps steps')).compile := (agrees_applyAll hs' h').compile_eq
    _ = (q₀.ask (.ofSteps steps)).compile := by rw [hr]
    _ = q.compile := (agrees_applyAll hs h).compile_eq.symm

theorem Fresh.filters_ask (h : q₀.Fresh) : (q₀.ask r).filters = r.conditions.map q₀.entryOf := by
  rw [ask, h.filters_eq, List.nil_append]

theorem Fresh.sorts_ask (h : q₀.Fresh) : (q₀.ask r).sorts = r.orders.map q₀.sortOf := by
  rw [ask, h.sorts_eq, List.nil_append]

theorem Fresh.pageSize_ask (h : q₀.Fresh) : (q₀.ask r).pageSize = r.pageSize := by
  rw [ask, h.pageSize_eq, Option.or_none]

theorem Fresh.startCursor_ask (h : q₀.Fresh) : (q₀.ask r).startCursor = r.cursor := by
  rw [ask, h.startCursor_eq, Option.or_none]

theorem Fresh.get?_filter_ask (h : q₀.Fresh) : (q₀.ask r).compile.value.get? "filter" =
    match r.conditions.map fun c =>
      ((q₀.ask r).filterContext.clause ((q₀.ask r).entryOf c)).value.toJson with
    | [] => none
    | [v] => some v
    | vs => some (.object [("and", .array vs)]) := by
  rw [get?_compile, if_neg (by decide), if_pos rfl, FilterContext.value_clauses, h.filters_ask,
    entryOf_ask]
  match r.conditions with
  | [] => rfl
  | [c] => rfl
  | c :: c' :: cs => simp [conjunction?]

theorem Fresh.get?_sorts_ask (h : q₀.Fresh) : (q₀.ask r).compile.value.get? "sorts" =
    if r.orders = [] then none
    else some (.array (r.orders.map fun order => (q₀.sortOf order).toJson)) := by
  rw [get?_compile]
  simp [h.sorts_ask]
  rfl

/-- For a fresh query and any two lists of steps that it can take, neither of which sets the table
of names: if both ask for the same, in the same order where it counts, they compile to the same body
with the same warnings. The body holds what was asked for, under the last tables, and nothing
else. -/
theorem compile_of_interleaved (q₀ : Query) (hq : q₀.Fresh) (steps : List QueryStep) (q : Query)
    (hs : ∀ step ∈ steps, step.isRenaming = false) (h : (q₀.applyAll steps).value = .ok q) :
    (∀ steps' q', (∀ step ∈ steps', step.isRenaming = false) →
      (q₀.applyAll steps').value = .ok q' → Request.ofSteps steps' = Request.ofSteps steps →
      q'.compile = q.compile) ∧
    let r := Request.ofSteps steps
    let body := q.compile.value
    body.get? "database_id" = some (.string q₀.databaseId) ∧
    (r.conditions = [] → body.get? "filter" = none) ∧
    (∀ c, r.conditions = [c] → ∃ v, body.get? "filter" = some v ∧ (q₀.ask r).Renders c v) ∧
    (2 ≤ r.conditions.length → ∃ vs, body.get? "filter" = some (.object [("and", .array vs)]) ∧
      List.Forall₂ (fun c v => (q₀.ask r).Renders c v ∧ v.get? "and" = none) r.conditions vs) ∧
    (r.orders = [] → body.get? "sorts" = none) ∧
    (r.orders ≠ [] → ∃ vs, body.get? "sorts" = some (.array vs) ∧ List.Forall₂
      (fun order v => SortEntry.IsWrittenAs ⟨q₀.remoteName order.1, order.2⟩ v) r.orders vs) ∧
    body.get? "page_size" = r.pageSize.map .nat ∧
    body.get? "start_cursor" = r.cursor.map .string ∧
    ∀ key, key ∉ ["database_id", "filter", "sorts", "page_size", "start_cursor"] →
      body.get? key = none := by
  refine ⟨fun steps' q' hs' h' hr => compile_eq_of_ofSteps_eq hs h hs' h' hr, ?_⟩
  intro r body
  -- What the steps ask for, put into one request, decides the body.
  have hbody : body = (q₀.ask r).compile.value :=
    congrArg Logged.value (agrees_applyAll hs h).compile_eq
  have hvalues : ∀ c ∈ r.conditions, c.HasValue := hasValue_of_applyAll h
  have hfilter := hq.get?_filter_ask (r := r)
  have hsorts := hq.get?_sorts_ask (r := r)
  rw [← hbody] at hfilter hsorts
  refine ⟨?_, ?_, ?_, ?_, ?_, ?_, ?_, ?_, ?_⟩
  · rw [hbody, get?_compile, if_pos rfl]
    rfl
  · intro hc
    rw [hfilter, hc]
    rfl
  · intro c hc
    rw [hc] at hfilter
    exact ⟨_, hfilter, renders_clause (hvalues c (hc ▸ List.mem_singleton_self c))⟩
  · intro hlength
    refine ⟨_, ?_, List.forall₂_map_right_iff.2 (List.forall₂_same.2 fun c hc =>
      ⟨renders_clause (hvalues c hc), FilterContext.get?_and_clause _ _⟩)⟩
    rw [hfilter]
    match r.conditions, hlength with
    | c :: c' :: cs, _ => rfl
  · intro ho
    rw [hsorts, if_pos ho]
  · intro ho
    exact ⟨_, hsorts.trans (if_neg ho), List.forall₂_map_right_iff.2 (List.forall₂_same.2
      fun order _ => SortEntry.isWrittenAs_toJson _)⟩
  · rw [hbody, get?_compile]
    simp [hq.pageSize_ask]
  · rw [hbody, get?_compile]
    simp [hq.startCursor_ask]
  · intro key hkey
    rw [hbody, get?_compile]
    simp_all

def dueQuery : Query := (Query.new "db" "Task").withProperties [("Owner", "Besitzer")]

def dueSteps : List QueryStep :=
  [.withRelations [("Owner", "people")], .limit 5,
    .filterRelation "Owner" [.filter "id" "equals" (.string "x"), .limit 1],
    .orderBy "Due" .descending, .filter "Due" "before" (.string "2024-07-01"),
    .filter "Points" "equals" (.nat 3), .orderBy "Created At" .ascending,
    .withPropertyTypes [("Points", .number)], .filter "Status" "isNotEmpty" .null,
    .filter "Domain" "equals" (.string "y"), .after "p2", .limit 20]

def dueStepsSorted : List QueryStep :=
  [.after "p1", .withPropertyTypes [("Points", .number)], .orderBy "Due" .descending,
    .orderBy "Created At" .ascending, .debug true, .withRelations [("Owner", "staff")], .limit 20,
    .filterRelation "Owner" [.filter "id" "equals" (.string "x"), .limit 1],
    .includeRelation "Owner", .filter "Due" "before" (.string "2024-07-01"),
    .filter "Points" "equals" (.nat 3), .filter "Status" "isNotEmpty" .null,
    .filter "Domain" "equals" (.string "y"), .withRelations [("Owner", "people")], .after "p2"]

def dueClauses : List Json :=
  [.object [("property", .string "Besitzer"), ("relation", .object [("contains", .string "x")])],
    .object [("date", .object [("before", .string "2024-07-01")]), ("property", .string "Due")],
    .object [("number", .object [("equals", .nat 3)]), ("property", .string "Points")],
    .object [("property", .string "Status"), ("select", .object [("is_not_empty", .bool true)])],
    .object [("property", .string "Domain"), ("relation", .object [("contains", .string "y")])]]

def dueSorts : List Json :=
  [.object [("direction", .string "descending"), ("property", .string "Due")],
    .object [("direction", .string "ascending"), ("timestamp", .string "created_time")]]

theorem dueSteps_interleaved : ∃ q q', (dueQuery.applyAll dueSteps).value = .ok q ∧
    (dueQuery.applyAll dueStepsSorted).value = .ok q' ∧ q'.compile = q.compile ∧
    q.compile.value.get? "filter" = some (.object [("and", .array dueClauses)]) ∧
    List.Forall₂ (dueQuery.ask (.ofSteps dueSteps)).Renders
      [.relation "Owner" [.filter "id" "equals" (.string "x"), .limit 1],
        .property "Due" "before" (.string "2024-07-01"), .property "Points" "equals" (.nat 3),
        .property "Status" "isNotEmpty" .null, .property "Domain" "equals" (.string "y")]
      dueClauses ∧
    q.compile.value.get? "sorts" = some (.array dueSorts) ∧
    List.Forall₂ SortEntry.IsWrittenAs [⟨"Due", .descending⟩, ⟨"Created At", .ascending⟩]
      dueSorts ∧
    q.compile.value.get? "page_size" = some (.nat 20) ∧
    q.compile.value.get? "start_cursor" = some (.string "p2") := by
  have hfresh : dueQuery.Fresh := ⟨rfl, rfl, rfl, rfl⟩
  have hbody := compile_of_interleaved dueQuery hfresh dueSteps _ (by decide) rfl
  obtain ⟨hsame, -, -, -, hfilter, -, hsorts, hpage, hcursor, -⟩ := hbody
  obtain ⟨clauses, hclauses, hwritten⟩ := hfilter (by decide)
  obtain ⟨sorts, hsorted, hsorts⟩ := hsorts (by decide)
  obtain rfl : dueClauses = clauses := by cases hclauses; rfl
  obtain rfl : dueSorts = sorts := by cases hsorted; rfl
  refine ⟨_, _, rfl, rfl, hsame dueStepsSorted _ (by decide) rfl rfl, hclauses, ?_, hsorted, ?_,
    hpage, hcursor⟩
  · exact hwritten.imp fun _ _ h => h.1
  · exact (List.forall₂_map_left_iff (f := dueQuery.sortOf)).2 hsorts

end NotionSchema.Query
