import NotionSchema.Proofs.Loading.Calls
import NotionSchema.Proofs.Query.Execution

namespace NotionSchema

open Loading

namespace PropertyValue

/-- The ids of pages that a value refers to: a text that is not empty is such an id. -/
def pageIds? : PropertyValue → Option (List String)
  | .text id => if id = "" then none else some [id]
  | .references ids => some ids
  | _ => none

variable {v w : PropertyValue} {P : String → Record → Prop}

theorem pageIds?_eq_some_iff {ids : List String} :
    v.pageIds? = some ids ↔ ∃ link, v.plan = .load link ∧ link.ids = ids := by
  simp only [plan_eq_load_iff]
  constructor
  · intro h
    cases v with
    | text id =>
        simp only [pageIds?, Option.ite_none_left_eq_some, Option.some.injEq] at h
        exact ⟨.one id, .inl ⟨id, h.1, rfl, rfl⟩, h.2⟩
    | references listed =>
        cases h
        exact ⟨.many ids, .inr ⟨ids, rfl, rfl⟩, rfl⟩
    | _ => cases h
  · rintro ⟨link, ⟨id, hid, rfl, rfl⟩ | ⟨listed, rfl, rfl⟩, rfl⟩
    · exact if_neg hid
    · rfl

theorem Resolves.eq_of_pageIds? (h : v.Resolves P w) (hv : v.pageIds? = none) : w = v := by
  cases h with
  | one id r hid _ => exact absurd hv (by simp [pageIds?, hid])
  | many => cases hv
  | keep => rfl

end PropertyValue

/-- The records agree in all but the excepted properties, and have the same properties. -/
structure Record.AgreesOutside (excepted : String → Prop) (r r' : Record) : Prop where
  id_eq : r'.id = r.id
  createdTime_eq : r'.createdTime = r.createdTime
  lastEditedTime_eq : r'.lastEditedTime = r.lastEditedTime
  get?_eq : ∀ name, ¬ excepted name → r'.get? name = r.get? name
  isSome_eq : ∀ name, (r'.get? name).isSome = (r.get? name).isSome

namespace Query

variable {σ : Type} {q : Query} {r r' : Record} {id name : String} {P : String → Record → Prop}

/-- An included property of the record that refers to pages. -/
def Follows (q : Query) (r : Record) (name : String) : Prop :=
  name ∈ q.includes ∧ ((r.get? name).bind PropertyValue.pageIds?).isSome = true

/-- The page is referred to in an included property of the record. -/
def RefersTo (q : Query) (r : Record) (id : String) : Prop :=
  ∃ name ∈ q.includes, ∃ ids, (r.get? name).bind PropertyValue.pageIds? = some ids ∧ id ∈ ids

theorem mem_linkedIds_iff : id ∈ q.linkedIds r ↔ q.RefersTo r id := by
  rw [linkedIds, List.mem_flatMap]
  constructor
  · rintro ⟨⟨name, link⟩, hlink, hid⟩
    obtain ⟨hname, hplan⟩ := (q.mem_links r q.includes).1 hlink
    obtain ⟨v, hv, hload⟩ := Option.map_eq_some_iff.1 hplan
    refine ⟨name, hname, link.ids, ?_, hid⟩
    rw [hv, Option.bind_some]
    exact PropertyValue.pageIds?_eq_some_iff.2 ⟨link, hload, rfl⟩
  · rintro ⟨name, hname, ids, hids, hid⟩
    obtain ⟨v, hv, hids⟩ := Option.bind_eq_some_iff.1 hids
    obtain ⟨link, hload, rfl⟩ := PropertyValue.pageIds?_eq_some_iff.1 hids
    refine ⟨(name, link), (q.mem_links r q.includes).2 ⟨hname, ?_⟩, hid⟩
    rw [hv, Option.map_some, hload]

theorem mem_flatMap_linkedIds_iff (q : Query) (pages : List Page) (id : String) :
    id ∈ (pages.map fun p => (Record.decode p).value).flatMap q.linkedIds ↔
      ∃ p ∈ pages, q.RefersTo (Record.decode p).value id := by
  simp only [List.mem_flatMap, List.mem_map, exists_exists_and_eq_and, mem_linkedIds_iff]

theorem agreesOutside_of_resolved (h : Record.Resolved q.includes P r r') :
    r.AgreesOutside (q.Follows r) r' := by
  refine ⟨h.id_eq, h.createdTime_eq, h.lastEditedTime_eq, ?_, ?_⟩
  · intro name hname
    by_cases hincluded : name ∈ q.includes
    · have hrel := h.included name hincluded
      have hids : (r.get? name).bind PropertyValue.pageIds? = none := by
        by_contra hsome
        exact hname ⟨hincluded, Option.isSome_iff_ne_none.2 hsome⟩
      generalize r.get? name = v, r'.get? name = w at hrel hids
      cases hrel with
      | some hv => rw [hv.eq_of_pageIds? hids]
      | none => rfl
    · exact h.others name hincluded
  · intro name
    by_cases hincluded : name ∈ q.includes
    · have hrel := h.included name hincluded
      generalize r.get? name = v, r'.get? name = w at hrel
      cases hrel <;> rfl
    · rw [h.others name hincluded]

def sending (q : Query) (s : Session σ) : Session σ :=
  let log := s.log ++ q.compile.log
  { s with log := if q.debug then log ++ [executing q.compile.value] else log }

theorem run_executePage (q : Query) (service : Service σ) (s : Session σ) :
    (q.executePage service).run s =
      match (service.queryDatabase q.compile.value).run (q.sending s) with
      | (.error e, s') => (.error e, { s' with log := s'.log ++ [q.failed q.compile.value e] })
      | (.ok response, s') =>
        let records := decodeAll response.results
        let loaded := exec (q.loadAll service records.value) []
          { s' with log := s'.log ++ records.log }
        (loaded.1.1.map fun rs => ⟨rs, response.nextCursor, response.hasMore⟩, loaded.2) := by
  rw [executePage, sending]
  cases q.debug with
  | false | true =>
      simp only [Task.run_bind, Task.run_ofLogged, Task.run_emit, if_true, Bool.false_eq_true,
        if_false]
      generalize (service.queryDatabase q.compile.value).run _ = out
      obtain ⟨answer, s'⟩ := out
      cases answer <;> rfl

theorem executePage_ok {service : Service σ} {s s' : Session (σ × List Exchange)}
    {page : QueryPage} (h : (q.executePage service.transcribed).run s = (.ok page, s')) :
    ∃ response start loaded c',
      start.transcript = s.transcript ++ [.query q.compile.value (.ok response)] ∧
      exec (q.loadAll service.transcribed (decodeAll response.results).value) [] start =
        ((.ok loaded, c'), s') ∧
      page = ⟨loaded, response.nextCursor, response.hasMore⟩ := by
  rw [run_executePage, Service.run_transcribed_queryDatabase] at h
  generalize (service.queryDatabase q.compile.value).run (q.sending s).plain = out at h
  obtain ⟨answer, after⟩ := out
  cases answer with
  | error e => cases h
  | ok response =>
      obtain ⟨hpage, hs⟩ := Prod.mk.inj h
      generalize hl : exec _ [] _ = out at hpage hs
      obtain ⟨⟨result, c'⟩, s''⟩ := out
      cases result with
      | error e => cases hpage
      | ok loaded =>
          cases hpage
          cases hs
          exact ⟨response, _, loaded, c', rfl, hl, rfl⟩

/-- Let a run of a query against any service succeed. It has sent the compiled query, once and
first, and then asked only for pages that the results refer to, for none if nothing is included. If
retrievals take no time, it has asked for each of these pages, and for none twice. There is one
record for each result, in the same order. It is the decoded result but for the included properties
that refer to pages, and these hold the records of pages that were retrieved. What the answer says
about further results is kept. -/
theorem executePage_faithful (q : Query) (service : Service σ)
    (s s' : Session (σ × List Exchange)) (page : QueryPage)
    (h : (q.executePage service.transcribed).run s = (.ok page, s')) :
    ∃ (response : QueryResponse) (retrieved : List (String × Page)),
      s'.transcript = s.transcript ++ .query q.compile.value (.ok response) ::
        retrieved.map (fun e => .page e.1 (.ok e.2)) ∧
      (∀ e ∈ retrieved, ∃ p ∈ response.results, q.RefersTo (Record.decode p).value e.1) ∧
      (q.includes = [] → retrieved = []) ∧
      (service.Instant → (retrieved.map (·.1)).Nodup ∧ ∀ id, id ∈ retrieved.map (·.1) ↔
        ∃ p ∈ response.results, q.RefersTo (Record.decode p).value id) ∧
      List.Forall₂ (fun p r =>
        (Record.decode p).value.AgreesOutside (q.Follows (Record.decode p).value) r ∧
        (Record.decode p).value.Resolved q.includes (DecodedFrom retrieved) r)
        response.results page.records ∧
      page.nextCursor = response.nextCursor ∧ page.hasMore = response.hasMore := by
  obtain ⟨response, start, loaded, c', hstart, hload, rfl⟩ := executePage_ok h
  rw [decodeAll_value] at hload
  obtain ⟨related, retrieved, htook, hresolved⟩ := loadAll_took (RelationCache.holds_nil _) hload
  rw [List.nil_append, List.forall₂_map_left_iff] at hresolved
  have hlinked : ∀ e ∈ retrieved,
      ∃ p ∈ response.results, q.RefersTo (Record.decode p).value e.1 := by
    intro e he
    exact (q.mem_flatMap_linkedIds_iff _ _).1 (htook.linked e he)
  refine ⟨response, retrieved, ?_, hlinked, ?_, ?_, ?_, rfl, rfl⟩
  · rw [htook.transcript_eq, hstart, List.append_assoc]
    rfl
  · intro hincludes
    refine List.eq_nil_iff_forall_not_mem.2 fun e he => ?_
    obtain ⟨p, -, name, hname, -⟩ := hlinked e he
    rw [hincludes] at hname
    exact List.not_mem_nil hname
  · intro hinstant
    have hasks := (htook.asks hinstant).2
    refine ⟨hasks.nodup, fun id => ?_⟩
    rw [hasks.mem_iff, mem_flatMap_linkedIds_iff]
    exact and_iff_left (RelationCache.not_knows_nil start.now id)
  · exact hresolved.imp fun p r hr => ⟨agreesOutside_of_resolved hr, hr⟩

def staffQuery : Query := ((new "db" "Task").includeRelation "Lead").includeRelation "Staff"

def staffResponse : QueryResponse :=
  ⟨[⟨"t1", "", "", [("Lead", .object [("type", .string "url"), ("url", .string "p1")]),
      ("Staff", .object [("relation", .array [.object [("id", .string "p2")],
        .object [("id", .string "p1")]]), ("type", .string "relation")])]⟩,
    ⟨"t2", "", "", [("Due", .object [("type", .string "date")]),
      ("Lead", .object [("type", .string "url"), ("url", .string "p1")])]⟩], some "more", true⟩

def staffSession : Session (RecordedWorkspace × List Exchange) :=
  ⟨(⟨.ofTables [] [("p1", .ok ⟨"p1", "", "", []⟩), ("p2", .ok ⟨"p2", "", "", []⟩)]
    (.ok staffResponse), []⟩, []), 0, []⟩

theorem staffQuery_faithful : ∃ page s',
    (staffQuery.executePage RecordedWorkspace.service.transcribed).run staffSession =
      (.ok page, s') ∧ page.records.map (·.id) = ["t1", "t2"] ∧ page.nextCursor = some "more" ∧
    ∃ (response : QueryResponse) (retrieved : List (String × Page)),
      s'.transcript = .query staffQuery.compile.value (.ok response) ::
        retrieved.map (fun e => .page e.1 (.ok e.2)) ∧ (retrieved.map (·.1)).Nodup := by
  obtain ⟨response, retrieved, htranscript, -, -, hinstant, -⟩ :=
    executePage_faithful staffQuery RecordedWorkspace.service staffSession _ _ rfl
  obtain ⟨hnodup, -⟩ := hinstant RecordedWorkspace.service_instant
  exact ⟨_, _, rfl, rfl, rfl, response, retrieved, htranscript, hnodup⟩

end Query

end NotionSchema
