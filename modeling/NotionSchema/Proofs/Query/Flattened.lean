import NotionSchema.Proofs.Query.Faithful
import NotionSchema.Proofs.Query.Included
import NotionSchema.Proofs.Record.Flattening

namespace NotionSchema

open Loading

namespace Page

def systemFields (p : Page) : Table String :=
  [("id", p.id), ("createdTime", p.createdTime), ("lastEditedTime", p.lastEditedTime)]

/-- How the document of a record shows the page that the record is of. -/
structure LiesFlat (p : Page) (r : Record) : Prop where
  object : ∃ members : Table Json, members.Ordered ∧ r.toTree = .object members
  keys : ∀ key, (r.toTree.get? key).isSome ↔
    p.properties.contains key = true ∨ key ∈ p.systemFields.keys
  names : ∀ key, (r.get? key).isSome = p.properties.contains key
  property : ∀ key v, r.get? key = some v → r.toTree.get? key = some v.toTree
  system : ∀ key text, (key, text) ∈ p.systemFields →
    (r.toTree.get? key = some (.string text) ↔
      ∀ v, r.get? key = some v → v = .text text ∨ v = .date (some text))

/-- The document shows the page, and the records that lie inside of it show pages that were
retrieved. -/
structure LiesFlatWith (retrieved : List (String × Page)) (p : Page) (r : Record) : Prop where
  own : p.LiesFlat r
  one : ∀ key related, r.get? key = some (.record related) →
    r.toTree.get? key = some related.toTree ∧ ∃ e ∈ retrieved, e.2.LiesFlat related
  many : ∀ key related, r.get? key = some (.records related) →
    r.toTree.get? key = some (.array (related.map Record.toTree)) ∧
      ∀ r' ∈ related, ∃ e ∈ retrieved, e.2.LiesFlat r'

variable {p : Page} {r : Record}

theorem get?_systemFields {key text : String} (h : (key, text) ∈ p.systemFields) :
    p.systemFields.get? key = some text := by
  simp only [systemFields, List.mem_cons, Prod.mk.injEq, List.not_mem_nil, or_false] at h
  rcases h with ⟨rfl, rfl⟩ | ⟨rfl, rfl⟩ | ⟨rfl, rfl⟩ <;> rfl

theorem liesFlat (hr : Table.Ordered r.properties) (hsystem : r.systemFields = p.systemFields)
    (hnames : ∀ key, (r.get? key).isSome = p.properties.contains key) : p.LiesFlat r := by
  have hget := Record.get?_toTree hr
  rw [hsystem] at hget
  refine ⟨r.exists_toTree_eq, ?_, hnames, ?_, ?_⟩
  · intro key
    rw [hget, Option.isSome_or, Option.isSome_map, Option.isSome_map, hnames, Bool.or_eq_true]
    refine or_congr_right ?_
    rw [Table.get?, List.lookup_isSome_iff, Table.keys, List.mem_map]
    exact exists_congr fun e => and_congr_right fun _ => by rw [beq_iff_eq, eq_comm]
  · intro key v hv
    rw [hget, hv]
    rfl
  · intro key text hmem
    rw [hget, get?_systemFields hmem]
    cases hv : r.get? key with
    | none => simp
    | some v => simp [PropertyValue.toTree_eq_string_iff]

end Page

namespace Record

theorem ordered_decode {p : Page} (h : p.properties.Ordered) :
    Table.Ordered (decode p).value.properties := by
  change Table.Ordered (decodeProperties p.properties).value
  rw [decodeProperties_value]
  exact Table.ordered_mapValues h _

theorem liesFlat_decode {p : Page} (h : p.properties.Ordered) : p.LiesFlat (decode p).value := by
  refine Page.liesFlat (ordered_decode h) rfl fun key => ?_
  rw [get?_decode, Option.isSome_map]
  rfl

end Record

theorem exists_left_of_mem {α β : Type} {P : α → β → Prop} {as : List α} {bs : List β}
    (h : List.Forall₂ P as bs) : ∀ b ∈ bs, ∃ a, P a b := by
  induction h with
  | nil => simp
  | cons hab _ ih => exact List.forall_mem_cons.2 ⟨⟨_, hab⟩, ih⟩

namespace PropertyValue

def related : PropertyValue → List Record
  | .record r => [r]
  | .records rs => rs
  | _ => []

theorem related_of_ofPayload? {kind : String} {payload : Json} {v : PropertyValue}
    (h : ofPayload? kind payload = some v) : v.related = [] := by
  unfold ofPayload? at h
  split at h <;> cases h <;> rfl

theorem related_decode (property : Json) : (decode property).value.related = [] := by
  rw [decode]
  cases hv : ofPayload? ((property.getString? "type").getD "")
      ((property.get? ((property.getString? "type").getD "")).getD .null) with
  | some v => exact related_of_ofPayload? hv
  | none => rfl

theorem Resolves.exists_of_mem_related {P : String → Record → Prop} {v w : PropertyValue}
    (h : Resolves P v w) (hv : v.related = []) : ∀ r ∈ w.related, ∃ id, P id r := by
  cases h with
  | one id r _ hr =>
      intro r' hr'
      rw [List.mem_singleton.1 hr']
      exact ⟨id, hr⟩
  | many ids rs hrs => exact exists_left_of_mem hrs
  | keep =>
      rw [hv]
      simp

end PropertyValue

theorem Record.related_of_get?_decode {p : Page} {key : String} {v : PropertyValue}
    (h : (Record.decode p).value.get? key = some v) : v.related = [] := by
  rw [Record.get?_decode] at h
  obtain ⟨property, -, rfl⟩ := Option.map_eq_some_iff.1 h
  exact PropertyValue.related_decode property

namespace Query

variable {σ α : Type} {q : Query} {service : Service σ} {c c' : RelationCache}

theorem loadAll_writes {s s' : Session σ} {rs loaded : List Record}
    (h : exec (q.loadAll service rs) c s = ((.ok loaded, c'), s')) :
    List.Forall₂ (fun r r' => ∃ values, r' = write r values) rs loaded := by
  induction rs generalizing c s loaded with
  | nil =>
      cases h
      exact .nil
  | cons r rs ih =>
      rw [loadAll] at h
      obtain ⟨r', c₁, s₁, hfirst, h⟩ := exec_try h fun _ => rfl
      obtain ⟨loaded', c₂, s₂, hrest, h⟩ := exec_try h fun _ => rfl
      cases h
      obtain ⟨result, fetched, c₃, s₃, he, -, hv⟩ := q.loadRelations_ends service c s r
      rw [he] at hfirst
      cases hfirst
      cases hv with
      | ok _ _ hwrites =>
          obtain ⟨values, -, hr⟩ := hwrites
          exact .cons ⟨values, hr⟩ (ih hrest)

theorem execute_ok {s s' : Session σ} {records : List Record}
    (h : (q.execute service).run s = (.ok records, s')) :
    ∃ page, (q.executePage service).run s = (.ok page, s') ∧ page.records = records := by
  rw [execute, StateT.run_bind] at h
  generalize (q.executePage service).run s = out at h
  obtain ⟨result, after⟩ := out
  cases result with
  | error e => cases h
  | ok page =>
      cases h
      exact ⟨page, rfl, rfl⟩

def readRecord (read : Json → Option α) (r : Record) : Except RemoteError α :=
  match read r.toTree with
  | some a => .ok a
  | none => .error misfit

theorem mapM_readRecord_eq_ok_iff {read : Json → Option α} {records : List Record} {as : List α} :
    records.mapM (readRecord read) = .ok as ↔
      List.Forall₂ (fun r a => read r.toTree = some a) records as := by
  induction records generalizing as with
  | nil =>
      rw [List.mapM_nil, List.forall₂_nil_left_iff]
      exact ⟨fun h => (Except.ok.inj h).symm, fun h => congrArg Except.ok h.symm⟩
  | cons r records ih =>
      rw [List.mapM_cons, List.forall₂_cons_left_iff, readRecord]
      simp only [← ih]
      cases ha : read r.toTree with
      | none => simp [bind, Except.bind]
      | some a =>
          cases hrest : records.mapM (readRecord read) with
          | error e => simp [bind, Except.bind]
          | ok as' => simp [bind, Except.bind, pure, Except.pure, eq_comm]

theorem eq_misfit_of_mapM {read : Json → Option α} {records : List Record} {e : RemoteError}
    (h : records.mapM (readRecord read) = .error e) : e = misfit := by
  induction records with
  | nil => cases h
  | cons r records ih =>
      rw [List.mapM_cons, readRecord] at h
      cases ha : read r.toTree with
      | none =>
          rw [ha] at h
          cases h
          rfl
      | some a =>
          rw [ha] at h
          change (records.mapM (readRecord read)).bind _ = _ at h
          cases hrest : records.mapM (readRecord read) with
          | error e' =>
              rw [hrest] at h
              cases h
              exact ih hrest
          | ok as =>
              rw [hrest] at h
              cases h

theorem run_executeAs {s s' : Session σ} {records : List Record} (read : Json → Option α)
    (h : (q.execute service).run s = (.ok records, s')) :
    ∃ result, (q.executeAs service read).run s = (result, s') ∧
      (∀ as, result = .ok as ↔ List.Forall₂ (fun r a => read r.toTree = some a) records as) ∧
      ∀ e, result = .error e → e = misfit := by
  have hrun : (q.executeAs service read).run s = (records.mapM (readRecord read), s') := by
    rw [executeAs, StateT.run_bind, h]
    rfl
  exact ⟨_, hrun, fun as => mapM_readRecord_eq_ok_iff, fun e => eq_misfit_of_mapM⟩

theorem exists_of_mem_related {P : String → Record → Prop} {p : Page} {r : Record} {key : String}
    {v : PropertyValue} (hr : Record.Resolved q.includes P (Record.decode p).value r)
    (hv : r.get? key = some v) : ∀ r' ∈ v.related, ∃ id, P id r' := by
  by_cases hincluded : key ∈ q.includes
  · have hrel := hr.included key hincluded
    rw [hv] at hrel
    generalize hw : (Record.decode p).value.get? key = w at hrel
    cases hrel with
    | some hresolves => exact hresolves.exists_of_mem_related (Record.related_of_get?_decode hw)
  · rw [hr.others key hincluded] at hv
    rw [Record.related_of_get?_decode hv]
    simp

theorem liesFlatWith_of_resolved {retrieved : List (String × Page)} {p : Page} {r : Record}
    (hp : p.properties.Ordered) (hretrieved : ∀ e ∈ retrieved, e.2.properties.Ordered)
    (hwritten : ∃ values, r = write (Record.decode p).value values)
    (hr : Record.Resolved q.includes (DecodedFrom retrieved) (Record.decode p).value r) :
    p.LiesFlatWith retrieved r := by
  obtain ⟨values, hvalues⟩ := hwritten
  have hordered : Table.Ordered r.properties := by
    rw [hvalues]
    exact Table.ordered_foldl_insert values (Record.ordered_decode hp)
  have hagrees := agreesOutside_of_resolved hr
  have hsystem : r.systemFields = p.systemFields := by
    rw [Record.systemFields, hagrees.id_eq, hagrees.createdTime_eq, hagrees.lastEditedTime_eq]
    rfl
  have hown : p.LiesFlat r := by
    refine Page.liesFlat hordered hsystem fun key => ?_
    rw [hagrees.isSome_eq, Record.get?_decode, Option.isSome_map]
    rfl
  have hrelated : ∀ key v, r.get? key = some v → ∀ r' ∈ v.related,
      ∃ e ∈ retrieved, e.2.LiesFlat r' := by
    intro key v hv r' hr'
    obtain ⟨id, page, hpage, rfl⟩ := exists_of_mem_related hr hv r' hr'
    exact ⟨(id, page), hpage, Record.liesFlat_decode (hretrieved _ hpage)⟩
  refine ⟨hown, ?_, ?_⟩
  · intro key related hrecord
    have htree := hown.property key _ hrecord
    rw [PropertyValue.toTree_record] at htree
    exact ⟨htree, hrelated key _ hrecord related (List.mem_singleton_self related)⟩
  · intro key related hrecords
    have htree := hown.property key _ hrecords
    rw [PropertyValue.toTree_records] at htree
    exact ⟨htree, hrelated key _ hrecords⟩

/-- Let a query succeed against a service that answers with tables of properties, and let its
records be read into another form. What is read are their documents. Each of them shows its page:
every property under its name, and nothing else under any key. A system field is found under its
key exactly if no property of that name says something else, so always if there is none. The same
is true of the records of retrieved pages inside of a document. -/
theorem flattened_under_names (q : Query) (service : Service σ) (read : Json → Option α)
    (s s' : Session (σ × List Exchange)) (records : List Record)
    (h : (q.execute service.transcribed).run s = (.ok records, s')) :
    ∃ (response : QueryResponse) (retrieved : List (String × Page))
      (result : Except RemoteError (List α)),
      s'.transcript = s.transcript ++ .query q.compile.value (.ok response) ::
        retrieved.map (fun e => .page e.1 (.ok e.2)) ∧
      (q.executeAs service.transcribed read).run s = (result, s') ∧
      (∀ as, result = .ok as ↔ List.Forall₂ (fun r a => read r.toTree = some a) records as) ∧
      (∀ e, result = .error e → e = misfit) ∧
      ((∀ p ∈ response.results, p.properties.Ordered) →
        (∀ e ∈ retrieved, e.2.properties.Ordered) →
        List.Forall₂ (fun p r =>
          (Record.decode p).value.AgreesOutside (q.Follows (Record.decode p).value) r ∧
          p.LiesFlatWith retrieved r) response.results records) := by
  obtain ⟨result, hresult, hreads, hmisfit⟩ := run_executeAs read h
  obtain ⟨page, hpage, rfl⟩ := execute_ok h
  obtain ⟨response, start, loaded, c', hstart, hload, rfl⟩ := executePage_ok hpage
  rw [decodeAll_value] at hload
  have hwritten := loadAll_writes hload
  obtain ⟨related, retrieved, htook, hresolved⟩ := loadAll_took (RelationCache.holds_nil _) hload
  rw [List.nil_append, List.forall₂_map_left_iff] at hresolved
  rw [List.forall₂_map_left_iff] at hwritten
  refine ⟨response, retrieved, result, ?_, hresult, hreads, hmisfit, ?_⟩
  · rw [htook.transcript_eq, hstart, List.append_assoc]
    rfl
  · intro hpages hretrieved
    refine List.forall₂_iff_zip.2 ⟨hresolved.length_eq, fun hmem => ?_⟩
    have hr := List.forall₂_zip hresolved hmem
    have hp := hpages _ (List.of_mem_zip hmem).1
    exact ⟨agreesOutside_of_resolved hr,
      liesFlatWith_of_resolved hp hretrieved (List.forall₂_zip hwritten hmem) hr⟩

def ticketQuery : Query := (new "db" "Ticket").includeRelation "Parent"

def ticketPage : Page :=
  ⟨"p1", "2024-01-01", "2024-01-02",
    [("Parent", .object [("relation", .array [.object [("id", .string "p2")]]),
        ("type", .string "relation")]),
      ("id", .object [("rich_text", .array [.object [("plain_text", .string "T-7")]]),
        ("type", .string "rich_text")])]⟩

def parentPage : Page :=
  ⟨"p2", "2024-01-01", "2024-01-03",
    [("createdTime", .object [("date", .object [("start", .string "2024-01-01")]),
      ("type", .string "date")])]⟩

def ticketSession : Session (RecordedWorkspace × List Exchange) :=
  ⟨(⟨.ofTables [] [("p2", .ok parentPage)] (.ok ⟨[ticketPage], none, false⟩), []⟩, []), 0, []⟩

theorem ticketQuery_flattened : ∃ r s',
    (ticketQuery.execute RecordedWorkspace.service.transcribed).run ticketSession =
      (.ok [r], s') ∧
    ticketPage.LiesFlatWith [("p2", parentPage)] r ∧
    r.toTree.get? "createdTime" = some (.string "2024-01-01") := by
  obtain ⟨response, retrieved, result, htranscript, -, -, -, hflat⟩ :=
    flattened_under_names ticketQuery RecordedWorkspace.service (fun _ => some ()) ticketSession
      _ _ rfl
  change [Exchange.query ticketQuery.compile.value (.ok ⟨[ticketPage], none, false⟩),
    .page "p2" (.ok parentPage)] = .query _ _ :: _ at htranscript
  obtain ⟨hquery, hpages⟩ := List.cons_eq_cons.1 htranscript
  obtain ⟨-, hresponse⟩ := Exchange.query.inj hquery
  obtain rfl := Except.ok.inj hresponse
  have hretrieved : retrieved = [("p2", parentPage)] := by
    cases retrieved with
    | nil => cases hpages
    | cons e later =>
        obtain ⟨hpage, hlater⟩ := List.cons_eq_cons.1 hpages
        obtain ⟨hid, hparent⟩ := Exchange.page.inj hpage
        rw [List.map_eq_nil_iff.1 hlater.symm]
        exact congrArg (· :: []) (Prod.ext hid.symm (Except.ok.inj hparent).symm)
  subst hretrieved
  have hticket : ticketPage.properties.Ordered := by
    unfold Table.Ordered
    decide +kernel
  have hparent : parentPage.properties.Ordered := List.pairwise_singleton _ _
  cases hflat (by simpa using hticket) (by simpa using hparent) with
  | cons hr _ =>
      have hcreated : ("createdTime", "2024-01-01") ∈ ticketPage.systemFields := by
        simp [Page.systemFields, ticketPage]
      have hsystem := hr.2.own.system _ _ hcreated
      refine ⟨_, _, rfl, hr.2, hsystem.2 ?_⟩
      rintro v hv
      cases hv

theorem ticket_id_replaced :
    ((ticketQuery.executeAs RecordedWorkspace.service.transcribed (·.getString? "id")).run
      ticketSession).1 = .ok ["T-7"] ∧ ticketPage.id = "p1" := by
  decide +kernel

end Query

end NotionSchema
