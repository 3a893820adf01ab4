import NotionSchema.Proofs.Query.Binding
import NotionSchema.Proofs.Query.Execution
import NotionSchema.Proofs.Record.Decoding
import NotionSchema.Proofs.Validation.InMemory

namespace NotionSchema

namespace PropertyValue

/-- The ids that the value of a relation lists. -/
def relationIds (property : Json) : List String :=
  (elements ((property.get? "relation").getD .null)).filterMap reference?

theorem decode_relation {property : Json} (h : property.getString? "type" = some "relation") :
    (decode property).value = .references (relationIds property) := by
  rw [decode, h]
  rfl

end PropertyValue

namespace Page

variable (page : String → Except RemoteError Page)

/-- The page has the properties of the database, and those that are relations there hold a relation
to pages that can be retrieved. -/
structure Conforms (d : DatabaseDescriptor) (p : Page) : Prop where
  contains_eq : ∀ key, p.properties.contains key = d.properties.contains key
  relations : ∀ e ∈ d.properties, e.2.kind = "relation" → ∀ v, p.properties.get? e.1 = some v →
    v.getString? "type" = some "relation" ∧
      ∀ id ∈ PropertyValue.relationIds v, ∃ related, page id = .ok related

/-- The record holds under the key one record for each page that the page's relation lists. -/
def ResolvedAt (key : String) (p : Page) (r : Record) : Prop :=
  ∃ v rs, p.properties.get? key = some v ∧ r.get? key = some (.records rs) ∧
    List.Forall₂ (RecordOf page) (PropertyValue.relationIds v) rs

/-- The record still holds the ids of the relation. -/
def UnresolvedAt (key : String) (p : Page) (r : Record) : Prop :=
  ∃ v, p.properties.get? key = some v ∧
    r.get? key = some (.references (PropertyValue.relationIds v))

variable {page} {d : DatabaseDescriptor} {p : Page} {key : String} {property : RemoteProperty}
  {r : Record}

theorem Conforms.exists_relation (hp : p.Conforms page d) (hkey : (key, property) ∈ d.properties)
    (hkind : property.kind = "relation") : ∃ v, p.properties.get? key = some v ∧
      (Record.decode p).value.get? key = some (.references (PropertyValue.relationIds v)) ∧
      ∀ id ∈ PropertyValue.relationIds v, ∃ related, page id = .ok related := by
  have hcontains : p.properties.contains key = true := by
    rw [hp.contains_eq]
    exact Table.contains_of_mem hkey
  obtain ⟨v, hv⟩ := Option.isSome_iff_exists.1 hcontains
  obtain ⟨htype, hids⟩ := hp.relations _ hkey hkind v hv
  refine ⟨v, hv, ?_, hids⟩
  rw [Record.get?_decode, hv, Option.map_some, PropertyValue.decode_relation htype]

end Page

namespace Query

variable {page : String → Except RemoteError Page} {d : DatabaseDescriptor} {p : Page}
  {q : Query} {key : String} {property : RemoteProperty} {r : Record}

theorem reaches_of_absent (hq : q.includes = [key]) (hr : r.get? key = none) :
    q.Reaches page r := by
  intro id hid
  obtain ⟨⟨name, link⟩, hlink, -⟩ := List.mem_flatMap.1 hid
  obtain ⟨hname, hplan⟩ := (q.mem_links r q.includes).1 hlink
  rw [hq, List.mem_singleton] at hname
  rw [hname, hr] at hplan
  cases hplan

theorem reaches_of_references {ids : List String} (hq : q.includes = [key])
    (hr : r.get? key = some (.references ids)) (hids : ∀ id ∈ ids, ∃ p, page id = .ok p) :
    q.Reaches page r := by
  intro id hid
  obtain ⟨⟨name, link⟩, hlink, hmem⟩ := List.mem_flatMap.1 hid
  obtain ⟨hname, hplan⟩ := (q.mem_links r q.includes).1 hlink
  rw [hq, List.mem_singleton] at hname
  rw [hname, hr] at hplan
  cases hplan
  exact hids id hmem

theorem resolvedAt_of_resolved (hp : p.Conforms page d) (hkey : (key, property) ∈ d.properties)
    (hkind : property.kind = "relation") (hq : key ∈ q.includes)
    (hr : Record.Resolved q.includes (RecordOf page) (Record.decode p).value r) :
    p.ResolvedAt page key r := by
  obtain ⟨v, hv, hreferences, -⟩ := hp.exists_relation hkey hkind
  have hrel := hr.included key hq
  rw [hreferences] at hrel
  generalize hw : r.get? key = w at hrel
  cases hrel with
  | some hresolves =>
      cases hresolves with
      | many _ rs hrs => exact ⟨v, rs, hv, hw, hrs⟩
      | keep _ _ hne => exact absurd rfl (hne _)

theorem unresolvedAt_of_resolved (hp : p.Conforms page d) (hkey : (key, property) ∈ d.properties)
    (hkind : property.kind = "relation") (hq : key ∉ q.includes)
    (hr : Record.Resolved q.includes (RecordOf page) (Record.decode p).value r) :
    p.UnresolvedAt key r := by
  obtain ⟨v, hv, hreferences, -⟩ := hp.exists_relation hkey hkind
  refine ⟨v, hv, ?_⟩
  rw [hr.others key hq, hreferences]

end Query

theorem Field.Fits.exists_entry {d : DatabaseDescriptor} {f : Field} (h : f.Fits d) :
    ∃ key property, d.entry? f.remoteName = some (key, property) ∧
      (key, property) ∈ d.properties ∧ property.kind = f.propertyType.tag := by
  obtain ⟨property, hproperty, hkind⟩ := h
  obtain ⟨⟨key, property⟩, hentry, rfl⟩ := Option.map_eq_some_iff.1 hproperty
  exact ⟨key, property, hentry, List.mem_of_find?_eq_some hentry, hkind⟩

theorem ModelBinding.includes_includeRelation (s : Schema) {m : Model} {name : String} {g : Field}
    (hg : m.boundField? name = some g) :
    ((addFields s (.empty m) m.fields).value.query.includeRelation name).includes =
      [g.remoteName] := by
  have hname : (addFields s (.empty m) m.fields).value.query.remoteName name = g.remoteName := by
    change ((addFields s (.empty m) m.fields).value.properties.get? name).getD name = _
    rw [get?_properties_addFields, hg]
    rfl
  rw [Query.includeRelation, hname]
  rfl

namespace Schema

variable {text : String} {s : Schema} {m : Model} {f : Field}

/-- Let a parsed schema be valid for a workspace, and let a relation field of one of its models be
included in a query on the model, with results that conform to the database of the model. If the
name of the property that validation found is the remote name that the binding has for the field,
the query succeeds and each record holds the related records there. If the two names differ, even
only in case, no record that the query gives does: the ids are left as they are. Where no property
has the bound name exactly, this goes without any error. -/
theorem include_resolves_exact_name {start : Session RecordedWorkspace} {report : SyncReport}
    (hs : (parse text).value = .ok s)
    (hv : ((s.validate RecordedWorkspace.service).run start).1 = .ok report)
    (hm : m ∈ s.models) (hf : f ∈ m.fields) (hrel : f.propertyType = .relation) :
    ∃ d key property g b, start.peer.workspace.database m.databaseId = .ok d ∧
      d.entry? f.remoteName = some (key, property) ∧ m.boundField? f.name = some g ∧
      (s.binding m.name).value = .ok b ∧
      ∀ (later : Session RecordedWorkspace) (response : QueryResponse),
        let q := b.query.includeRelation f.name
        let page := later.peer.workspace.page
        let result := ((q.execute RecordedWorkspace.service).run later).1
        later.peer.workspace.answer q.compile.value = .ok response →
        (∀ p ∈ response.results, p.Conforms page d) →
        (key = g.remoteName → ∃ records, result = .ok records ∧
          List.Forall₂ (Page.ResolvedAt page key) response.results records) ∧
        (key ≠ g.remoteName → ∀ records, result = .ok records →
          List.Forall₂ (Page.UnresolvedAt key) response.results records) ∧
        (d.properties.contains g.remoteName = false → ∃ records, result = .ok records) := by
  obtain ⟨d, hd, hpasses⟩ := passes_of_validate hv m hm
  obtain ⟨key, property, hentry, hkey, hkind⟩ := (hpasses.fits f hf).exists_entry
  rw [hrel] at hkind
  obtain ⟨g, hg⟩ := Model.exists_boundField? hf
  refine ⟨d, key, property, g, _, hd, hentry, hg, binding_of_mem (nodup_names_of_parse hs) hm, ?_⟩
  intro later response q page result hanswer hconforms
  -- Nothing but this one name is looked up in the records.
  have hq : q.includes = [g.remoteName] := ModelBinding.includes_includeRelation s hg
  obtain ⟨ids, outcome, later', hrun, -, hresolved, hsucceeds⟩ := q.execute_resolved later hanswer
  have hresult : result = outcome := congrArg Prod.fst hrun
  rw [hresult]
  refine ⟨?_, ?_, ?_⟩
  · intro hname
    have hincluded : key ∈ q.includes := by simp [hq, hname]
    obtain ⟨records, hrecords⟩ := hsucceeds fun p hp => by
      obtain ⟨v, -, hreferences, hids⟩ := (hconforms p hp).exists_relation hkey hkind
      exact Query.reaches_of_references (by rw [hq, hname]) hreferences hids
    refine ⟨records, hrecords, ?_⟩
    refine ((List.forall₂_and_left _ _).2 ⟨hconforms, hresolved records hrecords⟩).imp ?_
    rintro p r ⟨hp, hr⟩
    exact Query.resolvedAt_of_resolved hp hkey hkind hincluded hr
  · intro hname records hrecords
    have hexcluded : key ∉ q.includes := by simp [hq, hname]
    refine ((List.forall₂_and_left _ _).2 ⟨hconforms, hresolved records hrecords⟩).imp ?_
    rintro p r ⟨hp, hr⟩
    exact Query.unresolvedAt_of_resolved hp hkey hkind hexcluded hr
  · intro habsent
    refine hsucceeds fun p hp => Query.reaches_of_absent hq ?_
    have hnone : p.properties.get? g.remoteName = none := by
      rw [← (hconforms p hp).contains_eq] at habsent
      simpa [Table.contains] using habsent
    rw [Record.get?_decode, hnone, Option.map_none]

def teamText : String :=
  "model Person @notionDatabase(\"db2\") \x7b\n  name String @title\n\x7d\n" ++
    "model Task @notionDatabase(\"db1\") \x7b\n  name String @title\n  owner Person[]\n" ++
    "  helper Person[] @map(\"Helper\")\n\x7d\n"

def ownerField : Field := ⟨"owner", "Person[]", false, []⟩

def helperField : Field := ⟨"helper", "Person[]", false, [⟨"map", some "Helper"⟩]⟩

def personModel : Model := ⟨"Person", "db2", [⟨"name", "String", false, [⟨"title", none⟩]⟩]⟩

def taskModel : Model :=
  ⟨"Task", "db1", [⟨"name", "String", false, [⟨"title", none⟩]⟩, ownerField, helperField]⟩

def teamSchema : Schema := ⟨[personModel, taskModel]⟩

def personDatabase : DatabaseDescriptor := ⟨"db2", [], [("Name", ⟨"", "", "title", []⟩)]⟩

def taskDatabase : DatabaseDescriptor :=
  ⟨"db1", [], [("Helper", ⟨"", "", "relation", []⟩), ("Name", ⟨"", "", "title", []⟩),
    ("Owner", ⟨"", "", "relation", []⟩)]⟩

def relationTo (id : String) : Json :=
  .object [("relation", .array [.object [("id", .string id)]]), ("type", .string "relation")]

def taskPage : Page :=
  ⟨"t1", "", "", [("Helper", relationTo "p1"), ("Name", .object [("type", .string "title")]),
    ("Owner", relationTo "p1")]⟩

def teamSession : Session RecordedWorkspace :=
  ⟨⟨.ofTables [("db1", .ok taskDatabase), ("db2", .ok personDatabase)]
    [("p1", .ok ⟨"p1", "", "", []⟩)] (.ok ⟨[taskPage], none, false⟩), []⟩, 0, []⟩

theorem teamText_parses : (parse teamText).value = .ok teamSchema := by decide +kernel

theorem teamSchema_valid : ∃ report,
    ((teamSchema.validate RecordedWorkspace.service).run teamSession).1 = .ok report :=
  ⟨⟨[⟨"Person", "db2", "", []⟩, ⟨"Task", "db1", "", []⟩]⟩, by decide +kernel⟩

theorem taskPage_conforms : taskPage.Conforms teamSession.peer.workspace.page taskDatabase := by
  refine ⟨?_, ?_⟩
  · intro key
    simp only [taskPage, taskDatabase, Table.contains, Table.get?_cons]
    split_ifs <;> rfl
  · intro e he hkind v hv
    have hids : ∀ id ∈ ["p1"], ∃ related, teamSession.peer.workspace.page id = .ok related := by
      simp only [List.mem_singleton, forall_eq]
      exact ⟨⟨"p1", "", "", []⟩, rfl⟩
    simp only [taskDatabase, List.mem_cons, List.not_mem_nil, or_false] at he
    rcases he with rfl | rfl | rfl
    · cases hv
      exact ⟨rfl, hids⟩
    · exact absurd hkind (by decide)
    · cases hv
      exact ⟨rfl, hids⟩

theorem helper_included : ∃ b records, (teamSchema.binding "Task").value = .ok b ∧
    (((b.query.includeRelation "helper").execute RecordedWorkspace.service).run teamSession).1 =
      .ok records ∧
    List.Forall₂ (Page.ResolvedAt teamSession.peer.workspace.page "Helper") [taskPage] records := by
  obtain ⟨report, hreport⟩ := teamSchema_valid
  obtain ⟨d, key, property, g, b, hd, hentry, hg, hb, h⟩ :=
    include_resolves_exact_name (m := taskModel) (f := helperField) teamText_parses hreport
      (by decide) (by decide) (by decide +kernel)
  have hd' : d = taskDatabase := by
    cases hd
    rfl
  have hg' : g = helperField := by
    have hbound : taskModel.boundField? "helper" = some helperField := by decide
    exact Option.some.inj (hg.symm.trans hbound)
  subst hd' hg'
  have hkey : (taskDatabase.entry? "Helper").map (·.1) = some "Helper" := by decide +kernel
  have hname : helperField.remoteName = "Helper" := by decide +kernel
  rw [hname] at hentry h
  rw [hentry] at hkey
  cases hkey
  have hconforms : ∀ p ∈ [taskPage], p.Conforms teamSession.peer.workspace.page taskDatabase := by
    simp only [List.mem_singleton, forall_eq]
    exact taskPage_conforms
  obtain ⟨records, hrecords, hresolved⟩ :=
    (h teamSession ⟨[taskPage], none, false⟩ rfl hconforms).1 rfl
  exact ⟨b, records, hb, hrecords, hresolved⟩

/-- The other relation is valid too and finds a property, in which the ids are left. -/
theorem owner_not_included :
    (parse teamText).value = .ok teamSchema ∧
    (∃ report,
      ((teamSchema.validate RecordedWorkspace.service).run teamSession).1 = .ok report) ∧
    taskModel ∈ teamSchema.models ∧ ownerField ∈ taskModel.fields ∧
    ownerField.propertyType = .relation ∧
    (taskDatabase.entry? ownerField.remoteName).map (·.1) = some "Owner" ∧
    taskPage.Conforms teamSession.peer.workspace.page taskDatabase ∧
    ∃ b r, (teamSchema.binding "Task").value = .ok b ∧
      (((b.query.includeRelation "owner").execute RecordedWorkspace.service).run teamSession).1 =
        .ok [r] ∧
      r.get? "Owner" = some (.references ["p1"]) := by
  refine ⟨teamText_parses, teamSchema_valid, by decide, by decide, by decide +kernel,
    by decide +kernel, taskPage_conforms, ?_⟩
  exact ⟨_, _, rfl, rfl, rfl⟩

end Schema

end NotionSchema
