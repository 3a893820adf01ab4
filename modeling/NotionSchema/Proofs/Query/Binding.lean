import NotionSchema.Proofs.Schema.Acceptance
import NotionSchema.Proofs.Table
import NotionSchema.Query.Binding

namespace NotionSchema

def Schema.targetDatabase? (s : Schema) (f : Field) : Option String :=
  (f.relationTarget.bind s.model?).map (·.databaseId)

namespace Model

/-- What a table holds under a key if the fields put their values in one after the other: the value
of the last field of this key that has one. -/
def lastUnder? {α : Type} (m : Model) (key : Field → String) (value? : Field → Option α)
    (k : String) : Option α :=
  m.fields.reverse.findSome? fun f => if key f = k then value? f else none

def boundField? (m : Model) (name : String) : Option Field :=
  m.fields.reverse.find? (·.name == name)

theorem exists_boundField? {m : Model} {f : Field} (h : f ∈ m.fields) :
    ∃ g, m.boundField? f.name = some g := by
  rw [← Option.isSome_iff_exists, boundField?, List.find?_isSome]
  exact ⟨f, List.mem_reverse.2 h, beq_self_eq_true _⟩

theorem map_boundField? (m : Model) (name : String) : (m.boundField? name).map (·.remoteName) =
    m.lastUnder? (·.name) (fun f => some f.remoteName) name := by
  rw [boundField?, lastUnder?, List.find?_eq_findSome?_guard, List.map_findSome?]
  congr 1
  funext f
  by_cases h : f.name = name <;> simp [Option.guard, h]

end Model

namespace ModelBinding

variable {α : Type} {s : Schema}

theorem withTarget_eq (s : Schema) (b : ModelBinding) (f : Field) :
    (withTarget s b f).value = { b with
      relations := (s.targetDatabase? f).elim b.relations (b.relations.insert f.name) } := by
  rw [withTarget, Schema.targetDatabase?]
  cases f.relationTarget with
  | none => rfl
  | some target =>
      simp only [Option.bind_some]
      cases s.model? target <;> rfl

theorem get?_addFields {table : ModelBinding → Table α} {key : Field → String}
    {value? : Field → Option α}
    (hstep : ∀ b f, table (withTarget s (b.withField f) f).value =
      (value? f).elim (table b) ((table b).insert (key f)))
    (b : ModelBinding) (fields : List Field) (k : String) :
    (table (addFields s b fields).value).get? k =
      (fields.reverse.findSome? fun f => if key f = k then value? f else none).or
        ((table b).get? k) := by
  induction fields generalizing b with
  | nil => rfl
  | cons f fields ih =>
      rw [addFields, Logged.value_bind, ih, hstep, List.reverse_cons, List.findSome?_append,
        Option.or_assoc, List.findSome?_singleton]
      congr 1
      cases value? f with
      | none => simp
      | some v => exact Table.get?_insert (table b) (key f) k v

theorem get?_properties_addFields (s : Schema) (m : Model) (name : String) :
    (addFields s (.empty m) m.fields).value.properties.get? name =
      (m.boundField? name).map (·.remoteName) := by
  have hstep (b : ModelBinding) (f : Field) : (withTarget s (b.withField f) f).value.properties =
      (some f.remoteName).elim b.properties (b.properties.insert f.name) := by
    rw [withTarget_eq]
    rfl
  rw [m.map_boundField?]
  exact (get?_addFields hstep (.empty m) m.fields name).trans Option.or_none

theorem get?_propertyTypes_addFields (s : Schema) (m : Model) (remoteName : String) :
    (addFields s (.empty m) m.fields).value.propertyTypes.get? remoteName =
      m.lastUnder? (·.remoteName) (fun f => some f.propertyType) remoteName := by
  have hstep (b : ModelBinding) (f : Field) :
      (withTarget s (b.withField f) f).value.propertyTypes =
        (some f.propertyType).elim b.propertyTypes (b.propertyTypes.insert f.remoteName) := by
    rw [withTarget_eq]
    rfl
  exact (get?_addFields hstep (.empty m) m.fields remoteName).trans Option.or_none

theorem get?_relations_addFields (s : Schema) (m : Model) (name : String) :
    (addFields s (.empty m) m.fields).value.relations.get? name =
      m.lastUnder? (·.name) s.targetDatabase? name := by
  have hstep (b : ModelBinding) (f : Field) : (withTarget s (b.withField f) f).value.relations =
      (s.targetDatabase? f).elim b.relations (b.relations.insert f.name) := by
    rw [withTarget_eq]
    rfl
  exact (get?_addFields hstep (.empty m) m.fields name).trans Option.or_none

end ModelBinding

namespace Schema

variable {text : String} {s : Schema} {m : Model}

theorem nodup_names_of_parse (h : (parse text).value = .ok s) :
    (s.models.map (·.name)).Nodup := by
  obtain ⟨skipped, hs⟩ := exists_skipped_of_parse h
  obtain ⟨parts, hspells, -, hmodels, -⟩ := exists_spelling hs
  rw [hmodels, List.map_map]
  exact hspells.distinct

theorem model?_of_mem (hd : (s.models.map (·.name)).Nodup) (hm : m ∈ s.models) :
    s.model? m.name = some m := by
  obtain ⟨before, after, he⟩ := List.append_of_mem hm
  rw [he, List.map_append, List.nodup_append] at hd
  obtain ⟨-, -, hne⟩ := hd
  rw [model?, he, List.find?_eq_some_iff_append]
  refine ⟨beq_self_eq_true _, before, after, rfl, ?_⟩
  intro other hother
  have hname := hne other.name (List.mem_map_of_mem hother) m.name (by simp)
  simpa using hname

theorem binding_of_mem (hd : (s.models.map (·.name)).Nodup) (hm : m ∈ s.models) :
    (s.binding m.name).value = .ok (ModelBinding.addFields s (.empty m) m.fields).value := by
  rw [binding, model?_of_mem hd hm]
  rfl

end Schema

end NotionSchema
