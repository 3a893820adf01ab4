import NotionSchema.Proofs.Query.Binding

namespace NotionSchema

theorem findSome?_of_agree {α β : Type} {l : List α} {value? : α → Option β} {a : α} (ha : a ∈ l)
    (h : ∀ b ∈ l, value? b = none ∨ value? b = value? a) : l.findSome? value? = value? a := by
  cases hfound : l.findSome? value? with
  | none => exact (List.findSome?_eq_none_iff.1 hfound a ha).symm
  | some v =>
      obtain ⟨b, hb, hv⟩ := List.exists_of_findSome?_eq_some hfound
      rcases h b hb with hnone | heq
      · rw [hnone] at hv
        cases hv
      · rw [← heq, hv]

namespace Model

variable {α : Type} {m : Model} {key : Field → String} {value? : Field → Option α} {f : Field}
  {before after : List Field}

theorem lastUnder?_of_agree (hf : f ∈ m.fields)
    (h : ∀ g ∈ m.fields, key f = key g → value? f = value? g) :
    m.lastUnder? key value? (key f) = value? f := by
  rw [lastUnder?, findSome?_of_agree (List.mem_reverse.2 hf), if_pos rfl]
  intro g hg
  by_cases hkey : key f = key g
  · rw [if_pos hkey.symm, if_pos rfl]
    exact .inr (h g (List.mem_reverse.1 hg) hkey).symm
  · exact .inl (if_neg (Ne.symm hkey))

theorem lastUnder?_of_split (hm : m.fields = before ++ f :: after)
    (h : ∀ g ∈ after, key g ≠ key f) : m.lastUnder? key value? (key f) = (value? f).or
      (before.reverse.findSome? fun g => if key g = key f then value? g else none) := by
  have hafter : (after.reverse.findSome? fun g => if key g = key f then value? g else none) =
      none := List.findSome?_eq_none_iff.2 fun g hg => if_neg (h g (List.mem_reverse.1 hg))
  rw [lastUnder?, hm, List.reverse_append, List.reverse_cons, List.append_assoc,
    List.findSome?_append, hafter, Option.none_or, List.findSome?_append, List.findSome?_singleton,
    if_pos rfl]

end Model

/-- The fields do not want different things under one local or remote name. -/
def Schema.Compatible (s : Schema) (f g : Field) : Prop :=
  (f.name = g.name → f.remoteName = g.remoteName ∧ s.targetDatabase? f = s.targetDatabase? g) ∧
    (f.remoteName = g.remoteName → f.propertyType = g.propertyType)

instance (s : Schema) (f g : Field) : Decidable (s.Compatible f g) :=
  inferInstanceAs (Decidable (_ ∧ _))

namespace ModelBinding

/-- The tables say of the field what its declaration says. -/
structure Describes (s : Schema) (b : ModelBinding) (f : Field) : Prop where
  property : b.properties.get? f.name = some f.remoteName
  propertyType : b.propertyTypes.get? f.remoteName = some f.propertyType
  relation : b.relations.get? f.name = s.targetDatabase? f

/-- Every table has the last entries that the fields of the model give. -/
structure IsOf (s : Schema) (m : Model) (b : ModelBinding) : Prop where
  model_eq : b.model = m.name
  databaseId_eq : b.databaseId = m.databaseId
  properties : ∀ name, b.properties.get? name =
    m.lastUnder? (·.name) (fun f => some f.remoteName) name
  propertyTypes : ∀ remoteName, b.propertyTypes.get? remoteName =
    m.lastUnder? (·.remoteName) (fun f => some f.propertyType) remoteName
  relations : ∀ name, b.relations.get? name = m.lastUnder? (·.name) s.targetDatabase? name

variable {s : Schema} {m : Model} {b : ModelBinding} {f g : Field} {before after : List Field}

theorem names_addFields (s : Schema) (b : ModelBinding) (fields : List Field) :
    (addFields s b fields).value.model = b.model ∧
      (addFields s b fields).value.databaseId = b.databaseId := by
  induction fields generalizing b with
  | nil => exact ⟨rfl, rfl⟩
  | cons f fields ih =>
      rw [addFields, Logged.value_bind, (ih _).1, (ih _).2, withTarget_eq]
      exact ⟨rfl, rfl⟩

theorem isOf_addFields (s : Schema) (m : Model) :
    IsOf s m (addFields s (.empty m) m.fields).value where
  model_eq := (names_addFields s (.empty m) m.fields).1
  databaseId_eq := (names_addFields s (.empty m) m.fields).2
  properties name := (get?_properties_addFields s m name).trans (m.map_boundField? name)
  propertyTypes := get?_propertyTypes_addFields s m
  relations := get?_relations_addFields s m

theorem IsOf.describes_of_compatible (hb : b.IsOf s m) (hf : f ∈ m.fields)
    (h : ∀ g ∈ m.fields, s.Compatible f g) : b.Describes s f where
  property := (hb.properties f.name).trans <| Model.lastUnder?_of_agree hf fun g hg hname =>
    congrArg some ((h g hg).1 hname).1
  propertyType := (hb.propertyTypes f.remoteName).trans <|
    Model.lastUnder?_of_agree hf fun g hg hname => congrArg some ((h g hg).2 hname)
  relation := (hb.relations f.name).trans <| Model.lastUnder?_of_agree hf fun g hg hname =>
    ((h g hg).1 hname).2

theorem Describes.compatible (hf : b.Describes s f) (hg : b.Describes s g) : s.Compatible f g := by
  refine ⟨fun hname => ⟨?_, ?_⟩, fun hremote => ?_⟩
  · exact Option.some.inj (by rw [← hf.property, hname, hg.property])
  · rw [← hf.relation, hname, hg.relation]
  · exact Option.some.inj (by rw [← hf.propertyType, hremote, hg.propertyType])

theorem IsOf.describes_all_iff (hb : b.IsOf s m) : (∀ f ∈ m.fields, b.Describes s f) ↔
    ∀ f ∈ m.fields, ∀ g ∈ m.fields, s.Compatible f g := by
  constructor
  · intro h f hf g hg
    exact (h f hf).compatible (h g hg)
  · intro h f hf
    exact hb.describes_of_compatible hf (h f hf)

section Latest

variable (hb : b.IsOf s m) (hm : m.fields = before ++ f :: after)

include hb hm

theorem IsOf.property_of_latest (hname : ∀ g ∈ after, g.name ≠ f.name) :
    b.properties.get? f.name = some f.remoteName :=
  (hb.properties f.name).trans (Model.lastUnder?_of_split hm hname)

theorem IsOf.propertyType_of_latest (hname : ∀ g ∈ after, g.remoteName ≠ f.remoteName) :
    b.propertyTypes.get? f.remoteName = some f.propertyType :=
  (hb.propertyTypes f.remoteName).trans (Model.lastUnder?_of_split hm hname)

/-- Without a database of its own a field has the one that an earlier field put in. -/
theorem IsOf.relation_of_latest_iff (hname : ∀ g ∈ after, g.name ≠ f.name) :
    b.relations.get? f.name = s.targetDatabase? f ↔ (s.targetDatabase? f).isSome ∨
      ∀ g ∈ before, g.name = f.name → s.targetDatabase? g = none := by
  rw [hb.relations, Model.lastUnder?_of_split hm hname]
  cases s.targetDatabase? f <;> simp

theorem IsOf.describes_latest_iff
    (hnames : ∀ g ∈ after, g.name ≠ f.name ∧ g.remoteName ≠ f.remoteName) :
    b.Describes s f ↔ (s.targetDatabase? f).isSome ∨
      ∀ g ∈ before, g.name = f.name → s.targetDatabase? g = none := by
  rw [← hb.relation_of_latest_iff hm fun g hg => (hnames g hg).1]
  constructor
  · exact Describes.relation
  · exact fun hrelation => ⟨hb.property_of_latest hm fun g hg => (hnames g hg).1,
      hb.propertyType_of_latest hm fun g hg => (hnames g hg).2, hrelation⟩

end Latest

end ModelBinding

namespace Schema

/-- Every model of an accepted text has a binding, with the last entries that its fields give. The
binding describes all fields exactly if every two of them are compatible. Of a field whose names no
later field uses it has the remote name and the type, and describes it exactly if the field has a
database to point at, or no earlier field of its name has one. -/
theorem binding_describes_iff (text : String) (s : Schema) (hs : (parse text).value = .ok s)
    (m : Model) (hm : m ∈ s.models) :
    ∃ b, (s.binding m.name).value = .ok b ∧ b.IsOf s m ∧
      ((∀ f ∈ m.fields, b.Describes s f) ↔
        ∀ f ∈ m.fields, ∀ g ∈ m.fields, s.Compatible f g) ∧
      (∀ f ∈ m.fields, (∀ g ∈ m.fields, s.Compatible f g) → b.Describes s f) ∧
      ∀ before f after, m.fields = before ++ f :: after →
        (∀ g ∈ after, g.name ≠ f.name ∧ g.remoteName ≠ f.remoteName) →
        b.properties.get? f.name = some f.remoteName ∧
        b.propertyTypes.get? f.remoteName = some f.propertyType ∧
        (b.Describes s f ↔ (s.targetDatabase? f).isSome ∨
          ∀ g ∈ before, g.name = f.name → s.targetDatabase? g = none) := by
  have hb := ModelBinding.isOf_addFields s m
  refine ⟨_, binding_of_mem (nodup_names_of_parse hs) hm, hb, hb.describes_all_iff,
    fun f hf h => hb.describes_of_compatible hf h, ?_⟩
  intro before f after hsplit hnames
  exact ⟨hb.property_of_latest hsplit fun g hg => (hnames g hg).1,
    hb.propertyType_of_latest hsplit fun g hg => (hnames g hg).2,
    hb.describes_latest_iff hsplit hnames⟩

def boardText : String :=
  "model Task @notionDatabase(\"db1\") \x7b\n  name String @title\n" ++
    "  project String @relation(\"Project\") @map(\"Projekt\")\n  owners Person[]\n\x7d\n" ++
    "model Project @notionDatabase(\"db2\") \x7b\n\x7d\n"

def projectField : Field :=
  ⟨"project", "String", false, [⟨"relation", some "Project"⟩, ⟨"map", some "Projekt"⟩]⟩

def ownersField : Field := ⟨"owners", "Person[]", false, []⟩

def boardModel : Model :=
  ⟨"Task", "db1", [⟨"name", "String", false, [⟨"title", none⟩]⟩, projectField, ownersField]⟩

def boardSchema : Schema := ⟨[boardModel, ⟨"Project", "db2", []⟩]⟩

theorem boardModel_described : ∃ b, (boardSchema.binding "Task").value = .ok b ∧
    (∀ f ∈ boardModel.fields, b.Describes boardSchema f) ∧
    b.relations.get? "project" = some "db2" ∧ b.relations.get? "owners" = none := by
  have hparse : (parse boardText).value = .ok boardSchema := by decide +kernel
  have hcompatible : ∀ f ∈ boardModel.fields, ∀ g ∈ boardModel.fields,
      boardSchema.Compatible f g := by decide +kernel
  have hproject : boardSchema.targetDatabase? projectField = some "db2" := by decide +kernel
  have howners : boardSchema.targetDatabase? ownersField = none := by decide +kernel
  obtain ⟨b, hb, -, hall, -⟩ :=
    binding_describes_iff boardText boardSchema hparse boardModel (by decide)
  have hdescribed := hall.2 hcompatible
  refine ⟨b, hb, hdescribed, ?_, ?_⟩
  · exact (hdescribed projectField (by decide)).relation.trans hproject
  · exact (hdescribed ownersField (by decide)).relation.trans howners

def replacedOwnerText : String :=
  "model Person @notionDatabase(\"db2\") \x7b\n  name String @title\n\x7d\n" ++
    "model Task @notionDatabase(\"db1\") \x7b\n  name String @title\n" ++
    "  owner Person[] @map(\"Owner A\")\n  owner Ghost[] @map(\"Owner B\")\n\x7d\n"

def ghostField : Field := ⟨"owner", "Ghost[]", false, [⟨"map", some "Owner B"⟩]⟩

def replacedOwnerModel : Model :=
  ⟨"Task", "db1",
    [⟨"name", "String", false, [⟨"title", none⟩]⟩,
      ⟨"owner", "Person[]", false, [⟨"map", some "Owner A"⟩]⟩, ghostField]⟩

def replacedOwnerSchema : Schema :=
  ⟨[⟨"Person", "db2", [⟨"name", "String", false, [⟨"title", none⟩]⟩]⟩, replacedOwnerModel]⟩

/-- The later field stands in the other tables, and the log says that its target is not declared. -/
theorem ghostField_has_database : (parse replacedOwnerText).value = .ok replacedOwnerSchema ∧
    replacedOwnerModel ∈ replacedOwnerSchema.models ∧ ghostField ∈ replacedOwnerModel.fields ∧
    ghostField.relationTarget = some "Ghost" ∧ replacedOwnerSchema.model? "Ghost" = none ∧
    (replacedOwnerSchema.binding "Task").log =
      [ModelBinding.undeclaredTarget "Task" "owner" "Ghost"] ∧
    ∃ b, (replacedOwnerSchema.binding "Task").value = .ok b ∧
      b.properties.get? "owner" = some "Owner B" ∧
      b.propertyTypes.get? "Owner B" = some .relation ∧
      b.relations.get? "owner" = some "db2" := by
  refine ⟨by decide +kernel, by decide, by decide, by decide +kernel, by decide +kernel,
    by decide +kernel, ?_⟩
  exact ⟨⟨"Task", "db1", [("name", "name"), ("owner", "Owner B")], [("owner", "db2")],
    [("Owner A", .relation), ("Owner B", .relation), ("name", .title)]⟩, by decide +kernel,
    by decide +kernel, by decide +kernel, by decide +kernel⟩

end Schema

end NotionSchema
