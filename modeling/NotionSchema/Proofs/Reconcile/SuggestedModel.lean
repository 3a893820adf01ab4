import NotionSchema.Proofs.Reconcile.Declaration
import NotionSchema.Proofs.Remote.InMemory
import NotionSchema.Proofs.Validation.FirstFailure
import Mathlib.Data.List.Find

namespace NotionSchema

open Text

def Model.suggest (name databaseId : String) (d : DatabaseDescriptor) : Model :=
  ⟨name, databaseId, d.properties.map fun e => Field.suggest e.2⟩

namespace DatabaseDescriptor

/-- Each property stands under its own name, which is that of no other property up to case, and has
one of the known types. -/
structure Regular (d : DatabaseDescriptor) : Prop where
  key_eq_name : ∀ e ∈ d.properties, e.1 = e.2.name
  keys_distinct : (d.properties.keys.map lower).Nodup
  kind_known : ∀ e ∈ d.properties, ∃ t : PropertyType, e.2.kind = t.tag

def titleCount (d : DatabaseDescriptor) : Nat :=
  (d.properties.filter fun e => e.2.kind = "title").length

variable {d : DatabaseDescriptor} {e : String × RemoteProperty}

theorem find?_of_distinct {t : Table RemoteProperty} (h : (t.keys.map lower).Nodup) (he : e ∈ t) :
    t.find? (fun x => sameIgnoringCase x.1 e.1) = some e := by
  induction t with
  | nil => cases he
  | cons x t ih =>
      obtain ⟨hx, ht⟩ := List.nodup_cons.1 h
      rcases List.mem_cons.1 he with rfl | he
      · exact List.find?_cons_of_pos (beq_self_eq_true _)
      · have hne : lower x.1 ≠ lower e.1 := by
          intro heq
          exact hx (List.mem_map.2 ⟨e.1, List.mem_map.2 ⟨e, he, rfl⟩, heq.symm⟩)
        rw [List.find?_cons_of_neg (by simpa [sameIgnoringCase] using hne)]
        exact ih ht he

theorem Regular.property?_name (h : d.Regular) (he : e ∈ d.properties) :
    d.property? e.2.name = some e.2 := by
  rw [property?, entry?, ← h.key_eq_name e he, find?_of_distinct h.keys_distinct he]
  rfl

end DatabaseDescriptor

namespace Field

variable {p : RemoteProperty}

theorem attribute?_map_typeAttributes (tag : String) :
    (typeAttributes tag).find? (·.name == "map") = none := by
  rw [typeAttributes, DeclaredType.ofTag]
  cases PropertyType.ofTagIgnoringCase? tag with
  | none => rfl
  | some t => cases t <;> decide

theorem remoteName_suggest (p : RemoteProperty) : (suggest p).remoteName = p.name := by
  rw [remoteName, mappedName, attribute?, attributes_suggest, List.find?_append,
    attribute?_map_typeAttributes, Option.none_or]
  by_cases h : localName p.name = p.name
  · rw [if_pos h]
    exact h
  · rw [if_neg h]
    rfl

theorem ofAttributes?_append_map (attributes : List Attribute) (argument : Option String) :
    PropertyType.ofAttributes? (attributes ++ [⟨"map", argument⟩]) =
      PropertyType.ofAttributes? attributes := by
  have hmap : ∀ o ∈ PropertyType.overrides, ("map" == o.1) = false := by decide
  rw [PropertyType.ofAttributes?, PropertyType.ofAttributes?]
  refine congrArg (Option.map Prod.snd) (List.find?_congr ?_)
  intro o ho
  simp [hmap o ho]

theorem ofTag_tag (t : PropertyType) : DeclaredType.ofTag t.tag = t.declared := by
  cases t <;> decide +kernel

theorem propertyType_suggest {t : PropertyType} (h : p.kind = t.tag) :
    (suggest p).propertyType = t := by
  have hdeclared : PropertyType.resolve (suggest p).typeToken (typeAttributes p.kind) = pure t := by
    rw [suggest, typeAttributes, h, ofTag_tag]
    exact t.resolve_declared
  have hresolve : PropertyType.resolve (suggest p).typeToken (suggest p).attributes =
      PropertyType.resolve (suggest p).typeToken (typeAttributes p.kind) := by
    rw [attributes_suggest]
    split_ifs
    · rw [List.append_nil]
    · rw [PropertyType.resolve, ofAttributes?_append_map, PropertyType.resolve]
  rw [propertyType, hresolve, hdeclared]
  rfl

end Field

namespace Model

variable {d : DatabaseDescriptor} {name id : String}

theorem exists_of_mem_suggest {f : Field} (hf : f ∈ (suggest name id d).fields) :
    ∃ e ∈ d.properties, f = Field.suggest e.2 := by
  obtain ⟨e, he, rfl⟩ := List.mem_map.1 hf
  exact ⟨e, he, rfl⟩

theorem fits_of_mem_suggest (h : d.Regular) {f : Field} (hf : f ∈ (suggest name id d).fields) :
    f.Fits d := by
  obtain ⟨e, he, rfl⟩ := exists_of_mem_suggest hf
  obtain ⟨t, ht⟩ := h.kind_known e he
  refine ⟨e.2, ?_, ?_⟩
  · rw [Field.property?, Field.remoteName_suggest, h.property?_name he]
  · rw [Field.propertyType_suggest ht, ht]

theorem extra_suggest (h : d.Regular) : (ModelDiff.ofModel (suggest name id d) d).extra = [] := by
  refine List.filter_eq_nil_iff.2 ?_
  intro key hkey
  obtain ⟨e, he, rfl⟩ := List.mem_map.1 hkey
  have hbound : Field.suggest e.2 ∈ (suggest name id d).fields := List.mem_map.2 ⟨e, he, rfl⟩
  have hsame : sameIgnoringCase (Field.suggest e.2).remoteName e.1 = true := by
    rw [Field.remoteName_suggest, h.key_eq_name e he]
    exact beq_self_eq_true _
  simpa using ⟨_, hbound, hsame⟩

theorem ofModel_suggest (h : d.Regular) :
    ModelDiff.ofModel (suggest name id d) d = ⟨[], [], []⟩ := by
  have hfits (f : Field) (hf : f ∈ (suggest name id d).fields) : f.Fits d :=
    fits_of_mem_suggest h hf
  have hmissing : (suggest name id d).fields.filter (fun f => (f.property? d).isNone) = [] := by
    refine List.filter_eq_nil_iff.2 ?_
    intro f hf
    obtain ⟨p, hp, -⟩ := hfits f hf
    simp [hp]
  have hmismatches : (suggest name id d).fields.filterMap (·.mismatch? d) = [] :=
    List.filterMap_eq_nil_iff.2 fun f hf => f.mismatch?_of_fits d (hfits f hf)
  have hextra : (ModelDiff.ofModel (suggest name id d) d).extra = [] := extra_suggest h
  rw [ModelDiff.ofModel, hmissing, hmismatches]
  exact congrArg (ModelDiff.mk [] · []) hextra

theorem length_titleFields_suggest (h : d.Regular) :
    (suggest name id d).titleFields.length = d.titleCount := by
  rw [titleFields, suggest, List.filter_map, List.length_map, DatabaseDescriptor.titleCount]
  refine congrArg List.length (List.filter_congr ?_)
  intro e he
  obtain ⟨t, ht⟩ := h.kind_known e he
  rw [Function.comp_apply, Field.propertyType_suggest ht, ht]
  cases t <;> decide

end Model

variable {σ : Type}

theorem Schema.validate_singleton (service : Service σ) (m : Model) (start : Session σ) :
    ((Schema.validate service ⟨[m]⟩).run start).1 =
      ((m.validate service).run start).1.map fun report => ⟨[report]⟩ := by
  rw [validate, Task.run_bind, validateModels, Task.run_bind]
  cases ((m.validate service).run start).1 <;> rfl

/-- Let the properties of a database stand under their own names, no two of which are the same up to
case, and have known types. The model suggested for it has no differences from it. If the model
names the database by an id that is not blank, and whatever service retrieves it, validation
succeeds exactly if one property is a title, and otherwise only the number of titles is in the
way. -/
theorem suggested_model_agrees (d : DatabaseDescriptor) (h : d.Regular) (name id : String) :
    ModelDiff.ofModel (Model.suggest name id d) d = ⟨[], [], []⟩ ∧
    ((∃ c ∈ id.toList, isBlank c = false) →
      ∀ {σ : Type} (service : Service σ) (start : Session σ),
        ((service.retrieveDatabase id).run start).1 = .ok d →
        let outcome := ((Schema.validate service ⟨[Model.suggest name id d]⟩).run start).1
        ((∃ report, outcome = .ok report) ↔ d.titleCount = 1) ∧
        (d.titleCount = 1 → outcome = .ok ⟨[⟨name, id, d.titleText, []⟩]⟩) ∧
        (d.titleCount ≠ 1 → outcome = .error (.titleProperty name d.titleCount))) := by
  have hdiff : ModelDiff.ofModel (Model.suggest name id d) d = ⟨[], [], []⟩ :=
    Model.ofModel_suggest h
  have htitles : (Model.suggest name id d).titleFields.length = d.titleCount :=
    Model.length_titleFields_suggest h
  refine ⟨hdiff, ?_⟩
  intro hid σ service start hd outcome
  have hblank : isBlankText id = false := by simpa [isBlankText] using hid
  have houtcome : outcome = _ := Schema.validate_singleton service _ start
  have hone (hn : d.titleCount = 1) : outcome = .ok ⟨[⟨name, id, d.titleText, []⟩]⟩ := by
    have hready : (Model.suggest name id d).localError? = none :=
      Model.localError?_eq_none_iff.2 ⟨hid, htitles.trans hn⟩
    rw [houtcome, Model.validate_of_retrieved hready hd, Model.check, hdiff]
    rfl
  have hother (hn : d.titleCount ≠ 1) :
      outcome = .error (.titleProperty name d.titleCount) := by
    have hlocal : (Model.suggest name id d).localError? =
        some (.titleProperty name d.titleCount) := by
      rw [Model.localError?, htitles, if_pos hn]
      exact if_neg (by simp [Model.suggest, hblank])
    rw [houtcome, Model.validate_of_localError? hlocal]
    rfl
  refine ⟨⟨?_, fun hn => ⟨_, hone hn⟩⟩, hone, hother⟩
  rintro ⟨report, hreport⟩
  by_contra hn
  rw [hother hn] at hreport
  cases hreport

def errandDatabase : DatabaseDescriptor :=
  ⟨"db1", [⟨"Err"⟩, ⟨"ands"⟩],
    [("", ⟨"", "", "relation", []⟩), ("2024 Goals", ⟨"", "2024 Goals", "multi_select", []⟩),
      ("Due Date", ⟨"", "Due Date", "date", []⟩), ("Name", ⟨"", "Name", "title", []⟩),
      ("dueDate", ⟨"", "dueDate", "phone_number", []⟩)]⟩

theorem errandDatabase_agrees :
    errandDatabase.Regular ∧
    (Model.suggest "Errand" "db1" errandDatabase).fields.map (·.name) =
      ["_", "_2024Goals", "dueDate", "name", "dueDate"] ∧
    ModelDiff.ofModel (Model.suggest "Errand" "db1" errandDatabase) errandDatabase = ⟨[], [], []⟩ ∧
    ((Schema.validate RecordedWorkspace.service
        ⟨[Model.suggest "Errand" "db1" errandDatabase]⟩).run
      ⟨⟨.ofTables [("db1", .ok errandDatabase)] [] (.ok ⟨[], none, false⟩), []⟩, 0, []⟩).1 =
      .ok ⟨[⟨"Errand", "db1", "Errands", []⟩]⟩ := by
  have hregular : errandDatabase.Regular := by
    refine ⟨by decide, by decide +kernel, ?_⟩
    simp only [errandDatabase, List.forall_mem_cons, List.not_mem_nil, false_implies, implies_true,
      and_true]
    exact ⟨⟨.relation, rfl⟩, ⟨.multiSelect, rfl⟩, ⟨.date, rfl⟩, ⟨.title, rfl⟩, ⟨.phoneNumber, rfl⟩⟩
  obtain ⟨hdiff, hvalid⟩ := suggested_model_agrees errandDatabase hregular "Errand" "db1"
  refine ⟨hregular, by decide +kernel, hdiff, ?_⟩
  have hvisible : ∃ c ∈ "db1".toList, isBlank c = false := ⟨'d', by decide, by decide⟩
  exact (hvalid hvisible RecordedWorkspace.service _ rfl).2.1 (by decide)

end NotionSchema
