import NotionSchema.Proofs.Remote.Rereading
import NotionSchema.Proofs.Validation.FirstFailure

namespace NotionSchema

open Text

namespace DatabaseDescriptor

variable {d : DatabaseDescriptor} {name other key : String} {e : String × RemoteProperty}

theorem lower_eq_of_entry? (h : d.entry? name = some e) : lower e.1 = lower name := by
  simpa [sameIgnoringCase] using List.find?_some h

theorem entry?_congr (h : lower name = lower other) : d.entry? name = d.entry? other := by
  simp only [sameIgnoringCase, entry?, h]

theorem exists_entry? (hkey : key ∈ d.properties.keys) (h : lower key = lower name) :
    ∃ e, d.entry? name = some e := by
  obtain ⟨e, he, rfl⟩ := List.mem_map.1 hkey
  refine Option.isSome_iff_exists.1 (List.find?_isSome.2 ⟨e, he, ?_⟩)
  simpa [sameIgnoringCase] using h

end DatabaseDescriptor

namespace Field

variable (f : Field) (d : DatabaseDescriptor)

/-- The search for the property of the field ends at the key. -/
def BindsTo (key : String) : Prop := ∃ p, d.entry? f.remoteName = some (key, p)

variable {f d} {key : String}

theorem BindsTo.lower_eq (h : f.BindsTo d key) : lower key = lower f.remoteName := by
  obtain ⟨p, hp⟩ := h
  have hkey := DatabaseDescriptor.lower_eq_of_entry? hp
  exact hkey

theorem BindsTo.unique {g : Field} {other : String} (h : f.BindsTo d key) (hg : g.BindsTo d other)
    (hsame : lower key = lower other) : key = other := by
  obtain ⟨p, hp⟩ := h
  obtain ⟨p', hp'⟩ := hg
  have hnames : lower f.remoteName = lower g.remoteName := by
    rw [← DatabaseDescriptor.lower_eq_of_entry? hp, ← DatabaseDescriptor.lower_eq_of_entry? hp']
    exact hsame
  rw [DatabaseDescriptor.entry?_congr hnames, hp'] at hp
  cases hp
  rfl

theorem exists_bindsTo_iff (hkey : key ∈ d.properties.keys) (f : Field) :
    (∃ bound, f.BindsTo d bound ∧ lower bound = lower key) ↔ lower f.remoteName = lower key := by
  constructor
  · rintro ⟨bound, hbound, hsame⟩
    exact hbound.lower_eq.symm.trans hsame
  · intro hname
    obtain ⟨⟨bound, p⟩, he⟩ := DatabaseDescriptor.exists_entry? hkey hname.symm
    have hbound : f.BindsTo d bound := ⟨p, he⟩
    exact ⟨bound, hbound, hbound.lower_eq.trans hname⟩

end Field

namespace ModelDiff

variable {m : Model} {d : DatabaseDescriptor} {key : String}

theorem mem_extra_iff : key ∈ (ofModel m d).extra ↔
    key ∈ d.properties.keys ∧ ∀ f ∈ m.fields, lower f.remoteName ≠ lower key := by
  rw [Model.extra_eq_undeclared, Model.undeclared, List.mem_filter, decide_eq_true_iff]

theorem mem_extra_iff_bindsTo : key ∈ (ofModel m d).extra ↔ key ∈ d.properties.keys ∧
    ∀ f ∈ m.fields, ∀ bound, f.BindsTo d bound → lower bound ≠ lower key := by
  rw [mem_extra_iff]
  refine and_congr_right fun hkey => forall₂_congr fun f _ => ?_
  rw [Ne, ← Field.exists_bindsTo_iff hkey f, not_exists]
  exact forall_congr' fun bound => not_and

/-- Let the properties of a database be a table. No key is listed as extra twice, and a key is
listed iff no field binds to it or to another key that is the same up to case. So a key that no
field binds to can be left out, and precisely if a field binds to such another key. -/
theorem extra_lists_unbound_iff (m : Model) (d : DatabaseDescriptor)
    (h : d.properties.Ordered) :
    (ofModel m d).extra.Nodup ∧
    (∀ key, key ∈ (ofModel m d).extra ↔ key ∈ d.properties.keys ∧
      ∀ f ∈ m.fields, ∀ bound, f.BindsTo d bound → lower bound ≠ lower key) ∧
    ∀ key ∈ d.properties.keys,
      (key ∈ (ofModel m d).extra ↔ ∀ f ∈ m.fields, ¬ f.BindsTo d key) ↔
        ∀ f ∈ m.fields, ∀ bound, f.BindsTo d bound → lower bound = lower key → bound = key := by
  refine ⟨(Table.nodup_keys h).filter _, fun key => mem_extra_iff_bindsTo, ?_⟩
  intro key hkey
  rw [mem_extra_iff_bindsTo, and_iff_right hkey]
  constructor
  · intro hagree f hf bound hbound hsame
    -- The key is not listed, so some field binds to it, and that is where this one ends too.
    by_contra hne
    refine hagree.2 ?_ f hf bound hbound hsame
    intro g _ hg
    exact hne (hbound.unique hg hsame)
  · intro hsole
    constructor
    · intro hunlike f hf hbinds
      exact hunlike f hf key hbinds rfl
    · intro hunbound f hf bound hbound hsame
      obtain rfl := hsole f hf bound hbound hsame
      exact hunbound f hf hbound

def propertyJson (name kind : String) : Json :=
  .object [("name", .string name), ("type", .string kind)]

def cardJson : Json :=
  .object [("id", .string "db1"), ("properties", .object [("Name", propertyJson "Name" "title"),
    ("Notes", propertyJson "Notes" "rich_text"), ("name", propertyJson "name" "rich_text")])]

def cardDatabase : DatabaseDescriptor :=
  ⟨"db1", [], [("Name", ⟨"", "Name", "title", []⟩), ("Notes", ⟨"", "Notes", "rich_text", []⟩),
    ("name", ⟨"", "name", "rich_text", []⟩)]⟩

def cardModel : Model := ⟨"Card", "db1", [⟨"name", "String", false, [⟨"title", none⟩]⟩]⟩

theorem cardJson_read : DatabaseDescriptor.ofJson? cardJson = some cardDatabase := rfl

theorem cardModel_bindsTo {bound : String} {f : Field} (hf : f ∈ cardModel.fields)
    (h : f.BindsTo cardDatabase bound) : bound = "Name" := by
  obtain ⟨p, hp⟩ := h
  have hentry : ∀ f ∈ cardModel.fields,
      (cardDatabase.entry? f.remoteName).map (·.1) = some "Name" := by decide +kernel
  have hfirst := hentry f hf
  rw [hp] at hfirst
  exact Option.some.inj hfirst

theorem notes_extra :
    cardDatabase.properties.Ordered ∧ (ofModel cardModel cardDatabase).extra.Nodup ∧
    "Notes" ∈ (ofModel cardModel cardDatabase).extra := by
  have hordered : cardDatabase.properties.Ordered :=
    DatabaseDescriptor.ordered_of_ofJson? cardJson_read
  obtain ⟨hnodup, hmem, -⟩ := extra_lists_unbound_iff cardModel cardDatabase hordered
  refine ⟨hordered, hnodup, (hmem "Notes").2 ⟨by decide, ?_⟩⟩
  intro f hf bound hbound
  rw [cardModel_bindsTo hf hbound]
  decide +kernel

/-- No field binds to the second of the two keys, and yet it is not listed. -/
theorem second_name_not_extra :
    DatabaseDescriptor.ofJson? cardJson = some cardDatabase ∧
    "name" ∈ cardDatabase.properties.keys ∧
    (∀ f ∈ cardModel.fields, ¬ f.BindsTo cardDatabase "name") ∧
    "name" ∉ (ofModel cardModel cardDatabase).extra := by
  refine ⟨cardJson_read, by decide, ?_, by decide +kernel⟩
  intro f hf hbinds
  exact absurd (cardModel_bindsTo hf hbinds) (by decide)

end ModelDiff

namespace Field

variable (f : Field) (d : DatabaseDescriptor)

/-- No key of the database is the name of the field up to case. -/
def Absent : Prop := ∀ key ∈ d.properties.keys, lower key ≠ lower f.remoteName

instance : Decidable (f.Absent d) :=
  inferInstanceAs (Decidable (∀ key ∈ d.properties.keys, lower key ≠ lower f.remoteName))

/-- The property is the first, in key order, whose key is the name of the field up to case. -/
def Finds (p : RemoteProperty) : Prop := ∃ front key back,
  d.properties = front ++ (key, p) :: back ∧ lower key = lower f.remoteName ∧
    ∀ e ∈ front, lower e.1 ≠ lower f.remoteName

inductive Reported : TypeMismatch → Prop
  | absent (h : f.Absent d) : Reported ⟨f.name, f.propertyType.tag, "not found"⟩
  | mistyped (p : RemoteProperty) (h : f.Finds d p) (hp : p.kind ≠ f.propertyType.tag) :
      Reported ⟨f.name, f.propertyType.tag, p.kind⟩

variable {f d} {p : RemoteProperty}

theorem property?_eq_none_iff : f.property? d = none ↔ f.Absent d := by
  rw [property?, DatabaseDescriptor.property?, Option.map_eq_none_iff, DatabaseDescriptor.entry?,
    List.find?_eq_none, Absent, Table.keys, List.forall_mem_map]
  simp [sameIgnoringCase]

theorem property?_eq_some_iff : f.property? d = some p ↔ f.Finds d p := by
  simp only [property?, DatabaseDescriptor.property?, DatabaseDescriptor.entry?,
    Option.map_eq_some_iff, List.find?_eq_some_iff_append, Finds, Prod.exists, sameIgnoringCase]
  constructor
  · rintro ⟨key, _, ⟨hkey, front, back, hsplit, hfront⟩, rfl⟩
    exact ⟨front, key, back, hsplit, by simpa using hkey, by simpa using hfront⟩
  · rintro ⟨front, key, back, hsplit, hkey, hfront⟩
    exact ⟨key, p, ⟨by simpa using hkey, front, back, hsplit, by simpa using hfront⟩, rfl⟩

theorem fits_iff : f.Fits d ↔ ∃ p, f.Finds d p ∧ p.kind = f.propertyType.tag :=
  exists_congr fun _ => and_congr_left fun _ => property?_eq_some_iff

theorem reported_misfit (h : ¬ f.Fits d) : f.Reported d (f.misfit d) := by
  rw [misfit]
  cases hp : f.property? d with
  | none => exact .absent (property?_eq_none_iff.1 hp)
  | some p => exact .mistyped p (property?_eq_some_iff.1 hp) fun hkind => h ⟨p, hp, hkind⟩

end Field

namespace DatabaseDescriptor

def withProperty (d : DatabaseDescriptor) (key : String) (p : RemoteProperty) :
    DatabaseDescriptor := { d with properties := d.properties.insert key p }

variable {d : DatabaseDescriptor} {name key : String} {p : RemoteProperty}

theorem property?_withProperty (hnew : key ∉ d.properties.keys) (hne : lower key ≠ lower name) :
    (d.withProperty key p).property? name = d.property? name := by
  obtain ⟨front, back, hsplit, hinsert⟩ := Table.exists_insert_eq hnew p
  have hpass : sameIgnoringCase key name = false := beq_false_of_ne hne
  rw [property?, property?, entry?, entry?, withProperty, hinsert, hsplit, List.find?_append,
    List.find?_append, List.find?_cons_of_neg (by simp [hpass])]

end DatabaseDescriptor

namespace ModelDiff

variable {m : Model} {d : DatabaseDescriptor} {key : String} {p : RemoteProperty}

theorem mismatches_eq (m : Model) (d : DatabaseDescriptor) :
    (ofModel m d).mismatches = (m.fields.filter (¬ ·.Fits d)).map (·.misfit d) :=
  Field.filterMap_mismatch? d m.fields

theorem isCompatible_iff : (ofModel m d).isCompatible = true ↔ ∀ f ∈ m.fields, f.Fits d := by
  rw [isCompatible, mismatches_eq]
  simp

theorem missing_eq (m : Model) (d : DatabaseDescriptor) :
    (ofModel m d).missing = (m.fields.filter (·.Absent d)).map (·.remoteName) := by
  refine congrArg (List.map _) (List.filter_congr ?_)
  intro f _
  rw [Bool.eq_iff_iff, Option.isNone_iff_eq_none, decide_eq_true_iff]
  exact Field.property?_eq_none_iff

theorem extra_withProperty (hnew : key ∉ d.properties.keys)
    (hother : ∀ f ∈ m.fields, lower key ≠ lower f.remoteName) :
    ∃ front back, (ofModel m d).extra = front ++ back ∧
      (ofModel m (d.withProperty key p)).extra = front ++ key :: back := by
  obtain ⟨front, back, hsplit, hinsert⟩ := Table.exists_insert_eq hnew p
  have hlisted : ∀ f ∈ m.fields, lower f.remoteName ≠ lower key := fun f hf => (hother f hf).symm
  rw [Model.extra_eq_undeclared, Model.extra_eq_undeclared, Model.undeclared, Model.undeclared,
    DatabaseDescriptor.withProperty, hinsert, hsplit]
  simp only [Table.keys, List.map_append, List.map_cons, List.filter_append]
  refine ⟨_, _, rfl, ?_⟩
  rw [List.filter_cons_of_pos (by simpa using hlisted)]

/-- The mismatches are the reports, in field order, on the fields that do not bind to a property of
their type, and the missing names are those of the fields that bind to none, so the model is
compatible iff every field binds to a property of its type. A further property that is the name of
no field up to case changes nothing of this. Its key gets a place among the extra keys, which keep
theirs. -/
theorem verdict_exact (m : Model) (d : DatabaseDescriptor) :
    List.Forall₂ (fun f x => f.Reported d x) (m.fields.filter (¬ ·.Fits d))
      (ofModel m d).mismatches ∧
    (ofModel m d).missing = (m.fields.filter (·.Absent d)).map (·.remoteName) ∧
    ((ofModel m d).isCompatible = true ↔
      ∀ f ∈ m.fields, ∃ p, f.Finds d p ∧ p.kind = f.propertyType.tag) ∧
    ∀ key p, key ∉ d.properties.keys → (∀ f ∈ m.fields, lower key ≠ lower f.remoteName) →
      (ofModel m (d.withProperty key p)).missing = (ofModel m d).missing ∧
      (ofModel m (d.withProperty key p)).mismatches = (ofModel m d).mismatches ∧
      ∃ front back, (ofModel m d).extra = front ++ back ∧
        (ofModel m (d.withProperty key p)).extra = front ++ key :: back := by
  refine ⟨?_, missing_eq m d, ?_, ?_⟩
  · rw [mismatches_eq, List.forall₂_map_right_iff, List.forall₂_same]
    intro f hf
    exact Field.reported_misfit (of_decide_eq_true (List.mem_filter.1 hf).2)
  · rw [isCompatible_iff]
    exact forall₂_congr fun f _ => Field.fits_iff
  · intro key p hnew hother
    have hproperty : ∀ f ∈ m.fields, f.property? (d.withProperty key p) = f.property? d :=
      fun f hf => DatabaseDescriptor.property?_withProperty hnew (hother f hf)
    refine ⟨?_, ?_, extra_withProperty hnew hother⟩
    · refine congrArg (List.map _) (List.filter_congr ?_)
      intro f hf
      rw [hproperty f hf]
    · refine List.filterMap_congr ?_
      intro f hf
      rw [Field.mismatch?, Field.mismatch?, hproperty f hf]

/-- Two fields have one remote name, which is a key of the database up to case, and one has none. -/
def noteModel : Model :=
  ⟨"Note", "db1", [⟨"name", "String", false, [⟨"title", none⟩]⟩, ⟨"NAME", "Number", false, []⟩,
    ⟨"due", "DateTime", false, [⟨"map", some "Due"⟩]⟩]⟩

def noteDatabase : DatabaseDescriptor :=
  ⟨"db1", [], [("Author", ⟨"", "", "people", []⟩), ("Name", ⟨"", "", "title", []⟩)]⟩

theorem noteModel_verdict :
    (ofModel noteModel noteDatabase).missing = ["Due"] ∧
    (ofModel noteModel noteDatabase).mismatches =
      [⟨"NAME", "number", "title"⟩, ⟨"due", "date", "not found"⟩] ∧
    (ofModel noteModel noteDatabase).extra = ["Author"] ∧
    (ofModel noteModel (noteDatabase.withProperty "Done" ⟨"", "", "checkbox", []⟩)).missing =
      ["Due"] ∧
    ∃ front back, ["Author"] = front ++ back ∧
      (ofModel noteModel (noteDatabase.withProperty "Done" ⟨"", "", "checkbox", []⟩)).extra =
        front ++ "Done" :: back := by
  have hmissing : (ofModel noteModel noteDatabase).missing = ["Due"] := by decide +kernel
  have hextra : (ofModel noteModel noteDatabase).extra = ["Author"] := by decide +kernel
  obtain ⟨-, -, -, hfurther⟩ := verdict_exact noteModel noteDatabase
  obtain ⟨hmissing', -, hextra'⟩ := hfurther "Done" ⟨"", "", "checkbox", []⟩ (by decide)
    (by decide +kernel)
  rw [hextra] at hextra'
  exact ⟨hmissing, by decide +kernel, hextra, hmissing'.trans hmissing, hextra'⟩

end ModelDiff

end NotionSchema
