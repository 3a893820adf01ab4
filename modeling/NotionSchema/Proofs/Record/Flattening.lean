import NotionSchema.Proofs.Table
import NotionSchema.Record.Encoding

namespace NotionSchema

theorem propertiesJson_eq (properties : Table PropertyValue) :
    propertiesJson properties = properties.mapValues PropertyValue.toJson := by
  induction properties with
  | nil => rfl
  | cons e properties ih =>
      rw [propertiesJson, ih]
      rfl

theorem recordsJson_eq (rs : List Record) : recordsJson rs = rs.map Record.toJson := by
  induction rs with
  | nil => rfl
  | cons r rs ih => rw [recordsJson, ih, List.map_cons]

namespace Json

theorem normalizeItems_eq (items : List Json) : normalizeItems items = items.map normalize := by
  induction items with
  | nil => rfl
  | cons v items ih => rw [normalizeItems, ih, List.map_cons]

theorem normalizeMembers_eq (members : Table Json) :
    normalizeMembers members = members.mapValues normalize := by
  induction members with
  | nil => rfl
  | cons e members ih =>
      rw [normalizeMembers, ih]
      rfl

end Json

namespace PropertyValue

def toTree (v : PropertyValue) : Json := v.toJson.normalize

@[simp] theorem toTree_record (r : Record) : (record r).toTree = r.toTree := by
  rw [toTree, toJson, Record.toTree]

@[simp] theorem toTree_records (rs : List Record) :
    (records rs).toTree = .array (rs.map Record.toTree) := by
  rw [toTree, toJson, Json.normalize, recordsJson_eq, Json.normalizeItems_eq, List.map_map]
  rfl

end PropertyValue

namespace Record

def systemFields (r : Record) : Table String :=
  [("id", r.id), ("createdTime", r.createdTime), ("lastEditedTime", r.lastEditedTime)]

theorem toTree_eq (r : Record) : r.toTree = .ofMembers
    (r.systemFields.mapValues .string ++ Table.mapValues PropertyValue.toTree r.properties) := by
  obtain ⟨id, createdTime, lastEditedTime, properties⟩ := r
  rw [toTree, toJson, Json.normalize, Json.normalizeMembers_eq, propertiesJson_eq]
  simp only [Table.mapValues, List.map_cons, List.map_map]
  rfl

theorem nodup_systemFields (r : Record) : r.systemFields.keys.Nodup := by
  simp [systemFields, Table.keys]

/-- What a document has under a key: the value of the property, else the system field. -/
theorem get?_toTree {r : Record} (h : Table.Ordered r.properties) (key : String) :
    r.toTree.get? key = ((r.get? key).map PropertyValue.toTree).or
      ((r.systemFields.get? key).map .string) := by
  have hsystem : (r.systemFields.mapValues Json.string).keys.Nodup := by
    rw [Table.keys_mapValues]
    exact r.nodup_systemFields
  have hproperties : (Table.mapValues PropertyValue.toTree r.properties).keys.Nodup :=
    Table.nodup_keys (Table.ordered_mapValues h _)
  rw [toTree_eq]
  change Table.get? (Table.ofList _) key = _
  rw [Table.get?_ofList, List.reverse_append, List.lookup_append, Table.get?_reverse hproperties,
    Table.get?_reverse hsystem, Table.get?_mapValues, Table.get?_mapValues]
  rfl

theorem exists_toTree_eq (r : Record) :
    ∃ members : Table Json, members.Ordered ∧ r.toTree = .object members := by
  rw [toTree_eq]
  exact ⟨_, Table.ordered_ofList _, rfl⟩

end Record

theorem PropertyValue.toTree_eq_string_iff {v : PropertyValue} {text : String} :
    v.toTree = .string text ↔ v = .text text ∨ v = .date (some text) := by
  cases v with
  | record r =>
      obtain ⟨members, -, htree⟩ := r.exists_toTree_eq
      simp [htree]
  | date start => cases start <;> simp [toTree, toJson, Json.ofString?, Json.normalize]
  | _ => simp [toTree, toJson, Json.strings, Json.normalize]

end NotionSchema
