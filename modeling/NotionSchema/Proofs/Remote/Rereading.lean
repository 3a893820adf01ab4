import NotionSchema.Proofs.Table
import NotionSchema.Remote.Database
import NotionSchema.Remote.Page

namespace NotionSchema

namespace Json

variable {α : Type} {read : Json → Option α} {write : α → Json}

/-- What was read is read again from its written form. -/
def ReadsBack (read : Json → Option α) (write : α → Json) : Prop :=
  ∀ v a, read v = some a → read (write a) = some a

theorem mapM_written {as : List α} (h : ∀ a ∈ as, read (write a) = some a) :
    (as.map write).mapM read = some as := by
  induction as with
  | nil => rfl
  | cons a as ih =>
      obtain ⟨ha, has⟩ := List.forall_mem_cons.1 h
      rw [List.map_cons, List.mapM_cons, ha, ih has]
      rfl

theorem exists_of_mem_mapM {β : Type} {f : β → Option α} {bs : List β} {as : List α}
    (h : bs.mapM f = some as) : ∀ a ∈ as, ∃ b ∈ bs, f b = some a := by
  induction bs generalizing as with
  | nil =>
      cases h
      exact fun a ha => absurd ha List.not_mem_nil
  | cons b bs ih =>
      rw [List.mapM_cons] at h
      obtain ⟨a, ha, h⟩ := Option.bind_eq_some_iff.1 h
      obtain ⟨as, has, h⟩ := Option.bind_eq_some_iff.1 h
      cases h
      refine List.forall_mem_cons.2 ⟨⟨b, List.mem_cons_self, ha⟩, fun a' ha' => ?_⟩
      obtain ⟨b', hb', he⟩ := ih has a' ha'
      exact ⟨b', List.mem_cons_of_mem b hb', he⟩

theorem ReadsBack.listOf (h : ReadsBack read write) :
    ReadsBack (listOf? read) fun as => .array (as.map write) := by
  intro v as has
  obtain ⟨items, -, hitems⟩ := Option.bind_eq_some_iff.1 has
  refine mapM_written fun a ha => ?_
  obtain ⟨w, -, hw⟩ := exists_of_mem_mapM hitems a ha
  exact h w a hw

theorem readsBack_self : ReadsBack some id := fun _ _ _ => rfl

def readEntry (read : Json → Option α) (e : String × Json) : Option (String × α) :=
  (read e.2).map fun a => (e.1, a)

theorem mapM_readEntry {t : Table α} (h : ∀ e ∈ t, read (write e.2) = some e.2) :
    (t.mapValues write).mapM (readEntry read) = some t := by
  induction t with
  | nil => rfl
  | cons e t ih =>
      obtain ⟨he, ht⟩ := List.forall_mem_cons.1 h
      have hhead : readEntry read (e.1, write e.2) = some e := by
        rw [readEntry, he]
        rfl
      change ((e.1, write e.2) :: Table.mapValues write t).mapM (readEntry read) = _
      rw [List.mapM_cons, hhead, ih ht]
      rfl

theorem ReadsBack.tableOf (h : ReadsBack read write) :
    ReadsBack (tableOf? read) fun t => .object (t.mapValues write) := by
  intro v t ht
  obtain ⟨members, -, ht⟩ := Option.bind_eq_some_iff.1 ht
  obtain ⟨entries, hentries, ht⟩ := Option.bind_eq_some_iff.1 ht
  cases ht
  have hread : ∀ e ∈ Table.ofList entries, read (write e.2) = some e.2 := by
    intro e he
    obtain ⟨e', -, he'⟩ := exists_of_mem_mapM hentries e (Table.mem_ofList he)
    obtain ⟨a, ha, rfl⟩ := Option.map_eq_some_iff.1 he'
    exact h e'.2 a ha
  change Option.bind (List.mapM (readEntry read) _) _ = _
  rw [mapM_readEntry hread]
  exact congrArg some (Table.ofList_eq_self (Table.ordered_ofList entries))

theorem ReadsBack.withDefault (h : ReadsBack read write) {default : α}
    (hdefault : read (write default) = some default) {field : Option Json} {a : α}
    (ha : withDefault default read field = some a) : read (write a) = some a := by
  cases field with
  | none =>
      cases ha
      exact hdefault
  | some v => exact h v a ha

theorem nullable_ofString? (text : Option String) :
    nullable string? (ofString? text) = some text := by
  cases text <;> rfl

theorem fields?_ofMembers {names : List String} {members : Table Json}
    (hnames : members.keys = names) (h : names.Nodup) :
    fields? names (ofMembers members) = some (members.map fun e => some e.2) := by
  subst hnames
  change some (members.keys.map (Table.get? (Table.ofList members))) = _
  rw [Table.keys, List.map_map]
  refine congrArg some (List.map_congr_left fun e he => ?_)
  change Table.get? (Table.ofList members) e.1 = _
  rw [Table.get?_ofList, Table.get?_reverse h, Table.get?_of_mem h he]

end Json

open Json

theorem RichText.readsBack : ReadsBack RichText.ofJson? RichText.toJson := by
  rintro v ⟨text⟩ -
  rfl

namespace RemoteProperty

variable {p : RemoteProperty} {v : Json}

theorem config_of_ofJson? (h : ofJson? v = some p) :
    ∃ members, v = .object members ∧
      p.config = members.filter fun e => !namedKeys.contains e.1 := by
  obtain ⟨members, hmembers, h⟩ := Option.bind_eq_some_iff.1 h
  obtain ⟨id, -, h⟩ := Option.bind_eq_some_iff.1 h
  obtain ⟨name, -, h⟩ := Option.bind_eq_some_iff.1 h
  obtain ⟨kind, -, h⟩ := Option.bind_eq_some_iff.1 h
  cases h
  cases v with
  | object _ =>
      cases hmembers
      exact ⟨members, rfl, rfl⟩
  | _ => cases hmembers

theorem get?_toJson (p : RemoteProperty) :
    p.toJson.get? "id" = some (.string p.id) ∧ p.toJson.get? "name" = some (.string p.name) ∧
    p.toJson.get? "type" = some (.string p.kind) ∧
    ∀ key ∉ namedKeys, p.toJson.get? key = p.config.get? key := by
  refine ⟨?_, ?_, ?_, fun key hkey => ?_⟩
  · change Table.get? (Table.insert _ _ _) _ = _
    rw [Table.get?_insert_of_ne _ (by decide), Table.get?_insert_of_ne _ (by decide),
      Table.get?_insert_self]
  · change Table.get? (Table.insert _ _ _) _ = _
    rw [Table.get?_insert_of_ne _ (by decide), Table.get?_insert_self]
  · exact Table.get?_insert_self _ _ _
  · simp only [namedKeys, List.mem_cons, List.not_mem_nil, or_false, not_or] at hkey
    obtain ⟨hid, hname, hkind⟩ := hkey
    change Table.get? (Table.insert _ _ _) _ = _
    rw [Table.get?_insert_of_ne _ hkind, Table.get?_insert_of_ne _ hname,
      Table.get?_insert_of_ne _ hid]

theorem readsBack : ReadsBack ofJson? toJson := by
  intro v p h
  obtain ⟨members, -, hconfig⟩ := config_of_ofJson? h
  obtain ⟨hid, hname, hkind, -⟩ := p.get?_toJson
  have hrest : p.config.filter (fun e => !namedKeys.contains e.1) = p.config := by
    rw [hconfig, List.filter_filter]
    simp only [Bool.and_self]
  have hwritten : (((p.config.insert "id" (.string p.id)).insert "name" (.string p.name)).insert
      "type" (.string p.kind)).filter (fun e => !namedKeys.contains e.1) = p.config := by
    rw [Table.filter_insert fun _ => rfl, Table.filter_insert fun _ => rfl,
      Table.filter_insert fun _ => rfl, hrest]
  change Table.get? _ "id" = _ at hid
  change Table.get? _ "name" = _ at hname
  change Table.get? _ "type" = _ at hkind
  rw [ofJson?, toJson]
  simp only [object?, Option.bind_eq_bind, Option.bind_some, hid, hname, hkind, hwritten]
  rfl

theorem get?_written (h : ofJson? v = some p) {key : String} (hkey : key ∉ namedKeys) :
    p.toJson.get? key = v.get? key := by
  obtain ⟨members, rfl, hconfig⟩ := config_of_ofJson? h
  have hkept : (!namedKeys.contains key) = true := by simpa using hkey
  rw [p.get?_toJson.2.2.2 key hkey, hconfig]
  exact Table.get?_filter (p := fun key => !namedKeys.contains key) hkept members

end RemoteProperty

namespace DatabaseDescriptor

variable {d : DatabaseDescriptor} {v : Json}

theorem exists_parts (h : ofJson? v = some d) : ∃ title properties : Option Json,
    withDefault [] (listOf? RichText.ofJson?) title = some d.title ∧
    withDefault [] (tableOf? RemoteProperty.ofJson?) properties = some d.properties := by
  obtain ⟨fields, -, h⟩ := Option.bind_eq_some_iff.1 h
  split at h
  · next title properties =>
      obtain ⟨id, -, h⟩ := Option.bind_eq_some_iff.1 h
      obtain ⟨_, htitle, h⟩ := Option.bind_eq_some_iff.1 h
      obtain ⟨_, hproperties, h⟩ := Option.bind_eq_some_iff.1 h
      cases h
      exact ⟨title, properties, htitle, hproperties⟩
  · cases h

theorem ordered_of_ofJson? (h : ofJson? v = some d) : d.properties.Ordered := by
  obtain ⟨title, properties, -, hproperties⟩ := exists_parts h
  exact ordered_of_tableOf? hproperties

theorem readsBack : ReadsBack ofJson? toJson := by
  intro v d h
  obtain ⟨title, properties, htitle, hproperties⟩ := exists_parts h
  have htitle := RichText.readsBack.listOf.withDefault rfl htitle
  have hproperties := RemoteProperty.readsBack.tableOf.withDefault rfl hproperties
  rw [ofJson?, toJson, fields?_ofMembers]
  · simp only [Option.bind_eq_bind, Option.bind_some, List.map_cons, List.map_nil,
      Json.withDefault, htitle, hproperties]
    rfl
  · rfl
  · decide

end DatabaseDescriptor

namespace Page

variable {p : Page} {v : Json}

theorem exists_properties (h : ofJson? v = some p) : ∃ properties : Option Json,
    withDefault [] (tableOf? some) properties = some p.properties := by
  obtain ⟨fields, -, h⟩ := Option.bind_eq_some_iff.1 h
  split at h
  · next properties =>
      obtain ⟨id, -, h⟩ := Option.bind_eq_some_iff.1 h
      obtain ⟨createdTime, -, h⟩ := Option.bind_eq_some_iff.1 h
      obtain ⟨lastEditedTime, -, h⟩ := Option.bind_eq_some_iff.1 h
      obtain ⟨_, hproperties, h⟩ := Option.bind_eq_some_iff.1 h
      cases h
      exact ⟨properties, hproperties⟩
  · cases h

theorem ordered_of_ofJson? (h : ofJson? v = some p) : p.properties.Ordered := by
  obtain ⟨properties, hproperties⟩ := exists_properties h
  exact ordered_of_tableOf? hproperties

theorem readsBack : ReadsBack ofJson? toJson := by
  intro v p h
  obtain ⟨properties, hproperties⟩ := exists_properties h
  have hproperties := readsBack_self.tableOf.withDefault rfl hproperties
  rw [Table.mapValues_id] at hproperties
  rw [ofJson?, toJson, fields?_ofMembers]
  · simp only [Option.bind_eq_bind, Option.bind_some, List.map_cons, List.map_nil,
      Json.withDefault, hproperties]
    rfl
  · rfl
  · decide

end Page

theorem QueryResponse.readsBack : ReadsBack QueryResponse.ofJson? QueryResponse.toJson := by
  intro v r h
  obtain ⟨fields, -, h⟩ := Option.bind_eq_some_iff.1 h
  split at h
  · obtain ⟨results, hresults, h⟩ := Option.bind_eq_some_iff.1 h
    obtain ⟨nextCursor, -, h⟩ := Option.bind_eq_some_iff.1 h
    obtain ⟨hasMore, -, h⟩ := Option.bind_eq_some_iff.1 h
    cases h
    have hresults := Page.readsBack.listOf.withDefault rfl hresults
    rw [ofJson?, toJson, fields?_ofMembers]
    · simp only [Option.bind_eq_bind, Option.bind_some, List.map_cons, List.map_nil,
        Json.withDefault, hresults, nullable_ofString?]
      rfl
    · rfl
    · decide
  · cases h

/-- Every value that is read as a database, a property, a page or a response is read again from its
written form, and is the same. A property has all keys but the named ones as they were sent. -/
theorem wire_forms_read_back :
    (∀ v d, DatabaseDescriptor.ofJson? v = some d →
      DatabaseDescriptor.ofJson? d.toJson = some d) ∧
    (∀ v p, RemoteProperty.ofJson? v = some p → RemoteProperty.ofJson? p.toJson = some p ∧
      ∀ key ∉ RemoteProperty.namedKeys, p.toJson.get? key = v.get? key) ∧
    (∀ v p, Page.ofJson? v = some p → Page.ofJson? p.toJson = some p) ∧
    ∀ v r, QueryResponse.ofJson? v = some r → QueryResponse.ofJson? r.toJson = some r := by
  refine ⟨DatabaseDescriptor.readsBack, fun v p h => ?_, Page.readsBack, QueryResponse.readsBack⟩
  exact ⟨RemoteProperty.readsBack v p h, fun key => RemoteProperty.get?_written h⟩

def colorJson : Json :=
  .object [("name", .string "Color"), ("select", .object [("options", .array [])]),
    ("type", .string "select"), ("width", .nat 3)]

def paletteJson : Json :=
  .array [.string "db1", .array [.array [.string "Palette"], .object [("href", .null)]],
    .object [("Hue", .object [("type", .string "number")]), ("Color", colorJson)]]

def color : RemoteProperty :=
  ⟨"", "Color", "select", [("select", .object [("options", .array [])]), ("width", .nat 3)]⟩

def palette : DatabaseDescriptor :=
  ⟨"db1", [⟨"Palette"⟩, ⟨""⟩], [("Color", color), ("Hue", ⟨"", "", "number", []⟩)]⟩

def swatchJson : Json :=
  .object [("archived", .bool true), ("id", .string "p1"), ("properties", .object [("Hue", .null)])]

def swatch : Page := ⟨"p1", "", "", [("Hue", .null)]⟩

def swatchesJson : Json :=
  .object [("next_cursor", .null), ("object", .string "list"), ("results", .array [swatchJson])]

def swatches : QueryResponse := ⟨[swatch], none, false⟩

theorem palette_read_back :
    (DatabaseDescriptor.ofJson? paletteJson = some palette ∧
      DatabaseDescriptor.ofJson? palette.toJson = some palette) ∧
    (RemoteProperty.ofJson? colorJson = some color ∧
      RemoteProperty.ofJson? color.toJson = some color ∧
      color.toJson.get? "width" = colorJson.get? "width") ∧
    (Page.ofJson? swatchJson = some swatch ∧ Page.ofJson? swatch.toJson = some swatch) ∧
    QueryResponse.ofJson? swatchesJson = some swatches ∧
    QueryResponse.ofJson? swatches.toJson = some swatches := by
  obtain ⟨hdatabase, hproperty, hpage, hresponse⟩ := wire_forms_read_back
  have hpalette : DatabaseDescriptor.ofJson? paletteJson = some palette := rfl
  have hcolor : RemoteProperty.ofJson? colorJson = some color := rfl
  have hswatch : Page.ofJson? swatchJson = some swatch := rfl
  have hswatches : QueryResponse.ofJson? swatchesJson = some swatches := rfl
  obtain ⟨hread, hkept⟩ := hproperty _ _ hcolor
  exact ⟨⟨hpalette, hdatabase _ _ hpalette⟩, ⟨hcolor, hread, hkept "width" (by decide)⟩,
    ⟨hswatch, hpage _ _ hswatch⟩, hswatches, hresponse _ _ hswatches⟩

end NotionSchema
