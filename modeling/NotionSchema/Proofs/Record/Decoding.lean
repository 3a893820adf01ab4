import NotionSchema.Proofs.Table
import NotionSchema.Record.Decoding
import Mathlib.Data.List.Forall2

namespace NotionSchema

namespace Json

variable {v : Json} {key : String} {elements : List Json} {texts : List String}

/-- The text that a value has under a key, if it has one there. -/
def TextAt (v : Json) (key : String) : Option String → Prop
  | some text => v.get? key = some (.string text)
  | none => ∀ text, v.get? key ≠ some (.string text)

/-- The texts that elements have under a key, in their order. An element that has none there is
passed over. -/
inductive TextsUnder (key : String) : List Json → List String → Prop
  | nil : TextsUnder key [] []
  | found (v : Json) (text : String) (rest : List Json) (texts : List String)
      (h : v.TextAt key (some text)) (hrest : TextsUnder key rest texts) :
      TextsUnder key (v :: rest) (text :: texts)
  | missing (v : Json) (rest : List Json) (texts : List String) (h : v.TextAt key none)
      (hrest : TextsUnder key rest texts) : TextsUnder key (v :: rest) texts

theorem string?_eq_some_iff {text : String} : v.string? = some text ↔ v = .string text := by
  cases v <;> simp [string?]

theorem getString?_eq_some_iff {text : String} :
    v.getString? key = some text ↔ v.get? key = some (.string text) := by
  rw [getString?, Option.bind_eq_some_iff]
  simp only [string?_eq_some_iff, exists_eq_right]

theorem textAt_iff {text : Option String} : v.TextAt key text ↔ v.getString? key = text := by
  cases text with
  | some text => exact getString?_eq_some_iff.symm
  | none =>
      rw [Option.eq_none_iff_forall_ne_some]
      exact forall_congr' fun text => not_congr getString?_eq_some_iff.symm

theorem textsUnder_filterMap (key : String) (elements : List Json) :
    TextsUnder key elements (elements.filterMap (·.getString? key)) := by
  induction elements with
  | nil => exact .nil
  | cons v rest ih =>
      rw [List.filterMap_cons]
      cases h : v.getString? key with
      | none => exact .missing v rest _ (textAt_iff.2 h) ih
      | some text => exact .found v text rest _ (textAt_iff.2 h) ih

theorem TextsUnder.eq_filterMap (h : TextsUnder key elements texts) :
    texts = elements.filterMap (·.getString? key) := by
  induction h with
  | nil => rfl
  | found v text rest texts h _ ih => rw [List.filterMap_cons, textAt_iff.1 h, ih]
  | missing v rest texts h _ ih => rw [List.filterMap_cons, textAt_iff.1 h, ih]

end Json

/-- The person that an element describes. Texts that it lacks are empty, and the address of a
picture is left out. -/
structure Person.ReadFrom (v : Json) (p : Person) : Prop where
  id : ∃ text, v.TextAt "id" text ∧ p.id = text.getD ""
  name : ∃ text, v.TextAt "name" text ∧ p.name = text.getD ""
  avatarUrl : v.TextAt "avatar_url" p.avatarUrl

namespace PropertyValue

open Json (textAt_iff)

variable {v w : Json} {kind : String} {payload : Json}

theorem personOf_readFrom (v : Json) : (personOf v).ReadFrom v where
  id := ⟨_, textAt_iff.2 rfl, rfl⟩
  name := ⟨_, textAt_iff.2 rfl, rfl⟩
  avatarUrl := textAt_iff.2 rfl

theorem decode_of_untyped (h : v.getString? "type" = none) :
    decode v = ⟨.text "", [unknownType ""]⟩ := by
  rw [decode, h]
  rfl

theorem decode_of_typed (h : v.getString? "type" = some kind) :
    decode v = match ofPayload? kind ((v.get? kind).getD .null) with
      | some value => pure value
      | none => ⟨.text "", [unknownType kind]⟩ := by
  rw [decode, h]
  rfl

theorem decode_eq_pure {value : PropertyValue} (h : v.getString? "type" = some kind)
    (hpayload : v.get? kind = some payload) (hvalue : ofPayload? kind payload = some value) :
    decode v = pure value := by
  rw [decode_of_typed h, hpayload, Option.getD_some, hvalue]

theorem decode_congr (htype : v.get? "type" = w.get? "type")
    (hpayload : ∀ kind, v.get? "type" = some (.string kind) → v.get? kind = w.get? kind) :
    decode v = decode w := by
  have hkind : w.getString? "type" = v.getString? "type" := by
    rw [Json.getString?, Json.getString?, htype]
  cases h : v.getString? "type" with
  | none => rw [decode_of_untyped h, decode_of_untyped (hkind.trans h)]
  | some kind =>
      rw [decode_of_typed h, decode_of_typed (hkind.trans h),
        hpayload kind (Json.getString?_eq_some_iff.1 h)]

end PropertyValue

namespace Record

theorem decodeProperties_value (t : Table Json) : (decodeProperties t).value =
    t.mapValues fun v => (PropertyValue.decode v).value := by
  induction t with
  | nil => rfl
  | cons e t ih =>
      rw [decodeProperties, Logged.value_bind, Logged.value_bind, ih]
      rfl

theorem decodeProperties_log (t : Table Json) :
    (decodeProperties t).log = t.flatMap fun e => (PropertyValue.decode e.2).log := by
  induction t with
  | nil => rfl
  | cons e t ih =>
      rw [decodeProperties, Logged.log_bind, Logged.log_bind, Logged.log_pure, List.append_nil, ih,
        List.flatMap_cons]

theorem get?_decode (p : Page) (name : String) : (decode p).value.get? name =
    (p.properties.get? name).map fun v => (PropertyValue.decode v).value := by
  change Table.get? (decodeProperties p.properties).value name = _
  rw [decodeProperties_value, Table.get?_mapValues]

end Record

def PropertyValue.EntryOf (property : String × Json) (entry : String × PropertyValue) : Prop :=
  entry.1 = property.1 ∧ entry.2 = (decode property.2).value

/-- Two properties that have the same type, and the same payload under it, are decoded alike, with
the same warnings. The names of a sequence of options or files, and the ids of a relation, are those
of its elements that have one, in order, and every element of a sequence of people is a person. A
page gives one entry for each of its properties, which depends on that property alone, as do the
warnings for it. -/
theorem decoded_from_own_payload :
    (∀ v w : Json, v.get? "type" = w.get? "type" →
      (∀ kind, v.get? "type" = some (.string kind) → v.get? kind = w.get? kind) →
      PropertyValue.decode v = PropertyValue.decode w) ∧
    (∀ (v : Json) (kind : String) (elements : List Json),
      v.get? "type" = some (.string kind) → v.get? kind = some (.array elements) →
      (kind = "multi_select" ∨ kind = "files" → ∃ names,
        Json.TextsUnder "name" elements names ∧ PropertyValue.decode v = pure (.list names)) ∧
      (kind = "relation" → ∃ ids,
        Json.TextsUnder "id" elements ids ∧ PropertyValue.decode v = pure (.references ids)) ∧
      (kind = "people" → ∃ people, List.Forall₂ Person.ReadFrom elements people ∧
        PropertyValue.decode v = pure (.people people))) ∧
    (∀ page : Page,
      List.Forall₂ PropertyValue.EntryOf page.properties (Record.decode page).value.properties ∧
      (Record.decode page).log =
        page.properties.flatMap fun property => (PropertyValue.decode property.2).log) ∧
    ∀ (page page' : Page) (name : String),
      page.properties.get? name = page'.properties.get? name →
      (Record.decode page).value.get? name = (Record.decode page').value.get? name := by
  refine ⟨fun v w => PropertyValue.decode_congr, ?_, ?_, ?_⟩
  · intro v kind elements htype hpayload
    have hkind := Json.getString?_eq_some_iff.2 htype
    refine ⟨?_, ?_, ?_⟩
    · rintro (rfl | rfl)
      · exact ⟨_, Json.textsUnder_filterMap "name" elements,
          PropertyValue.decode_eq_pure hkind hpayload rfl⟩
      · exact ⟨_, Json.textsUnder_filterMap "name" elements,
          PropertyValue.decode_eq_pure hkind hpayload rfl⟩
    · rintro rfl
      exact ⟨_, Json.textsUnder_filterMap "id" elements,
        PropertyValue.decode_eq_pure hkind hpayload rfl⟩
    · rintro rfl
      refine ⟨elements.map PropertyValue.personOf, ?_,
        PropertyValue.decode_eq_pure hkind hpayload rfl⟩
      rw [List.forall₂_map_right_iff]
      exact List.forall₂_same.2 fun v _ => PropertyValue.personOf_readFrom v
  · intro page
    refine ⟨?_, ?_⟩
    · change List.Forall₂ _ _ (Record.decodeProperties page.properties).value
      rw [Record.decodeProperties_value, Table.mapValues, List.forall₂_map_right_iff]
      exact List.forall₂_same.2 fun _ _ => ⟨rfl, rfl⟩
    · change (Record.decodeProperties page.properties).log ++ [] = _
      rw [List.append_nil, Record.decodeProperties_log]
  · intro page page' name h
    rw [Record.get?_decode, Record.get?_decode, h]

def labels : List Json :=
  [.object [("name", .string "red")], .null, .object [("name", .nat 3)],
    .object [("id", .string "x")], .object [("name", .string "blue")],
    .object [("color", .string "b"), ("name", .string "red")]]

def labelled (others : List (String × Json)) : Json :=
  .object (others ++ [("multi_select", .array labels), ("type", .string "multi_select")])

theorem labels_decoded :
    PropertyValue.decode (labelled [("files", .array []), ("name", .string "Color")]) =
      PropertyValue.decode (labelled []) ∧
    PropertyValue.decode (labelled []) = pure (.list ["red", "blue", "red"]) ∧
    (Record.decode ⟨"p1", "", "", [("Color", labelled []), ("Due", .null)]⟩).value.get? "Color" =
      (Record.decode ⟨"p2", "", "", [("Color", labelled [])]⟩).value.get? "Color" := by
  obtain ⟨halike, hsequence, -, hpages⟩ := decoded_from_own_payload
  refine ⟨?_, ?_, hpages _ _ "Color" rfl⟩
  · refine halike _ _ rfl fun kind hkind => ?_
    cases hkind
    rfl
  · obtain ⟨names, hnames, hvalue⟩ := (hsequence (labelled []) _ labels rfl rfl).1 (.inl rfl)
    rw [hvalue, hnames.eq_filterMap]
    rfl

end NotionSchema
